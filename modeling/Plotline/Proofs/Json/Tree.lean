import Plotline.Json.Reader
import Plotline.Proofs.Number.Stored

/-!
The tree that a written value has. `Json.tree` is the second reading of `Json.compact` and `Json.pretty`: both texts are
read as it.
-/

namespace Plotline

def Numeral.tree (n : Numeral) : Doc :=
  match n.value with
  | some value => .number value
  | none => .broken .other ⟨.numeralOutOfRange, none⟩

/-- A number that has no numeral is written as nothing. -/
def Single.tree (x : Single) : Doc :=
  match x.numeral? with
  | some n => n.tree
  | none => .null

/-- The number is read back from its numeral. -/
def Single.Restored (x : Single) : Prop := ∃ n, x.tree = .number n ∧ n.toSingle = x

namespace Json

mutual

def tree : Json → Doc
  | .null => .null
  | .bool b => .bool b
  | .number n => (Numeral.ofInt n).tree
  | .single x => x.tree
  | .text s => .text s
  | .list items => .list (itemTrees items) .closed
  | .object members => .object (memberTrees members) .closed

def itemTrees : List Json → List Doc
  | [] => []
  | item :: items => tree item :: itemTrees items

def memberTrees : List (String × Json) → List (Except Break String × Doc)
  | [] => []
  | (key, value) :: members => (.ok key, tree value) :: memberTrees members

end

theorem tree_number {n : Int} (least : -9223372036854775808 ≤ n) (most : n < 18446744073709551616) :
    (number n).tree = .number (.ofInt n) := by
  unfold tree Numeral.tree
  rw [Numeral.value_ofInt least most]

end Json

namespace Doc

/-- Where each item can be taken up, the items can. -/
theorem takenItems?_trees {room : Nat} {items : List Json}
    (each : ∀ item ∈ items, item.tree.taken? room = none) : takenItems? room (Json.itemTrees items) = none := by
  induction items with
  | nil => rfl
  | cons item items ih =>
      have rest := ih fun other member => each other (List.mem_cons_of_mem item member)
      rw [Json.itemTrees, takenItems?, each item List.mem_cons_self, rest]
      rfl

theorem takenMembers?_trees {room : Nat} {members : List (String × Json)}
    (each : ∀ member ∈ members, member.2.tree.taken? room = none) :
    takenMembers? room (Json.memberTrees members) = none := by
  induction members with
  | nil => rfl
  | cons member members ih =>
      obtain ⟨key, value⟩ := member
      have first : value.tree.taken? room = none := each (key, value) List.mem_cons_self
      have rest := ih fun other member => each other (List.mem_cons_of_mem _ member)
      rw [Json.memberTrees, takenMembers?, first, rest]
      rfl

end Doc

end Plotline
