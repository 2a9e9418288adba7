import Plotline.Proofs.Json.Record
import Plotline.Proofs.Number.Restored

/-!
The numbers in the tree of a written value are finite once they are narrowed: whole numbers of a word are, and a number
that is not finite leaves none in the tree.
-/

namespace Plotline

namespace Single

private theorem isFinite_of_exponent {x : Single} (ordinary : x.bits.toNat / Nat.pow 2 23 % Nat.pow 2 8 ≠ 255) :
    x.isFinite = true := by
  unfold isFinite form
  dsimp only
  rw [if_neg ordinary]
  by_cases least : x.bits.toNat / Nat.pow 2 23 % Nat.pow 2 8 = 0
  · rw [if_pos least]
  · rw [if_neg least]

theorem isFinite_ofMagnitude (negative : Bool) {m : Dyadic} (below : m.significand < 2 ^ 24) (most : m.exponent ≤ 104) :
    (ofMagnitude negative (some m)).isFinite = true := by
  have sign : Nat.pow 2 31 = 2147483648 := by decide
  have fraction : Nat.pow 2 23 = 8388608 := by decide
  have exponent : Nat.pow 2 8 = 256 := by decide
  apply isFinite_of_exponent
  unfold ofMagnitude
  dsimp only
  rw [sign, fraction, exponent, UInt32.toNat_ofNat']
  split <;> omega

private theorem isFinite_nearest (negative : Bool) {n : ℕ} (word : n < 2 ^ 64) :
    (ofMagnitude negative (Precision.single.nearest n 1)).isFinite = true := by
  rcases Nat.eq_zero_or_pos n with rfl | positive
  · exact isFinite_ofMagnitude negative (by decide) (by decide)
  · have fits : Precision.single.Fits ((n : ℚ) / (1 : ℕ)) := by
      have less : (n : ℚ) < 2 ^ 64 := by exact_mod_cast word
      have exponent : ((Precision.single.bits : ℤ) - 1 + Precision.single.most) = (127 : ℕ) := rfl
      refine ⟨by decide, by decide, ?_⟩
      rw [exponent, zpow_natCast, Nat.cast_one, div_one]
      exact less.trans (pow_lt_pow_right₀ one_lt_two (by decide))
    obtain ⟨y, made, -⟩ := Precision.nearest_near fits positive one_pos
    obtain ⟨below, most⟩ := Precision.nearest_bounds (by decide) one_pos made
    rw [made]
    exact isFinite_ofMagnitude negative below most

theorem isFinite_of_numeral? {x : Single} {n : Numeral} (is : x.numeral? = some n) : x.isFinite = true := by
  unfold numeral? at is
  unfold isFinite
  cases form : x.form with
  | finite m => rfl
  | infinite =>
      rw [form] at is
      cases is
  | undefined =>
      rw [form] at is
      cases is

end Single

theorem Number.isFinite_ofInt {n : ℤ} (least : -9223372036854775808 ≤ n) (most : n < 18446744073709551616) :
    (Number.ofInt n).toSingle.isFinite = true := by
  cases n with
  | ofNat n => exact Single.isFinite_nearest false (Int.ofNat_lt.mp most)
  | negSucc n => exact Single.isFinite_nearest true (by omega)

namespace Json

/-- The whole numbers in the value fit a word. -/
inductive InWords : Json → Prop
  | null : InWords .null
  | bool (b : Bool) : InWords (.bool b)
  | number {n : ℤ} (least : -9223372036854775808 ≤ n) (most : n < 18446744073709551616) : InWords (.number n)
  | single (x : Single) : InWords (.single x)
  | text (s : String) : InWords (.text s)
  | list {items : List Json} (each : ∀ item ∈ items, InWords item) : InWords (.list items)
  | object {members : List (String × Json)} (each : ∀ member ∈ members, InWords member.2) :
      InWords (.object members)

@[simp] theorem inWords_text (s : String) : (text s).InWords := .text s

@[simp] theorem inWords_bool (b : Bool) : (bool b).InWords := .bool b

@[simp] theorem inWords_single (x : Single) : (single x).InWords := .single x

@[simp] theorem inWords_list {items : List Json} : (list items).InWords ↔ ∀ item ∈ items, item.InWords := by
  constructor
  · rintro ⟨⟩
    assumption
  · exact .list

theorem inWords_object {members : List (String × Json)} :
    (object members).InWords ↔ ∀ member ∈ members, member.2.InWords := by
  constructor
  · rintro ⟨⟩
    assumption
  · exact .object

@[simp] theorem inWords_object_nil : (object []).InWords := .object nofun

@[simp] theorem inWords_object_cons {name : String} {v : Json} {members : List (String × Json)} :
    (object ((name, v) :: members)).InWords ↔ v.InWords ∧ (object members).InWords := by
  rw [inWords_object, inWords_object, List.forall_mem_cons]

@[simp] theorem inWords_object_append {members more : List (String × Json)} :
    (object (members ++ more)).InWords ↔ (object members).InWords ∧ (object more).InWords := by
  rw [inWords_object, inWords_object, inWords_object, List.forall_mem_append]

private theorem mem_itemTrees {doc : Doc} {items : List Json} (member : doc ∈ itemTrees items) :
    ∃ item ∈ items, doc = item.tree := by
  induction items with
  | nil => cases member
  | cons item items ih =>
      rcases List.mem_cons.mp member with rfl | later
      · exact ⟨item, List.mem_cons_self, rfl⟩
      · obtain ⟨other, among, same⟩ := ih later
        exact ⟨other, List.mem_cons_of_mem item among, same⟩

private theorem mem_memberTrees {part : Except Break String × Doc} {members : List (String × Json)}
    (member : part ∈ memberTrees members) : ∃ given ∈ members, part.2 = given.2.tree := by
  induction members with
  | nil => cases member
  | cons first members ih =>
      obtain ⟨name, v⟩ := first
      rcases List.mem_cons.mp member with rfl | later
      · exact ⟨(name, v), List.mem_cons_self, rfl⟩
      · obtain ⟨given, among, same⟩ := ih later
        exact ⟨given, List.mem_cons_of_mem _ among, same⟩

theorem tree_numbers {v : Json} (inWords : v.InWords) : v.tree.Numbers fun n => n.toSingle.isFinite = true := by
  induction inWords with
  | null => exact nofun
  | bool b => exact nofun
  | text s => exact nofun
  | number least most =>
      rw [tree_number least most]
      rintro _ ⟨⟩
      exact Number.isFinite_ofInt least most
  | single x =>
      rw [Json.tree]
      cases is : x.numeral? with
      | none =>
          unfold Single.tree
          rw [is]
          exact nofun
      | some n =>
          have finite := Single.isFinite_of_numeral? is
          obtain ⟨k, tree, same⟩ := Single.restored_of_finite finite
          rw [tree]
          rintro _ ⟨⟩
          rw [same]
          exact finite
  | list each ih =>
      apply Doc.Numbers.list
      intro doc member
      obtain ⟨item, among, rfl⟩ := mem_itemTrees member
      exact ih item among
  | object each ih =>
      apply Doc.Numbers.object
      intro part member
      obtain ⟨given, among, same⟩ := mem_memberTrees member
      rw [same]
      exact ih given among

end Json

end Plotline
