import Mathlib.Data.List.Pairwise
import Plotline.Proofs.Save.Slots

/-!
What is listed of a folder that holds files of any names. A slot is listed for each name that its number can be read
from, and a number has more spellings than the one in the name of its file.
-/

namespace Plotline.Slots

/-! ### The names that are read -/

theorem between?_eq_some {first last cs middle : List Char} :
    between? first last cs = some middle ↔ cs = first ++ middle ++ last := by
  constructor
  · intro inside
    unfold between? at inside
    split at inside
    · rename_i both
      obtain ⟨starts, ends⟩ := Bool.and_eq_true_iff.mp both
      obtain ⟨tail, rfl⟩ := List.isPrefixOf_iff_prefix.mp starts
      rw [List.drop_left] at ends inside
      obtain ⟨part, rfl⟩ := List.isSuffixOf_iff_suffix.mp ends
      have width : (first ++ (part ++ last)).length - first.length - last.length = part.length := by
        simp only [List.length_append]
        omega
      rw [width, List.take_left] at inside
      rw [← Option.some.inj inside, List.append_assoc]
    · cases inside
  · rintro rfl
    exact between?_append first middle last

/-- The name of a slot's file with its number in one of the spellings that numbers have. -/
def spelledName (signed : Bool) (zeros slot : Nat) : String :=
  "slot-" ++ Text.numeralText signed zeros slot ++ ".json"

theorem slotOf?_eq_some {name : String} {slot : Nat} :
    slotOf? name = some slot ↔ slot < limit ∧ ∃ signed zeros, name = spelledName signed zeros slot := by
  have framed (digits : List Char) : name.toList = "slot-".toList ++ digits ++ ".json".toList ↔
      name = "slot-" ++ String.ofList digits ++ ".json" := by
    rw [← String.toList_inj]
    simp only [String.toList_append, String.toList_ofList]
  unfold slotOf?
  constructor
  · intro read
    obtain ⟨digits, inside, value⟩ := Option.bind_eq_some_iff.mp read
    obtain ⟨below, signed, zeros, is⟩ := Text.readNatural?_eq_some.mp value
    refine ⟨below, signed, zeros, ?_⟩
    rw [(framed digits).mp (between?_eq_some.mp inside), is, spelledName]
  · rintro ⟨below, signed, zeros, is⟩
    refine Option.bind_eq_some_iff.mpr ⟨(Text.numeralText signed zeros slot).toList, ?_, ?_⟩
    · rw [between?_eq_some, framed, String.ofList_toList]
      exact is
    · rw [String.ofList_toList]
      exact Text.readNatural?_eq_some.mpr ⟨below, signed, zeros, rfl⟩

theorem slotOf?_lt {name : String} {slot : Nat} (read : slotOf? name = some slot) : slot < UInt32.size :=
  (slotOf?_eq_some.mp read).1

/-! ### What a folder answers -/

section

variable {s : Slots} {items : List (String × Item)}

theorem load_ne_none_iff (made : s.folder.make? = some items) (slot : Nat) :
    s.load slot ≠ .ok none ↔ fileName slot ∈ items.map (·.1) := by
  rw [← Folder.lookup_isSome_iff]
  cases stands : items.lookup (fileName slot) with
  | none => simp [load_of_none made stands]
  | some item =>
    refine iff_of_true ?_ rfl
    obtain ⟨-, rfl⟩ | folder := folder_of_make? made
    · cases stands
    · unfold load
      rw [folder]
      dsimp only
      rw [stands]
      cases item with
      | folder => nofun
      | file bytes =>
        dsimp only
        split <;> nofun

theorem delete_ne_notFound_iff (made : s.folder.make? = some items) (slot : Nat) :
    s.delete slot ≠ .error (.notFound slot) ↔ fileName slot ∈ items.map (·.1) := by
  rw [← Folder.lookup_isSome_iff]
  cases stands : items.lookup (fileName slot) with
  | none => simp [delete_of_none made stands]
  | some item =>
    refine iff_of_true ?_ rfl
    obtain ⟨-, rfl⟩ | folder := folder_of_make? made
    · cases stands
    · unfold delete
      rw [folder]
      dsimp only
      rw [stands]
      cases item <;> nofun

/-- Every name in the folder that a slot is read from is the name of the file of that slot. -/
def Named (items : List (String × Item)) : Prop :=
  ∀ item ∈ items, ∀ slot, slotOf? item.1 = some slot → item.1 = fileName slot

theorem Named.numbers_nodup (named : Named items) (distinct : (items.map (·.1)).Nodup) :
    (items.filterMap (slotOf? ·.1)).Nodup := by
  have apart := List.pairwise_map.mp distinct
  refine List.pairwise_filterMap.mpr (apart.imp_of_mem ?_)
  rintro item other here there different slot read _ again rfl
  exact different ((named item here slot read).trans (named other there slot again).symm)

/-- Two names that the same slot is read from are one, when no slot is listed twice. -/
theorem name_unique (once : (items.filterMap (slotOf? ·.1)).Nodup) {item other : String × Item} (here : item ∈ items)
    (there : other ∈ items) {slot : Nat} (read : slotOf? item.1 = some slot) (again : slotOf? other.1 = some slot) :
    item = other := by
  by_contra different
  have apart := List.pairwise_filterMap.mp once
  have symmetric : Std.Symm fun item other : String × Item =>
      ∀ b, slotOf? item.1 = some b → ∀ b', slotOf? other.1 = some b' → b ≠ b' :=
    ⟨fun _ _ apart b read b' again => (apart b' again b read).symm⟩
  exact apart.forall here there different slot read slot again rfl

/-- Which slots are listed of a folder, and how often. Every slot that can be loaded or deleted is listed. That each of
the listed slots can be, and is listed once, says just that all the names are those the slots write. -/
theorem slots_listed (made : s.folder.make? = some items) (distinct : (items.map (·.1)).Nodup) :
    ∃ listed, s.list = .ok listed ∧ listed.Pairwise (· ≤ ·) ∧
      (∀ slot, listed.count slot = items.countP (slotOf? ·.1 == some slot)) ∧
      (∀ name slot, slotOf? name = some slot ↔ slot < limit ∧ ∃ signed zeros, name = spelledName signed zeros slot) ∧
      (∀ slot : UInt32, s.load slot.toNat ≠ .ok none ↔ s.delete slot.toNat ≠ .error (.notFound slot.toNat)) ∧
      (∀ slot : UInt32, s.load slot.toNat ≠ .ok none → slot.toNat ∈ listed) ∧
      ((listed.Nodup ∧ ∀ slot : UInt32, slot.toNat ∈ listed → s.load slot.toNat ≠ .ok none) ↔ Named items) := by
  have perm : ((items.filterMap (slotOf? ·.1)).foldr insertSorted []).Perm (items.filterMap (slotOf? ·.1)) := by
    rw [foldr_insertSorted]
    exact List.perm_insertionSort (· ≤ ·) _
  refine ⟨_, list_of_make? made, ?_, fun slot => ?_, fun _ _ => slotOf?_eq_some, fun slot => ?_, fun slot found => ?_,
    ?_⟩
  · rw [foldr_insertSorted]
    exact List.pairwise_insertionSort (· ≤ ·) _
  · rw [perm.count_eq, List.count_filterMap]
  · rw [load_ne_none_iff made, delete_ne_notFound_iff made]
  · obtain ⟨item, member, name⟩ := List.mem_map.mp ((load_ne_none_iff made _).mp found)
    exact mem_sorted.mpr (List.mem_filterMap.mpr ⟨item, member, by rw [name, slotOf?_fileName]⟩)
  · rw [perm.nodup_iff]
    constructor
    · rintro ⟨once, found⟩ item member slot read
      have listed : slot ∈ items.filterMap (slotOf? ·.1) := List.mem_filterMap.mpr ⟨item, member, read⟩
      have below := slotOf?_lt read
      have loaded := found (UInt32.ofNatLT slot below) (mem_sorted.mpr listed)
      obtain ⟨own, there, name⟩ := List.mem_map.mp ((load_ne_none_iff made _).mp loaded)
      have again : slotOf? own.1 = some slot := by
        rw [name, slotOf?_fileName]
        rfl
      rw [name_unique once member there read again, name]
      rfl
    · intro named
      refine ⟨named.numbers_nodup distinct, fun slot listed => ?_⟩
      obtain ⟨item, member, read⟩ := List.mem_filterMap.mp (mem_sorted.mp listed)
      rw [load_ne_none_iff made, ← named item member _ read]
      exact List.mem_map_of_mem member

end

/-- A folder into which files were copied by hand. -/
def attic : Slots :=
  { path := "saves"
    folder :=
      .present
        [("slot-7.json", .file .empty), ("slot-+7.json", .file .empty), ("slot-08.json", .file .empty),
          ("notes", .folder)] }

/-- The slot whose number stands in two names is listed twice, and one without a file is listed too. -/
theorem attic_listed :
    (∃ items, attic.folder.make? = some items ∧ (items.map (·.1)).Nodup ∧ ¬ Named items) ∧
      ∃ listed, attic.list = .ok listed ∧ listed.count 7 = 2 ∧ listed.count 8 = 1 ∧ 7 ∈ listed := by
  have distinct : (["slot-7.json", "slot-+7.json", "slot-08.json", "notes"] : List String).Nodup := by decide
  obtain ⟨listed, is, -, counts, -, -, found, exact⟩ := slots_listed (s := attic) rfl distinct
  have twice : listed.count 7 = 2 := (counts 7).trans (by decide)
  have loaded : attic.load (7 : UInt32).toNat ≠ .ok none := (load_ne_none_iff (s := attic) rfl 7).mpr (by decide)
  refine ⟨⟨_, rfl, distinct, fun named => ?_⟩, listed, is, twice, (counts 8).trans (by decide), found 7 loaded⟩
  have once := List.nodup_iff_count_le_one.mp (exact.mpr named).1 7
  omega

/-- A folder with a file whose name has zeros before the number. -/
def shelf : Slots := { path := "saves", folder := .present [("slot-007.json", .file .empty)] }

/-- A slot can be listed that holds nothing. -/
theorem listed_without_file :
    ¬ ∀ s : Slots, ∀ items, s.folder.make? = some items → (items.map (·.1)).Nodup →
      ∃ listed, s.list = .ok listed ∧ listed.Nodup ∧
        ∀ slot : UInt32, slot.toNat ∈ listed ↔
          s.load slot.toNat ≠ .ok none ∧ s.delete slot.toNat ≠ .error (.notFound slot.toNat) := by
  intro listing
  obtain ⟨listed, is, -, found⟩ := listing shelf _ rfl (by decide)
  have seven : shelf.list = .ok [7] := by decide
  obtain rfl : listed = [7] := Except.ok.inj (is.symm.trans seven)
  exact ((found 7).mp (List.mem_singleton.mpr rfl)).1 rfl

end Plotline.Slots
