import Mathlib.Data.List.Induction
import Mathlib.Data.List.Sort
import Plotline.Proofs.Format.Snapshot
import Plotline.Proofs.Save.Folder
import Plotline.Proofs.Text.Natural
import Plotline.Save.Slots

/-!
Save slots as a map from numbers to entries. The folder of the slots, begun empty, holds one file for each slot that is
occupied and nothing else, and whatever is asked of the slots is answered from what was saved last.
-/

namespace Plotline.Slots

/-! ### Names of files -/

theorem between?_append (first middle last : List Char) :
    between? first last (first ++ middle ++ last) = some middle := by
  have starts : first.isPrefixOf (first ++ middle ++ last) = true := by
    rw [List.isPrefixOf_iff_prefix, List.append_assoc]
    exact List.prefix_append first (middle ++ last)
  have inner : (first ++ middle ++ last).drop first.length = middle ++ last := by
    rw [List.append_assoc, List.drop_left]
  have ends : last.isSuffixOf (middle ++ last) = true :=
    List.isSuffixOf_iff_suffix.mpr (List.suffix_append middle last)
  have width : (first ++ middle ++ last).length - first.length - last.length = middle.length := by
    simp only [List.length_append]
    omega
  unfold between?
  rw [inner, starts, ends, width, List.take_left]
  rfl

/-- The number of a slot is read back from the name of its file. -/
theorem slotOf?_fileName (slot : UInt32) : slotOf? (fileName slot.toNat) = some slot.toNat := by
  have written : (fileName slot.toNat).toList =
      "slot-".toList ++ (toString slot.toNat).toList ++ ".json".toList := by
    simp only [fileName, String.toList_append]
  unfold slotOf?
  rw [written, between?_append, Option.bind_some, String.ofList_toList]
  exact Text.readNatural?_toString slot.toNat_lt

theorem fileName_inj {slot other : UInt32} : fileName slot.toNat = fileName other.toNat ↔ slot = other := by
  constructor
  · intro same
    have read := congrArg slotOf? same
    rw [slotOf?_fileName, slotOf?_fileName] at read
    exact UInt32.toNat_inj.mp (Option.some.inj read)
  · rintro rfl
    rfl

/-! ### Sorting -/

theorem insertSorted_eq (n : Nat) (ms : List Nat) : insertSorted n ms = ms.orderedInsert (· ≤ ·) n := by
  induction ms with
  | nil => rfl
  | cons m ms ih => rw [insertSorted, List.orderedInsert_cons, ih]

theorem foldr_insertSorted (ns : List Nat) : ns.foldr insertSorted [] = ns.insertionSort (· ≤ ·) := by
  induction ns with
  | nil => rfl
  | cons n ns ih => rw [List.foldr_cons, ih, insertSorted_eq, List.insertionSort_cons]

theorem sorted_strictly {ns : List Nat} (distinct : ns.Nodup) : (ns.foldr insertSorted []).Pairwise (· < ·) := by
  rw [foldr_insertSorted]
  have ascending := List.pairwise_insertionSort (· ≤ ·) ns
  have apart := (List.perm_insertionSort (· ≤ ·) ns).nodup_iff.mpr distinct
  exact (ascending.and apart).imp fun both => Nat.lt_of_le_of_ne both.1 both.2

theorem mem_sorted {ns : List Nat} {n : Nat} : n ∈ ns.foldr insertSorted [] ↔ n ∈ ns := by
  rw [foldr_insertSorted]
  exact (List.perm_insertionSort (· ≤ ·) ns).mem_iff

/-! ### Operations and what they leave in a slot -/

inductive Operation
  | save (slot : UInt32) (entries : List SnapshotEntry)
  | load (slot : UInt32)
  | list
  | delete (slot : UInt32)

namespace Operation

/-- The slots after the operation, whether it succeeded or failed. -/
def perform : Operation → Slots → Slots
  | save slot entries, s => (s.save slot.toNat entries).2
  | delete slot, s => (s.delete slot.toNat).toOption.getD s
  | _, s => s

/-- The slot that the operation is about. -/
def slot? : Operation → Option UInt32
  | save slot _ | load slot | delete slot => some slot
  | list => none

/-- What the operation leaves in the slot, if it writes there or deletes. -/
def leaves? (slot : UInt32) : Operation → Option (Option (List SnapshotEntry))
  | save there entries => if there = slot then some (some entries) else none
  | delete there => if there = slot then some none else none
  | _ => none

theorem leaves?_save (slot : UInt32) (entries : List SnapshotEntry) :
    (save slot entries).leaves? slot = some (some entries) :=
  if_pos rfl

theorem leaves?_delete (slot : UInt32) : (delete slot).leaves? slot = some none :=
  if_pos rfl

theorem leaves?_eq_none {op : Operation} {slot : UInt32} (elsewhere : op.slot? ≠ some slot) : op.leaves? slot = none := by
  cases op with
  | save there | delete there => exact if_neg fun same => elsewhere (congrArg some same)
  | load | list => rfl

end Operation

def run (ops : List Operation) (s : Slots) : Slots := ops.foldl (fun s op => op.perform s) s

theorem run_concat (ops : List Operation) (op : Operation) (s : Slots) :
    s.run (ops ++ [op]) = op.perform (s.run ops) :=
  List.foldl_concat ..

/-- The entries last saved in the slot, unless they have been deleted since. -/
def held (ops : List Operation) (slot : UInt32) : Option (List SnapshotEntry) :=
  (ops.filterMap (·.leaves? slot)).getLast?.join

theorem held_concat (ops : List Operation) (op : Operation) (slot : UInt32) :
    held (ops ++ [op]) slot = (op.leaves? slot).getD (held ops slot) := by
  unfold held
  rw [List.filterMap_append]
  cases left : op.leaves? slot with
  | none => rw [List.filterMap_cons_none left, List.filterMap_nil, List.append_nil, Option.getD_none]
  | some kept =>
      rw [List.filterMap_cons_some left, List.filterMap_nil, List.getLast?_concat, Option.getD_some]
      rfl

/-! ### The folder -/

/-- The file of a slot that holds the entries. -/
def fileOf (entries : List SnapshotEntry) : Item := .file (Snapshot.save entries)

/-- The items are the files of the occupied slots. -/
structure Shelved (kept : UInt32 → Option (List SnapshotEntry)) (items : List (String × Item)) : Prop where
  distinct : (items.map (·.1)).Nodup
  named : ∀ name ∈ items.map (·.1), ∃ slot : UInt32, name = fileName slot.toNat
  stands : ∀ slot : UInt32, items.lookup (fileName slot.toNat) = (kept slot).map fileOf

theorem shelved_nil : Shelved (held []) [] :=
  ⟨List.nodup_nil, fun _ member => absurd member List.not_mem_nil, fun _ => rfl⟩

variable {s : Slots} {items : List (String × Item)} {kept now : UInt32 → Option (List SnapshotEntry)}

theorem folder_of_make? (made : s.folder.make? = some items) :
    s.folder = .absent ∧ items = [] ∨ s.folder = .present items := by
  cases folder : s.folder with
  | absent =>
      rw [folder] at made
      exact .inl ⟨rfl, (Option.some.inj made).symm⟩
  | blocked =>
      rw [folder] at made
      cases made
  | present =>
      rw [folder] at made
      exact .inr (congrArg Folder.present (Option.some.inj made))

namespace Shelved

theorem mem_iff (shelved : Shelved kept items) {n : Nat} :
    n ∈ items.filterMap (slotOf? ·.1) ↔ ∃ slot : UInt32, slot.toNat = n ∧ (kept slot).isSome = true := by
  have occupied (slot : UInt32) : fileName slot.toNat ∈ items.map (·.1) ↔ (kept slot).isSome = true := by
    rw [← Folder.lookup_isSome_iff, shelved.stands, Option.isSome_map]
  rw [List.mem_filterMap]
  constructor
  · rintro ⟨item, member, read⟩
    have inside : item.1 ∈ items.map (·.1) := List.mem_map_of_mem member
    obtain ⟨slot, named⟩ := shelved.named item.1 inside
    rw [named, slotOf?_fileName] at read
    exact ⟨slot, Option.some.inj read, (occupied slot).mp (named ▸ inside)⟩
  · rintro ⟨slot, rfl, some⟩
    obtain ⟨item, member, named⟩ := List.mem_map.mp ((occupied slot).mpr some)
    exact ⟨item, member, by rw [named, slotOf?_fileName]⟩

/-- Each slot is listed once, since its name is read back and the names are distinct. -/
theorem numbers_nodup (shelved : Shelved kept items) : (items.filterMap (slotOf? ·.1)).Nodup := by
  have names : (items.filterMap (slotOf? ·.1)).map fileName = items.map (·.1) := by
    rw [List.map_filterMap, ← List.filterMap_eq_map]
    apply List.filterMap_congr
    intro item member
    obtain ⟨slot, named⟩ := shelved.named item.1 (List.mem_map_of_mem member)
    rw [named, slotOf?_fileName]
    exact congrArg some named.symm
  exact List.Nodup.of_map fileName (names ▸ shelved.distinct)

theorem put (shelved : Shelved kept items) {slot : UInt32} {entries : List SnapshotEntry} (here : now slot = some entries)
    (elsewhere : ∀ other, other ≠ slot → now other = kept other) :
    Shelved now (Folder.put (fileName slot.toNat) (fileOf entries) items) where
  distinct := Folder.nodup_names_put shelved.distinct _ _
  named name member := by
    rw [Folder.names_put] at member
    split at member
    · exact shelved.named name member
    · obtain old | new := List.mem_append.mp member
      · exact shelved.named name old
      · exact ⟨slot, List.mem_singleton.mp new⟩
  stands other := by
    rw [Folder.lookup_put]
    by_cases same : other = slot
    · rw [if_pos (fileName_inj.mpr same), same, here]
      rfl
    · rw [if_neg fun names => same (fileName_inj.mp names), elsewhere other same, shelved.stands]

theorem without (shelved : Shelved kept items) {slot : UInt32} (here : now slot = none)
    (elsewhere : ∀ other, other ≠ slot → now other = kept other) :
    Shelved now (items.filter (·.1 ≠ fileName slot.toNat)) := by
  have fewer : ((items.filter (·.1 ≠ fileName slot.toNat)).map (·.1)).Sublist (items.map (·.1)) :=
    List.filter_sublist.map _
  refine ⟨fewer.nodup shelved.distinct, fun name member => shelved.named name (fewer.subset member), ?_⟩
  intro other
  rw [Folder.lookup_without]
  by_cases same : other = slot
  · rw [if_pos (fileName_inj.mpr same), same, here]
    rfl
  · rw [if_neg fun names => same (fileName_inj.mp names), elsewhere other same, shelved.stands]

end Shelved

/-! ### What the slots answer -/

theorem load_of_file {slot : Nat} {entries : List SnapshotEntry} (made : s.folder.make? = some items)
    (stands : items.lookup (fileName slot) = some (fileOf entries)) : s.load slot = .ok (some entries) := by
  have written : (Decoder.list SnapshotEntry.decoder).Reads 4 (.list (entries.map SnapshotEntry.json)) entries :=
    Decoder.list_reads fun entry _ => entry.json_reads
  have read : Snapshot.load (Snapshot.save entries) = .ok entries := by
    unfold Snapshot.load Snapshot.save
    rw [Utf8.read_toUTF8]
    dsimp only [Snapshot.text]
    rw [Decoder.read_renderPretty, written.ofText (by decide)]
  obtain ⟨-, rfl⟩ | folder := folder_of_make? made
  · cases stands
  · unfold load
    rw [folder]
    dsimp only
    rw [stands]
    dsimp only [fileOf]
    rw [read]

theorem load_of_none {slot : Nat} (made : s.folder.make? = some items) (free : items.lookup (fileName slot) = none) :
    s.load slot = .ok none := by
  unfold load
  obtain ⟨folder, -⟩ | folder := folder_of_make? made <;> rw [folder]
  dsimp only
  rw [free]

theorem list_of_make? (made : s.folder.make? = some items) :
    s.list = .ok ((items.filterMap (slotOf? ·.1)).foldr insertSorted []) := by
  unfold list
  obtain ⟨folder, rfl⟩ | folder := folder_of_make? made <;> rw [folder]
  rfl

theorem delete_of_none {slot : Nat} (made : s.folder.make? = some items) (free : items.lookup (fileName slot) = none) :
    s.delete slot = .error (.notFound slot) := by
  unfold delete
  obtain ⟨folder, -⟩ | folder := folder_of_make? made <;> rw [folder]
  dsimp only
  rw [free]

theorem delete_of_file {slot : Nat} {entries : List SnapshotEntry} (made : s.folder.make? = some items)
    (stands : items.lookup (fileName slot) = some (fileOf entries)) :
    s.delete slot = .ok { s with folder := .present (items.filter (·.1 ≠ fileName slot)) } := by
  unfold delete
  obtain ⟨-, rfl⟩ | folder := folder_of_make? made
  · cases stands
  · rw [folder]
    dsimp only
    rw [stands]
    rfl

theorem save_of_make? {slot : Nat} {held : Option (List SnapshotEntry)} (made : s.folder.make? = some items)
    (stands : items.lookup (fileName slot) = held.map fileOf) (entries : List SnapshotEntry) :
    s.save slot entries = (.ok (), { s with folder := .present (Folder.put (fileName slot) (fileOf entries) items) }) := by
  unfold save
  rw [made]
  dsimp only
  rw [stands]
  cases held <;> rfl

/-- The slots hold what is kept: each of their answers is the answer of a map from slots to entries. -/
structure Keeps (kept : UInt32 → Option (List SnapshotEntry)) (s : Slots) : Prop where
  loads : ∀ slot : UInt32, s.load slot.toNat = .ok (kept slot)
  lists : ∃ slots, s.list = .ok slots ∧ slots.Pairwise (· < ·) ∧
    ∀ n, n ∈ slots ↔ ∃ slot : UInt32, slot.toNat = n ∧ (kept slot).isSome = true
  deletes : ∀ slot : UInt32, (kept slot).isSome = true → ∃ after, s.delete slot.toNat = .ok after
  finds : ∀ slot : UInt32, kept slot = none → s.delete slot.toNat = .error (.notFound slot.toNat)
  saves : ∀ (slot : UInt32) (entries : List SnapshotEntry), (s.save slot.toNat entries).1 = .ok ()

theorem Shelved.keeps (shelved : Shelved kept items) (made : s.folder.make? = some items) : s.Keeps kept where
  loads slot := by
    have stands := shelved.stands slot
    cases held : kept slot with
    | none =>
        rw [held] at stands
        exact load_of_none made stands
    | some entries =>
        rw [held] at stands
        exact load_of_file made stands
  lists := by
    refine ⟨_, list_of_make? made, sorted_strictly shelved.numbers_nodup, ?_⟩
    intro n
    rw [mem_sorted]
    exact shelved.mem_iff
  deletes slot occupied := by
    obtain ⟨entries, held⟩ := Option.isSome_iff_exists.mp occupied
    have stands := shelved.stands slot
    rw [held] at stands
    exact ⟨_, delete_of_file made stands⟩
  finds slot free := by
    have stands := shelved.stands slot
    rw [free] at stands
    exact delete_of_none made stands
  saves slot entries := congrArg Prod.fst (save_of_make? made (shelved.stands slot) entries)

/-! ### Runs -/

/-- What stands in the folder after an operation is what is kept after it. -/
theorem Shelved.perform (shelved : Shelved kept items) (made : s.folder.make? = some items) (op : Operation)
    (left : ∀ slot, now slot = (op.leaves? slot).getD (kept slot)) :
    ∃ items, (op.perform s).folder.make? = some items ∧ Shelved now items := by
  have elsewhere (other : UInt32) (apart : op.slot? ≠ some other) : now other = kept other := by
    rw [left, Operation.leaves?_eq_none apart, Option.getD_none]
  cases op with
  | load | list =>
      exact ⟨items, made, (funext left : now = kept) ▸ shelved⟩
  | save slot entries =>
      have result := save_of_make? made (shelved.stands slot) entries
      have here : now slot = some entries := by rw [left, Operation.leaves?_save, Option.getD_some]
      refine ⟨_, congrArg (·.2.folder.make?) result, shelved.put here ?_⟩
      exact fun other different => elsewhere other fun same => different (Option.some.inj same).symm
  | delete slot =>
      have here : now slot = none := by rw [left, Operation.leaves?_delete, Option.getD_some]
      have rest (other : UInt32) (different : other ≠ slot) : now other = kept other :=
        elsewhere other fun same => different (Option.some.inj same).symm
      have stands := shelved.stands slot
      cases held : kept slot with
      | none =>
          rw [held] at stands
          have result := congrArg (·.toOption.getD s) (delete_of_none made stands)
          have same : now = kept := by
            funext other
            by_cases same : other = slot
            · rw [same, here, held]
            · exact rest other same
          exact ⟨items, (congrArg (·.folder.make?) result).trans made, same ▸ shelved⟩
      | some entries =>
          rw [held] at stands
          have result := congrArg (·.toOption.getD s) (delete_of_file made stands)
          exact ⟨_, congrArg (·.folder.make?) result, shelved.without here rest⟩

theorem shelved_run (begun : s.folder = .absent ∨ s.folder = .present []) (ops : List Operation) :
    ∃ items, (s.run ops).folder.make? = some items ∧ Shelved (held ops) items := by
  induction ops using List.reverseRecOn with
  | nil =>
      obtain folder | folder := begun
      · exact ⟨[], congrArg Folder.make? folder, shelved_nil⟩
      · exact ⟨[], congrArg Folder.make? folder, shelved_nil⟩
  | append_singleton ops op ih =>
      obtain ⟨items, made, shelved⟩ := ih
      rw [run_concat]
      exact shelved.perform made op (held_concat ops op)

/-- Slots that begin empty are a map from numbers to entries, whatever has been done with them; and what is done with
one slot makes no difference to another. -/
theorem slots_keep (begun : s.folder = .absent ∨ s.folder = .present []) (ops : List Operation) :
    (s.run ops).Keeps (held ops) ∧
      ∀ (op : Operation) (other : UInt32), op.slot? ≠ some other →
        (op.perform (s.run ops)).load other.toNat = (s.run ops).load other.toNat := by
  obtain ⟨items, made, shelved⟩ := shelved_run begun ops
  refine ⟨shelved.keeps made, fun op other elsewhere => ?_⟩
  obtain ⟨rest, remade, reshelved⟩ := shelved_run begun (ops ++ [op])
  have result := (reshelved.keeps remade).loads other
  rw [run_concat, held_concat, Operation.leaves?_eq_none elsewhere, Option.getD_none] at result
  rw [result, (shelved.keeps made).loads other]

def desk : Slots := { path := "saves", folder := .absent }

def sitting : List Operation :=
  [.save 3 [{ runner := ⟨"village"⟩, storyboard := ⟨"main"⟩, nodes := [] }], .save 1 [], .list, .delete 3]

/-- The slot that was saved and left alone is loaded, and the one that was deleted is not found again. -/
theorem desk_keeps :
    desk.folder = .absent ∧ (desk.run sitting).load 1 = .ok (some []) ∧
      (desk.run sitting).delete 3 = .error (.notFound 3) ∧
      ((Operation.save 3 []).perform (desk.run sitting)).load 1 = (desk.run sitting).load 1 := by
  obtain ⟨keeps, apart⟩ := slots_keep (s := desk) (.inl rfl) sitting
  exact ⟨rfl, keeps.loads 1, keeps.finds 3 (by decide), apart (.save 3 []) 1 (by decide)⟩

end Plotline.Slots
