import Plotline.Story.Program

/-!
The labels of a program. The table that is made of them when a program starts leads to the first label of each name,
and lists the others, which lead nowhere.
-/

namespace Plotline

/-- The first label of the name stands there. -/
def Program.FirstLabel (p : Program) (label : LabelName) (position : Nat) : Prop :=
  p.instructions[position]? = some (.label label) ∧
    ∀ earlier < position, p.instructions[earlier]? ≠ some (.label label)

theorem Program.position?_eq_some {p : Program} {label : LabelName} {position : Nat} :
    p.position? label = some position ↔ p.FirstLabel label position := by
  unfold position? FirstLabel
  rw [List.findIdx?_eq_some_iff_getElem]
  constructor
  · rintro ⟨within, here, before⟩
    refine ⟨?_, ?_⟩
    · rw [List.getElem?_eq_getElem within]
      exact congrArg some (by simpa using here)
    · intro earlier lt same
      obtain ⟨_, there⟩ := List.getElem?_eq_some_iff.mp same
      simpa [there] using before earlier lt
  · rintro ⟨here, before⟩
    obtain ⟨within, found⟩ := List.getElem?_eq_some_iff.mp here
    refine ⟨within, by simpa using found, ?_⟩
    intro earlier lt
    have bound : earlier < p.instructions.length := Nat.lt_trans lt within
    have other := before earlier lt
    rw [List.getElem?_eq_getElem bound] at other
    simpa using other

theorem Program.position?_eq_none {p : Program} {label : LabelName} :
    p.position? label = none ↔ Instruction.label label ∉ p.instructions := by
  unfold position?
  rw [List.findIdx?_eq_none_iff]
  constructor
  · intro none member
    simpa using none _ member
  · intro absent instruction member
    have other : instruction ≠ .label label := fun same => absent (same ▸ member)
    simpa using other

namespace LabelIndex

/-- The table holds the labels of these instructions, the first of each name and the others. -/
structure Holds (instructions : List Instruction) (index : LabelIndex) : Prop where
  find : ∀ label, index.find? label = instructions.findIdx? (· = .label label)
  repeated : ∀ label position, (label, position) ∈ index.repeated ↔
    instructions[position]? = some (.label label) ∧ index.find? label ≠ some position
  ordered : index.repeated.Pairwise fun x y => x.2 < y.2

variable {instructions : List Instruction} {index : LabelIndex}

theorem holds_nil : Holds [] {} where
  find _ := rfl
  repeated := by simp
  ordered := .nil

theorem findIdx?_concat (instructions : List Instruction) (instruction : Instruction) (label : LabelName) :
    (instructions ++ [instruction]).findIdx? (· = .label label) =
      (instructions.findIdx? (· = .label label)).or
        (if instruction = .label label then some instructions.length else none) := by
  rw [List.findIdx?_append]
  by_cases same : instruction = .label label <;> simp [same]

theorem getElem?_concat {instruction found : Instruction} {position : Nat} :
    (instructions ++ [instruction])[position]? = some found ↔
      instructions[position]? = some found ∨ position = instructions.length ∧ instruction = found := by
  rcases Nat.lt_trichotomy position instructions.length with before | rfl | behind
  · rw [List.getElem?_append_left before]
    simp [Nat.ne_of_lt before]
  · simp
  · rw [List.getElem?_eq_none (by simpa using Nat.succ_le_of_lt behind), List.getElem?_eq_none (Nat.le_of_lt behind)]
    simp [Nat.ne_of_gt behind]

namespace Holds

theorem find_lt (holds : Holds instructions index) {label : LabelName} {position : Nat}
    (found : index.find? label = some position) : position < instructions.length := by
  rw [holds.find label] at found
  exact (List.findIdx?_eq_some_iff_getElem.mp found).1

/-- What is no label changes nothing. -/
theorem other (holds : Holds instructions index) {instruction : Instruction}
    (other : ∀ label, instruction ≠ .label label) : Holds (instructions ++ [instruction]) index where
  find label := by
    rw [findIdx?_concat, if_neg (other label), Option.or_none]
    exact holds.find label
  repeated label position := by
    rw [holds.repeated label position, getElem?_concat]
    simp [other label]
  ordered := holds.ordered

/-- A label whose name occurs for the first time is the one that the name leads to. -/
theorem new (holds : Holds instructions index) {name : LabelName} (unknown : index.find? name = none) :
    Holds (instructions ++ [.label name])
      { index with first := index.first ++ [(name, instructions.length)] } := by
  have find : ∀ label, find? { index with first := index.first ++ [(name, instructions.length)] } label =
      (index.find? label).or (if name = label then some instructions.length else none) := by
    intro label
    unfold find?
    dsimp only
    rw [List.lookup_append]
    by_cases same : name = label
    · simp [same]
    · have differs : (label == name) = false := beq_false_of_ne (Ne.symm same)
      simp [List.lookup_cons, same, differs]
  refine ⟨?_, ?_, holds.ordered⟩
  · intro label
    rw [find, findIdx?_concat, holds.find label]
    simp
  · intro label position
    rw [holds.repeated label position, getElem?_concat, find]
    by_cases same : name = label
    · subst same
      have absent : ∀ position : Nat, instructions[position]? ≠ some (Instruction.label name) := by
        intro position here
        rw [holds.find name, List.findIdx?_eq_none_iff] at unknown
        simpa using unknown _ (List.mem_of_getElem? here)
      simp [unknown, absent position, Eq.comm]
    · simp [same]

/-- A label whose name has occurred before is one of the others. -/
theorem again (holds : Holds instructions index) {name : LabelName} {target : Nat}
    (known : index.find? name = some target) :
    Holds (instructions ++ [.label name])
      { index with repeated := index.repeated ++ [(name, instructions.length)] } := by
  refine ⟨?_, ?_, ?_⟩
  · intro label
    have same : index.find? label = instructions.findIdx? (· = .label label) := holds.find label
    rw [findIdx?_concat, ← same]
    by_cases named : Instruction.label name = .label label
    · obtain rfl : name = label := by simpa using named
      rw [known, Option.some_or]
      exact known
    · rw [if_neg named, Option.or_none]
      rfl
  · intro label position
    have elsewhere : index.find? label = some position → position ≠ instructions.length :=
      fun found => Nat.ne_of_lt (holds.find_lt found)
    rw [List.mem_append, holds.repeated label position, getElem?_concat]
    change _ ↔ _ ∧ index.find? label ≠ some position
    constructor
    · rintro (⟨here, other⟩ | last)
      · exact ⟨.inl here, other⟩
      · obtain ⟨rfl, rfl⟩ : label = name ∧ position = instructions.length := by simpa using last
        exact ⟨.inr ⟨rfl, rfl⟩, fun found => elsewhere found rfl⟩
    · rintro ⟨here | ⟨rfl, named⟩, other⟩
      · exact .inl ⟨here, other⟩
      · obtain rfl : name = label := by simpa using named
        exact .inr List.mem_cons_self
  · refine List.pairwise_append.mpr ⟨holds.ordered, List.pairwise_singleton _ _, ?_⟩
    rintro ⟨label, position⟩ earlier last member
    obtain rfl : last = (name, instructions.length) := List.mem_singleton.mp member
    obtain ⟨here, -⟩ := (holds.repeated label position).mp earlier
    exact (List.getElem?_eq_some_iff.mp here).1

theorem add (holds : Holds instructions index) (name : LabelName) :
    Holds (instructions ++ [.label name]) (index.add name instructions.length) := by
  unfold LabelIndex.add
  split
  · exact holds.again ‹_›
  · exact holds.new ‹_›

theorem addAll (holds : Holds instructions index) (rest : List Instruction) :
    Holds (instructions ++ rest) (index.addAll instructions.length rest) := by
  induction rest generalizing instructions index with
  | nil => simpa [LabelIndex.addAll] using holds
  | cons instruction rest ih =>
      have grown : (instructions ++ [instruction]).length = instructions.length + 1 := by simp
      have joined : instructions ++ instruction :: rest = instructions ++ [instruction] ++ rest := by simp
      rw [joined]
      cases instruction with
      | label name =>
          rw [LabelIndex.addAll, ← grown]
          exact ih (holds.add name)
      | _ =>
          rw [LabelIndex.addAll, ← grown]
          · exact ih (holds.other nofun)
          · nofun

end Holds

end LabelIndex

namespace Program

theorem labels_hold (p : Program) : p.labels.Holds p.instructions :=
  LabelIndex.holds_nil.addAll p.instructions

/-- The table of labels leads to the first label of each name, and lists the others in their order. -/
structure Tabulated (p : Program) : Prop where
  find : ∀ label position, p.labels.find? label = some position ↔ p.FirstLabel label position
  repeated : ∀ label position, (label, position) ∈ p.labels.repeated ↔
    p.instructions[position]? = some (.label label) ∧ ¬ p.FirstLabel label position
  ordered : p.labels.repeated.Pairwise fun x y => x.2 < y.2

theorem labels_tabulated (p : Program) : p.Tabulated := by
  have find : ∀ label position, p.labels.find? label = some position ↔ p.FirstLabel label position := by
    intro label position
    rw [p.labels_hold.find label]
    exact position?_eq_some
  refine ⟨find, ?_, p.labels_hold.ordered⟩
  intro label position
  rw [p.labels_hold.repeated label position, Ne, find]

end Program

end Plotline
