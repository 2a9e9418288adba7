import Plotline.Proofs.Interpreter.Deed

/-!
A program told without time: each instruction follows the other, whatever the stage answers and however long it takes,
and only a choice waits for the player. Two tellings in which the player chooses alike show the same, as far as they go.
-/

namespace Plotline

/-- All that decides what a program tells. -/
structure Script where
  program : Program
  table : CommandTable
  cinematicReveal : Duration

/-- How far a program has come. -/
inductive Place
  /-- The instruction at the cursor comes next. -/
  | before (cursor : Nat)
  | choosing (cursor : Nat) (options : List ChoiceOption)
  | ended (outcome : ProgramOutcome)
  deriving DecidableEq, Repr

/-- Where a program comes to from the instruction at the cursor. -/
def Heading.placeFrom (cursor : Nat) : Heading → Place
  | onward => .before (cursor + 1)
  | elsewhere target => .before target
  | choice options => .choosing cursor options
  | done ending => .ended (Interpreter.outcomeOf ending).1

/-- What is shown and what is emitted, each in order. -/
structure Told where
  cues : List Cue := []
  events : List StoryEvent := []
  deriving DecidableEq, Repr

namespace Told

def followedBy (first later : Told) : Told := ⟨first.cues ++ later.cues, first.events ++ later.events⟩

theorem followedBy_nothing (told : Told) : told.followedBy {} = told := by
  simp [followedBy]

theorem followedBy_assoc (first second third : Told) :
    (first.followedBy second).followedBy third = first.followedBy (second.followedBy third) := by
  simp [followedBy]

end Told

namespace Script

variable (s : Script)

/-- An interpreter that holds the program and stands at the cursor. -/
def interpreter (cursor : Nat) : Interpreter :=
  { program := some s.program, cursor, table := s.table, cinematicReveal := s.cinematicReveal, maxSteps := 1 }

/-- Carries out one instruction, and says what it tells. -/
def tell? : Place → Option (Told × Place)
  | .before cursor =>
    match s.program.instructions[cursor]? with
    | none => some ({}, Heading.placeFrom cursor (.done {}))
    | some instruction =>
      match (s.interpreter cursor).deedFor s.program instruction with
      | .error _ => some ({}, Heading.placeFrom cursor .onward)
      | .ok deed =>
        some (⟨deed.cue.toList, deed.emitted.toList⟩, (deed.flow .immediate).heading.placeFrom cursor)
  | .choosing .. | .ended _ => none

def choose? (index : Nat) : Place → Option Place
  | .choosing cursor options =>
    options[index]?.map fun option => .before (s.program.resolve option.target cursor).1
  | .before _ | .ended _ => none

/-- From one place to the other this is told, under these choices. -/
inductive Tells : Place → List Nat → Told → Place → Prop
  | here {place : Place} : Tells place [] {} place
  | next {place middle last : Place} {choices : List Nat} {first later : Told}
      (told : s.tell? place = some (first, middle)) (rest : Tells middle choices later last) :
      Tells place choices (first.followedBy later) last
  | chosen {place middle last : Place} {index : Nat} {choices : List Nat} {later : Told}
      (chose : s.choose? index place = some middle) (rest : Tells middle choices later last) :
      Tells place (index :: choices) later last

variable {s}

namespace Tells

variable {place middle last : Place} {choices more : List Nat} {told first later : Told}

theorem single (tells : s.tell? place = some (told, last)) : s.Tells place [] told last := by
  have rest : s.Tells last [] {} last := .here
  have tells := Tells.next tells rest
  rwa [Told.followedBy_nothing] at tells

theorem trans (head : s.Tells place choices first middle) (tail : s.Tells middle more later last) :
    s.Tells place (choices ++ more) (first.followedBy later) last := by
  induction head with
  | here => exact tail
  | next told _ ih =>
      rw [Told.followedBy_assoc]
      exact .next told (ih tail)
  | chosen chose _ ih => exact .chosen chose (ih tail)

/-- Nothing is told after the end. -/
theorem of_ended {outcome : ProgramOutcome} (tells : s.Tells (.ended outcome) choices told last) :
    told = {} ∧ last = .ended outcome := by
  cases tells with
  | here => exact ⟨rfl, rfl⟩
  | next told _ => cases told
  | chosen chose _ => cases chose

end Tells

/-- A place is not both told on and chosen at. -/
theorem choose?_of_tell? {place middle : Place} {told : Told} (tells : s.tell? place = some (told, middle))
    (index : Nat) : s.choose? index place = none := by
  cases place with
  | before cursor => rfl
  | choosing cursor options => cases tells
  | ended outcome => cases tells

/-- Of two tellings from one place in which the player chooses alike, one goes on where the other stops. -/
theorem Tells.comparable {place last₁ last₂ : Place} {choices₁ choices₂ : List Nat} {told₁ told₂ : Told}
    (tells₁ : s.Tells place choices₁ told₁ last₁) (tells₂ : s.Tells place choices₂ told₂ last₂)
    (alike : choices₁ <+: choices₂ ∨ choices₂ <+: choices₁) :
    (∃ choices later, s.Tells last₁ choices later last₂ ∧ told₂ = told₁.followedBy later) ∨
      ∃ choices later, s.Tells last₂ choices later last₁ ∧ told₁ = told₂.followedBy later := by
  induction tells₁ generalizing choices₂ told₂ with
  | here => exact Or.inl ⟨_, _, tells₂, rfl⟩
  | next told rest ih =>
      cases tells₂ with
      | here => exact Or.inr ⟨_, _, .next told rest, rfl⟩
      | next told' rest' =>
          cases told.symm.trans told'
          rcases ih rest' alike with ⟨choices, later, tells, rfl⟩ | ⟨choices, later, tells, rfl⟩
          · exact Or.inl ⟨choices, later, tells, (Told.followedBy_assoc _ _ _).symm⟩
          · exact Or.inr ⟨choices, later, tells, (Told.followedBy_assoc _ _ _).symm⟩
      | chosen chose _ => cases (choose?_of_tell? told _).symm.trans chose
  | chosen chose rest ih =>
      cases tells₂ with
      | here => exact Or.inr ⟨_, _, .chosen chose rest, rfl⟩
      | next told' _ => cases (choose?_of_tell? told' _).symm.trans chose
      | chosen chose' rest' =>
          rw [List.cons_prefix_cons, List.cons_prefix_cons] at alike
          have same := alike.elim (·.1) (·.1.symm)
          subst same
          cases chose.symm.trans chose'
          exact ih rest' (alike.imp (·.2) (·.2))

end Script

end Plotline
