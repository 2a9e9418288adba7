import Plotline.Interpreter.Basic

/-!
What one instruction can come to, whichever handler carries it out and whatever the stage answers. A deed may show
something but opens and closes no listener; where the program goes on does not depend on the answer, and it stays
within the program.
-/

namespace Plotline

/-- Where a program goes on after an instruction, with or without a wait. -/
inductive Heading
  | onward
  | elsewhere (target : Nat)
  | choice (options : List ChoiceOption)
  | done (ending : EndOfProgram)
  deriving DecidableEq, Repr

namespace Flow

def heading : Flow → Heading
  | advance | waitForInput | waitFor _ => .onward
  | redirect target => .elsewhere target
  | waitForChoice options => .choice options
  | finish ending => .done ending

theorem heading_ofCompletion (answer : Completion) : (ofCompletion answer).heading = .onward := by
  cases answer <;> rfl

end Flow

/-- A jump stays within the program, and a choice offers something. -/
def Heading.Fits (p : Program) : Heading → Prop
  | elsewhere target => target ≤ p.length
  | choice options => options ≠ []
  | _ => True

structure Deed.Regular (run : RunView) (deed : Deed) : Prop where
  cue : ∀ c ∈ deed.cue, c.isPresentation = true
  steady : ∀ answer other, (deed.flow answer).heading = (deed.flow other).heading
  fits : ∀ answer, (deed.flow answer).heading.Fits run.program

theorem Program.position?_lt {p : Program} {label : LabelName} {target : Nat}
    (found : p.position? label = some target) : target < p.length :=
  (List.findIdx?_eq_some_iff_getElem.mp found).1

/-- From within a program a label leads to a place in it, or just behind its last instruction. -/
theorem Program.resolve_le {p : Program} {cursor : Nat} (within : cursor < p.length) (label : LabelName) :
    (p.resolve label cursor).1 ≤ p.length := by
  unfold resolve
  split
  · rename_i target found
    exact Nat.le_of_lt (position?_lt found)
  · exact within

namespace Handler

/-- A deed of which the flow does not look at the answer. -/
private theorem regular_of_constant {run : RunView} {note : Option Note} {cue : Option Cue}
    {emitted : Option StoryEvent} {flow : Flow} (shows : ∀ c ∈ cue, c.isPresentation = true)
    (fits : flow.heading.Fits run.program) : Deed.Regular run ⟨note, cue, emitted, fun _ => flow⟩ :=
  ⟨shows, fun _ _ => rfl, fun _ => fits⟩

/-- A deed that takes as long as the stage says. -/
private theorem regular_of_completion {run : RunView} {cue : Cue} (shows : cue.isPresentation = true) :
    Deed.Regular run { cue := some cue, flow := .ofCompletion } := by
  refine ⟨?_, ?_, ?_⟩
  · intro c member
    cases member
    exact shows
  · intro answer other
    rw [Flow.heading_ofCompletion, Flow.heading_ofCompletion]
  · intro answer
    rw [Flow.heading_ofCompletion]
    exact trivial

theorem perform_regular {run : RunView} {handler : Handler} {instruction : Instruction} {deed : Deed}
    (within : run.cursor < run.program.length) (performed : handler.perform run instruction = .ok deed) :
    deed.Regular run := by
  have shown : ∀ cue : Cue, cue.isPresentation = true → ∀ c ∈ some cue, c.isPresentation = true := by
    intro cue shows c member
    cases member
    exact shows
  unfold perform at performed
  split at performed
  -- The cases left for the end are those of a handler that was made for another kind of instruction.
  case h_1 => -- dialogue
    cases performed
    exact regular_of_constant (shown _ rfl) trivial
  case h_3 => -- dialogue in cinematic text
    cases performed
    exact regular_of_completion rfl
  case h_5 => -- an actor, who appears at once
    split at performed
    · cases performed
    · rename_i name command _
      cases performed
      cases command with
      | appear position => exact regular_of_constant (shown _ rfl) trivial
      | _ => exact regular_of_completion rfl
  case h_7 => -- background
    cases performed
    exact regular_of_constant (shown _ rfl) trivial
  case h_9 => -- a choice, which is refused without options
    split at performed
    · cases performed
    · rename_i options offered
      cases performed
      refine regular_of_constant (shown _ rfl) ?_
      intro none
      rw [none] at offered
      exact offered rfl
  case h_11 => -- label
    cases performed
    exact regular_of_constant nofun trivial
  case h_12 => -- jump
    cases performed
    exact regular_of_constant nofun (Program.resolve_le within _)
  case h_14 => -- audio, of which a single sound takes no time
    rename_i command
    cases performed
    cases command with
    | playOneShot clip => exact regular_of_constant (shown _ rfl) trivial
    | _ => exact regular_of_completion rfl
  case h_16 => -- the end of the program
    cases performed
    exact regular_of_constant nofun trivial
  case h_18 => -- camera
    cases performed
    exact regular_of_completion rfl
  case h_20 => -- screen effect
    cases performed
    exact regular_of_completion rfl
  case h_22 => -- a trigger, which is refused without a target
    split at performed
    · cases performed
    · cases performed
      exact regular_of_constant nofun trivial
  all_goals cases performed

end Handler

theorem Interpreter.deedFor_regular {i : Interpreter} {program : Program} {instruction : Instruction} {deed : Deed}
    (within : i.cursor < program.length) (found : i.deedFor program instruction = .ok deed) :
    deed.Regular ⟨program, i.cursor, i.cinematicReveal⟩ := by
  unfold deedFor at found
  cases handler : i.handlerFor program.archetype instruction with
  | error error => rw [handler] at found; cases found
  | ok handler' => rw [handler] at found; exact Handler.perform_regular within found

end Plotline
