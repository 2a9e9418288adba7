import Plotline.Interpreter.Basic

/-!
Which instructions a program carries out, and what they make known. Under the usual command table an instruction that
is carried out makes known just what it is there for, and nothing is made known without one.
-/

namespace Plotline

/-- The event that the instruction makes known. Only a trigger makes one known, and only if it names both a runner and
a node. -/
def Instruction.summons? : Instruction → Option StoryEvent
  | .trigger runner node =>
    if runner.text.isEmpty || node.text.isEmpty then none else some (.triggerRequested runner node)
  | _ => none

/-- What is no trigger makes nothing known, whichever handler carries it out. -/
theorem Handler.emitted_of_other {run : RunView} {handler : Handler} {instruction : Instruction} {deed : Deed}
    (other : instruction.kind ≠ some .triggerOtherRunner)
    (performed : handler.perform run instruction = .ok deed) : deed.emitted = none := by
  unfold Handler.perform at performed
  split at performed <;> (try split at performed) <;> cases performed <;>
    first | rfl | exact absurd rfl other

theorem CommandTable.standard_trigger (archetype : Archetype) :
    standard.handler? archetype .triggerOtherRunner = some (.standard .triggerOtherRunner) := by
  cases archetype <;> rfl

namespace Interpreter

variable {i : Interpreter} {program : Program} {instruction : Instruction}

theorem deedFor_trigger (standard : i.table = .standard) (program : Program) (runner : RunnerId) (node : NodeId) :
    i.deedFor program (.trigger runner node) =
      if runner.text.isEmpty || node.text.isEmpty then .error .triggerWithoutTarget
      else .ok { emitted := some (.triggerRequested runner node) } := by
  have handler : i.handlerFor program.archetype (.trigger runner node) = .ok (.standard .triggerOtherRunner) := by
    unfold handlerFor
    rw [standard]
    dsimp only [Instruction.kind]
    rw [CommandTable.standard_trigger]
  unfold deedFor
  rw [handler]
  rfl

/-- What an instruction makes known is what it is there for. -/
theorem deedFor_emitted (standard : i.table = .standard) {deed : Deed}
    (made : i.deedFor program instruction = .ok deed) : deed.emitted = instruction.summons? := by
  cases instruction with
  | trigger runner node =>
      rw [deedFor_trigger standard] at made
      by_cases unnamed : (runner.text.isEmpty || node.text.isEmpty) = true
      · rw [if_pos unnamed] at made
        cases made
      · rw [if_neg unnamed] at made
        cases made
        exact (if_neg unnamed).symm
  | _ =>
      unfold deedFor at made
      cases handler : i.handlerFor program.archetype _ with
      | error error => rw [handler] at made; cases made
      | ok handler' => rw [handler] at made; exact Handler.emitted_of_other (by rintro ⟨⟩) made

/-- An instruction that cannot be carried out is there for nothing. -/
theorem summons?_of_error (standard : i.table = .standard) {error : InstructionError}
    (refused : i.deedFor program instruction = .error error) : instruction.summons? = none := by
  cases instruction with
  | trigger runner node =>
      rw [deedFor_trigger standard] at refused
      by_cases unnamed : (runner.text.isEmpty || node.text.isEmpty) = true
      · exact if_pos unnamed
      · rw [if_neg unnamed] at refused
        cases refused
  | _ => rfl

/-- The instruction that comes next. -/
def instruction? (i : Interpreter) : Option Instruction := i.program.bind (·.instructions[i.cursor]?)

/-- The instructions that are carried out in a run, in order. -/
def executed (stage : Stage) (budget : Nat) (i : Interpreter) (j : Journal) : List Instruction :=
  match budget with
  | 0 => []
  | budget + 1 =>
    i.instruction?.toList ++
      match i.step stage j with
      | .stop .. => []
      | .next i j => executed stage budget i j

/-- The instructions that are carried out when the program goes on, in order. -/
def executedAfter (stage : Stage) (elapsed : Duration) (i : Interpreter) (j : Journal) : List Instruction :=
  if i.isRunning then
    let (ready, i, j) := i.settleSuspension elapsed j
    if ready then i.executed stage i.maxSteps j else []
  else []

/-- In the course of these instructions the interpreter has made known what they are there for, and nothing else. -/
structure Voices (instructions : List Instruction) (i i' : Interpreter) : Prop where
  table : i'.table = i.table
  emitted : i'.emitted.reverse = i.emitted.reverse ++ instructions.filterMap Instruction.summons?

theorem voices_of_same {i' : Interpreter} (table : i'.table = i.table) (emitted : i'.emitted = i.emitted) :
    Voices [] i i' :=
  ⟨table, by simp [emitted]⟩

theorem Voices.trans {first later : List Instruction} {i' i'' : Interpreter} (head : Voices first i i')
    (tail : Voices later i' i'') : Voices (first ++ later) i i'' := by
  refine ⟨tail.table.trans head.table, ?_⟩
  rw [tail.emitted, head.emitted, List.filterMap_append, List.append_assoc]

/-- Where the interpreter stands afterwards. -/
def Progress.interpreter : Progress → Interpreter
  | .next i _ => i
  | .stop _ i _ => i

theorem follow_voices (flow : Flow) (i : Interpreter) (j : Journal) : Voices [] i (i.follow flow j).interpreter := by
  cases flow with
  | waitFor duration =>
      by_cases none : duration = 0
      · rw [follow, if_pos none]
        exact voices_of_same rfl rfl
      · rw [follow, if_neg none]
        exact voices_of_same rfl rfl
  | _ => exact voices_of_same rfl rfl

theorem step_voices (standard : i.table = .standard) (stage : Stage) (j : Journal) :
    Voices i.instruction?.toList i (i.step stage j).interpreter := by
  have current : ∀ {program}, i.program = some program → i.instruction? = program.instructions[i.cursor]? := by
    intro program loaded
    unfold instruction?
    rw [loaded]
    rfl
  unfold step
  split
  · rename_i idle
    unfold instruction?
    rw [idle]
    exact voices_of_same rfl rfl
  · rename_i program loaded
    rw [current loaded]
    split
    · rename_i behind
      rw [behind]
      exact follow_voices (.finish {}) i j
    · rename_i instruction found
      rw [found, Option.toList_some]
      split
      · rename_i error refused
        refine ⟨rfl, ?_⟩
        rw [List.filterMap_cons_none (summons?_of_error standard refused)]
        exact (List.append_nil _).symm
      · rename_i deed made
        have voiced : Voices [instruction] i { i with emitted := deed.emitted.toList ++ i.emitted } := by
          refine ⟨rfl, ?_⟩
          rw [deedFor_emitted standard made]
          cases summons : instruction.summons? <;> simp [summons]
        exact voiced.trans (follow_voices _ _ _)

theorem run_voices (standard : i.table = .standard) (stage : Stage) (budget : Nat) (j : Journal) :
    Voices (i.executed stage budget j) i (i.run stage budget j).2.1 := by
  induction budget generalizing i j with
  | zero => exact voices_of_same rfl rfl
  | succ budget ih =>
      have voiced := step_voices standard stage j
      rw [executed, run]
      cases stepped : i.step stage j with
      | stop outcome i' j' =>
          rw [stepped] at voiced
          rw [List.append_nil]
          exact voiced
      | next i' j' =>
          rw [stepped] at voiced
          exact voiced.trans (ih (voiced.table.trans standard) j')

theorem settleSuspension_voices (elapsed : Duration) (i : Interpreter) (j : Journal) :
    Voices [] i (i.settleSuspension elapsed j).2.1 := by
  unfold settleSuspension
  split
  · exact voices_of_same rfl rfl
  · split <;> exact voices_of_same rfl rfl
  · exact voices_of_same rfl rfl
  · split
    · exact voices_of_same rfl rfl
    · split <;> exact voices_of_same rfl rfl

/-- When the program goes on it makes known what the instructions that are carried out are there for. -/
theorem resume_voices (standard : i.table = .standard) (stage : Stage) (elapsed : Duration) (j : Journal) :
    Voices (i.executedAfter stage elapsed j) i (i.resume stage elapsed j).2.1 := by
  have settled := settleSuspension_voices elapsed i j
  unfold executedAfter resume
  split
  · cases ended : i.settleSuspension elapsed j with
    | mk ready rest =>
        rw [ended] at settled
        cases ready with
        | true => exact settled.trans (run_voices (settled.table.trans standard) stage _ rest.2)
        | false => exact settled
  · exact voices_of_same rfl rfl

end Interpreter

end Plotline
