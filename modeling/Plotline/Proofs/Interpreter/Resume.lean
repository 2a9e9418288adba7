import Plotline.Proofs.Bus.Growth
import Plotline.Interpreter.Basic

/-!
What the interpreter does to the world around it when it starts and when it goes on: it keeps its program until the
program ends, emits nothing but triggers, publishes nothing itself, hands out no rewards and tells observers nothing.
-/

namespace Plotline

/-- A deed that leaves publishing and rewards to others. -/
structure Deed.Modest (deed : Deed) : Prop where
  note : ∀ n ∈ deed.note, n.isPlain = true
  cue : ∀ c ∈ deed.cue, Journal.rewards [.cue c] = []
  emitted : ∀ event ∈ deed.emitted, event.topic = .triggerRequested

theorem Program.resolve_note {p : Program} {label : LabelName} {cursor target : Nat} {note : Note}
    (resolved : p.resolve label cursor = (target, note)) : note.isPlain = true := by
  unfold Program.resolve at resolved
  split at resolved <;> cases resolved <;> rfl

theorem Handler.perform_modest {run : RunView} {handler : Handler} {instruction : Instruction} {deed : Deed}
    (performed : handler.perform run instruction = .ok deed) : deed.Modest := by
  unfold Handler.perform at performed
  split at performed <;> (try split at performed) <;> cases performed <;>
    refine ⟨?_, ?_, ?_⟩ <;> intro x member <;> cases member <;> first | rfl | exact Program.resolve_note ‹_›

namespace Interpreter

/-- The interpreter has gone on from one state to the next. -/
structure Advances (i : Interpreter) (j : Journal) (i' : Interpreter) (j' : Journal) : Prop where
  emitted : ∀ event ∈ i'.emitted, event ∈ i.emitted ∨ event.topic = .triggerRequested
  journal : j.Still j'

theorem Advances.trans {i i' i'' : Interpreter} {j j' j'' : Journal} (first : i.Advances j i' j')
    (last : i'.Advances j' i'' j'') : i.Advances j i'' j'' := by
  refine ⟨?_, first.journal.trans last.journal⟩
  intro event member
  rcases last.emitted event member with earlier | trigger
  · exact first.emitted event earlier
  · exact Or.inr trigger

theorem advances_of_emitted {i i' : Interpreter} {j j' : Journal} (same : i'.emitted = i.emitted)
    (still : j.Still j') : i.Advances j i' j' :=
  ⟨fun _event member => Or.inl (same ▸ member), still⟩

/-- The program stays loaded until it has come to something. -/
def programAfter (i : Interpreter) : Option ProgramOutcome → Option Program
  | none => i.program
  | some _ => none

/-- The interpreter has gone on, and its program is what the outcome says. -/
structure Yields (i : Interpreter) (j : Journal) (outcome : Option ProgramOutcome) (i' : Interpreter)
    (j' : Journal) : Prop where
  advances : i.Advances j i' j'
  program : i'.program = i.programAfter outcome

theorem Yields.trans {i i' i'' : Interpreter} {j j' j'' : Journal} {outcome : Option ProgramOutcome}
    (first : i.Yields j none i' j') (last : i'.Yields j' outcome i'' j'') : i.Yields j outcome i'' j'' := by
  refine ⟨first.advances.trans last.advances, last.program.trans ?_⟩
  cases outcome with
  | none => exact first.program
  | some end_ => rfl

theorem yields_of_emitted {i i' : Interpreter} {j j' : Journal} (program : i'.program = i.program)
    (emitted : i'.emitted = i.emitted) (still : j.Still j') : i.Yields j none i' j' :=
  ⟨advances_of_emitted emitted still, program⟩

theorem settleSuspension_yields (elapsed : Duration) (i : Interpreter) (j : Journal) :
    i.Yields j none (i.settleSuspension elapsed j).2.1 (i.settleSuspension elapsed j).2.2 := by
  unfold settleSuspension
  split
  · exact yields_of_emitted rfl rfl (.refl j)
  · split
    · exact yields_of_emitted rfl rfl (.refl j)
    · exact yields_of_emitted rfl rfl (Journal.cue_still rfl j)
  · exact yields_of_emitted rfl rfl (.refl j)
  · split
    · exact yields_of_emitted rfl rfl ((Journal.note_still rfl j).trans (Journal.cue_still rfl _))
    · split
      · exact yields_of_emitted rfl rfl (Journal.cue_still rfl j)
      · exact yields_of_emitted rfl rfl (.refl j)

theorem finish_yields (ending : EndOfProgram) (i : Interpreter) (j : Journal) :
    i.Yields j (some (i.finish ending j).1) (i.finish ending j).2.1 (i.finish ending j).2.2 := by
  have note : (outcomeOf ending).2.isPlain = true := by
    unfold outcomeOf
    split <;> rfl
  have still := ((Journal.cue_still (c := .continueListener false) rfl j).trans
    (Journal.cue_still (c := .skipListener false) rfl _)).trans (Journal.note_still note _)
  exact ⟨advances_of_emitted rfl still, rfl⟩

/-- One instruction has been carried out in good order. -/
def Progress.Orderly (i : Interpreter) (j : Journal) : Progress → Prop
  | .next i' j' => i.Yields j none i' j'
  | .stop outcome i' j' => i.Yields j outcome i' j'

theorem Progress.Orderly.after {i i' : Interpreter} {j j' : Journal} {p : Progress}
    (first : i.Yields j none i' j') (last : p.Orderly i' j') : p.Orderly i j := by
  cases p with
  | next i'' j'' => exact first.trans last
  | stop outcome i'' j'' => exact first.trans last

theorem follow_orderly (flow : Flow) (i : Interpreter) (j : Journal) : (i.follow flow j).Orderly i j := by
  cases flow with
  | advance => exact yields_of_emitted rfl rfl (.refl j)
  | redirect target => exact yields_of_emitted rfl rfl (.refl j)
  | waitForInput => exact yields_of_emitted rfl rfl (Journal.cue_still rfl j)
  | waitForChoice options => exact yields_of_emitted rfl rfl (.refl j)
  | waitFor duration =>
      by_cases none : duration = 0
      · rw [follow, if_pos none]
        exact yields_of_emitted rfl rfl (.refl j)
      · rw [follow, if_neg none]
        exact yields_of_emitted rfl rfl (Journal.cue_still rfl j)
  | finish ending => exact finish_yields ending i j

theorem deedFor_modest {i : Interpreter} {program : Program} {instruction : Instruction} {deed : Deed}
    (found : i.deedFor program instruction = .ok deed) : deed.Modest := by
  unfold deedFor at found
  cases handler : i.handlerFor program.archetype instruction with
  | error error => rw [handler] at found; cases found
  | ok handler' => rw [handler] at found; exact Handler.perform_modest found

theorem giveCue_still (stage : Stage) {cue : Option Cue} (plain : ∀ c ∈ cue, Journal.rewards [.cue c] = [])
    (j : Journal) : j.Still (giveCue stage cue j).2 := by
  cases cue with
  | none => exact .refl j
  | some c => exact Journal.cue_still (plain c rfl) j

theorem step_orderly (stage : Stage) (i : Interpreter) (j : Journal) : (i.step stage j).Orderly i j := by
  unfold step
  split
  · exact yields_of_emitted rfl rfl (.refl j)
  · split
    · exact follow_orderly (.finish {}) i j
    · split
      · exact yields_of_emitted rfl rfl (Journal.note_still rfl j)
      · rename_i deed found
        have modest := deedFor_modest found
        have noted : j.Still (j.notes deed.note.toList) :=
          Journal.notes_still (fun n member => modest.note n (Option.mem_toList.mp member)) j
        have cued := giveCue_still stage modest.cue (j.notes deed.note.toList)
        cases given : giveCue stage deed.cue (j.notes deed.note.toList) with
        | mk answer j' =>
            rw [given] at cued
            have done : i.Yields j none { i with emitted := deed.emitted.toList ++ i.emitted } j' := by
              refine ⟨⟨?_, noted.trans cued⟩, rfl⟩
              intro event member
              rcases List.mem_append.mp member with emitted | earlier
              · exact Or.inr (modest.emitted event (Option.mem_toList.mp emitted))
              · exact Or.inl earlier
            exact Progress.Orderly.after done (follow_orderly _ _ _)

theorem run_yields (stage : Stage) (budget : Nat) (i : Interpreter) (j : Journal) :
    i.Yields j (i.run stage budget j).1 (i.run stage budget j).2.1 (i.run stage budget j).2.2 := by
  induction budget generalizing i j with
  | zero => exact yields_of_emitted rfl rfl (Journal.note_still rfl j)
  | succ budget ih =>
      have orderly := step_orderly stage i j
      rw [run]
      cases stepped : i.step stage j with
      | stop outcome i' j' => rw [stepped] at orderly; exact orderly
      | next i' j' =>
          rw [stepped] at orderly
          exact orderly.trans (ih i' j')

/-- The interpreter with the program loaded and nothing of it done. -/
def load (program : Program) (i : Interpreter) : Interpreter :=
  { i with program := some program, cursor := 0, waitingForInput := false, skipRequested := false, suspension := none }

/-- An idle interpreter takes any program that is not empty. -/
theorem start_idle {program : Program} {i : Interpreter} (idle : i.program = none) (filled : program.isEmpty = false)
    (j : Journal) : ∃ j', i.start program j = (.ok (), i.load program, j') ∧ j.Quiet j' := by
  have labelled : j.Quiet (j.notes (program.labels.repeated.map fun entry =>
      .repeatedLabel entry.1 entry.2)) := by
    apply Journal.notes_quiet
    intro n member
    obtain ⟨entry, _, rfl⟩ := List.mem_map.mp member
    rfl
  unfold start isRunning
  rw [idle, filled]
  exact ⟨_, rfl, labelled.trans (Journal.note_quiet rfl _)⟩

theorem start_busy {i : Interpreter} (busy : i.program ≠ none) (program : Program) (j : Journal) :
    i.start program j = (.error .interpreterBusy, i, j.note .startWhileRunning) := by
  have running : i.isRunning = true := Option.isSome_iff_ne_none.mpr busy
  rw [start, if_pos running]

/-- Going on keeps the program exactly as long as it has come to nothing. -/
theorem resume_yields (stage : Stage) (elapsed : Duration) (i : Interpreter) (j : Journal) :
    i.Yields j (i.resume stage elapsed j).1 (i.resume stage elapsed j).2.1 (i.resume stage elapsed j).2.2 := by
  have settled := settleSuspension_yields elapsed i j
  unfold resume
  split
  · cases ended : i.settleSuspension elapsed j with
    | mk ready rest =>
        rw [ended] at settled
        cases ready with
        | true => exact settled.trans (run_yields stage _ rest.1 rest.2)
        | false => exact settled
  · exact yields_of_emitted rfl rfl (.refl j)

end Interpreter

end Plotline
