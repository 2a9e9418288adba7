import Plotline.Interpreter.Basic
import Plotline.Proofs.Bus.Echo

/-!
A stage that pays no heed to remarks. Before such a stage the interpreter does the same whatever the log says.
-/

namespace Plotline

/-- The stage answers as it would if nothing had been remarked. -/
def Stage.Heedless (stage : Stage) : Prop := ∀ j j' cue, Journal.Echoes j j' → stage j cue = stage j' cue

namespace Interpreter

variable {stage : Stage} {j j' : Journal}

theorem start_echoes (program : Program) (i : Interpreter) (echoes : j.Echoes j') :
    ∃ result i' k k', i.start program j = (result, i', k) ∧ i.start program j' = (result, i', k') ∧ k.Echoes k' := by
  unfold start
  split
  · exact ⟨_, _, _, _, rfl, rfl, echoes.note _⟩
  · split
    · exact ⟨_, _, _, _, rfl, rfl, echoes.note _⟩
    · exact ⟨_, _, _, _, rfl, rfl, (echoes.notes _).note _⟩

theorem settleSuspension_echoes (elapsed : Duration) (i : Interpreter) (echoes : j.Echoes j') :
    ∃ ready i' k k', i.settleSuspension elapsed j = (ready, i', k) ∧ i.settleSuspension elapsed j' = (ready, i', k') ∧
      k.Echoes k' := by
  unfold settleSuspension
  split
  · exact ⟨_, _, _, _, rfl, rfl, echoes⟩
  · split
    · exact ⟨_, _, _, _, rfl, rfl, echoes⟩
    · exact ⟨_, _, _, _, rfl, rfl, echoes.cue _⟩
  · exact ⟨_, _, _, _, rfl, rfl, echoes⟩
  · split
    · exact ⟨_, _, _, _, rfl, rfl, (echoes.note _).cue _⟩
    · split
      · exact ⟨_, _, _, _, rfl, rfl, echoes.cue _⟩
      · exact ⟨_, _, _, _, rfl, rfl, echoes⟩

/-- One instruction has led to the same, but for remarks. -/
inductive Progress.Echoes : Progress → Progress → Prop
  | next (i : Interpreter) {k k' : Journal} (echoes : k.Echoes k') : Echoes (.next i k) (.next i k')
  | stop (outcome : Option ProgramOutcome) (i : Interpreter) {k k' : Journal} (echoes : k.Echoes k') :
      Echoes (.stop outcome i k) (.stop outcome i k')

theorem follow_echoes (flow : Flow) (i : Interpreter) (echoes : j.Echoes j') :
    (i.follow flow j).Echoes (i.follow flow j') := by
  cases flow with
  | advance => exact .next _ echoes
  | redirect target => exact .next _ echoes
  | waitForInput => exact .stop _ _ (echoes.cue _)
  | waitForChoice options => exact .stop _ _ echoes
  | waitFor duration =>
      unfold follow
      dsimp only
      split
      · exact .next _ echoes
      · exact .stop _ _ (echoes.cue _)
  | finish ending => exact .stop _ _ (((echoes.cue _).cue _).note _)

theorem giveCue_echoes (heedless : stage.Heedless) (cue : Option Cue) (echoes : j.Echoes j') :
    ∃ answer k k', giveCue stage cue j = (answer, k) ∧ giveCue stage cue j' = (answer, k') ∧ k.Echoes k' := by
  cases cue with
  | none => exact ⟨_, _, _, rfl, rfl, echoes⟩
  | some c =>
      refine ⟨_, _, _, rfl, ?_, echoes.cue c⟩
      rw [giveCue, heedless j j' c echoes]

theorem step_echoes (heedless : stage.Heedless) (i : Interpreter) (echoes : j.Echoes j') :
    (i.step stage j).Echoes (i.step stage j') := by
  unfold step
  split
  · exact .stop _ _ echoes
  · split
    · exact follow_echoes _ _ echoes
    · split
      · exact .next _ (echoes.note _)
      · rename_i deed _
        obtain ⟨answer, k, k', given, given', told⟩ :=
          giveCue_echoes heedless deed.cue (echoes.notes deed.note.toList)
        rw [given, given']
        exact follow_echoes _ _ told

theorem run_echoes (heedless : stage.Heedless) (budget : Nat) (i : Interpreter) (echoes : j.Echoes j') :
    ∃ outcome i' k k', i.run stage budget j = (outcome, i', k) ∧ i.run stage budget j' = (outcome, i', k') ∧
      k.Echoes k' := by
  induction budget generalizing i j j' with
  | zero => exact ⟨_, _, _, _, rfl, rfl, echoes.note _⟩
  | succ budget ih =>
      have stepped := step_echoes heedless i echoes
      unfold run
      revert stepped
      generalize i.step stage j = p
      generalize i.step stage j' = p'
      intro stepped
      cases stepped with
      | next i' told => exact ih i' told
      | stop outcome i' told => exact ⟨_, _, _, _, rfl, rfl, told⟩

theorem resume_echoes (heedless : stage.Heedless) (elapsed : Duration) (i : Interpreter) (echoes : j.Echoes j') :
    ∃ outcome i' k k', i.resume stage elapsed j = (outcome, i', k) ∧ i.resume stage elapsed j' = (outcome, i', k') ∧
      k.Echoes k' := by
  unfold resume
  split
  · obtain ⟨ready, i', k, k', settled, settled', told⟩ := settleSuspension_echoes elapsed i echoes
    rw [settled, settled']
    dsimp only
    split
    · exact run_echoes heedless _ i' told
    · exact ⟨_, _, _, _, rfl, rfl, told⟩
  · exact ⟨_, _, _, _, rfl, rfl, echoes⟩

theorem selectChoice_echoes (index : Nat) (i : Interpreter) (echoes : j.Echoes j') :
    (∃ error, i.selectChoice index j = .error error ∧ i.selectChoice index j' = .error error) ∨
      ∃ i' k k', i.selectChoice index j = .ok (i', k) ∧ i.selectChoice index j' = .ok (i', k') ∧ k.Echoes k' := by
  unfold selectChoice
  split
  · exact .inl ⟨_, rfl, rfl⟩
  · split
    · exact .inl ⟨_, rfl, rfl⟩
    · exact .inr ⟨_, _, _, rfl, rfl, (echoes.note _).note _⟩

end Interpreter

end Plotline
