import Plotline.Proofs.Interpreter.Performance
import Plotline.Proofs.Interpreter.Resume

/-!
How much of a program is carried out each time it goes on: no more instructions than the interpreter has been made to
allow, and as many as that unless the program comes to its end or to something that it waits for.
-/

namespace Plotline.Interpreter

/-! ### The limit stays -/

theorem follow_maxSteps (flow : Flow) (i : Interpreter) (j : Journal) :
    (i.follow flow j).interpreter.maxSteps = i.maxSteps := by
  cases flow with
  | waitFor duration =>
      unfold follow
      dsimp only
      split <;> rfl
  | _ => rfl

theorem step_maxSteps (stage : Stage) (i : Interpreter) (j : Journal) :
    (i.step stage j).interpreter.maxSteps = i.maxSteps := by
  unfold step
  split
  · rfl
  · split
    · exact follow_maxSteps _ i j
    · split
      · rfl
      · exact follow_maxSteps _ _ _

theorem settleSuspension_maxSteps (elapsed : Duration) (i : Interpreter) (j : Journal) :
    (i.settleSuspension elapsed j).2.1.maxSteps = i.maxSteps := by
  unfold settleSuspension
  split
  · rfl
  · split <;> rfl
  · rfl
  · split
    · rfl
    · split <;> rfl

theorem run_maxSteps (stage : Stage) (budget : Nat) (i : Interpreter) (j : Journal) :
    (i.run stage budget j).2.1.maxSteps = i.maxSteps := by
  induction budget generalizing i j with
  | zero => rfl
  | succ budget ih =>
      have carried := step_maxSteps stage i j
      rw [run]
      cases stepped : i.step stage j with
      | stop outcome i' j' =>
          rw [stepped] at carried
          exact carried
      | next i' j' =>
          rw [stepped] at carried
          exact (ih i' j').trans carried

theorem resume_maxSteps (stage : Stage) (elapsed : Duration) (i : Interpreter) (j : Journal) :
    (i.resume stage elapsed j).2.1.maxSteps = i.maxSteps := by
  have settled := settleSuspension_maxSteps elapsed i j
  unfold resume
  split
  · cases ended : i.settleSuspension elapsed j with
    | mk ready rest =>
        rw [ended] at settled
        cases ready with
        | true => exact (run_maxSteps stage _ rest.1 rest.2).trans settled
        | false => exact settled
  · rfl

/-! ### The limit holds -/

/-- Each step carries out one instruction at most. -/
theorem executed_length_le (stage : Stage) (budget : Nat) (i : Interpreter) (j : Journal) :
    (i.executed stage budget j).length ≤ budget := by
  induction budget generalizing i j with
  | zero => exact Nat.le_refl 0
  | succ budget ih =>
      have one : i.instruction?.toList.length ≤ 1 := by cases i.instruction? <;> simp
      rw [executed, List.length_append]
      cases i.step stage j with
      | stop outcome i' j' => exact Nat.le_trans one (Nat.le_add_left 1 budget)
      | next i' j' =>
          have others := ih i' j'
          dsimp only
          omega

theorem executedAfter_length_le (stage : Stage) (elapsed : Duration) (i : Interpreter) (j : Journal) :
    (i.executedAfter stage elapsed j).length ≤ i.maxSteps := by
  have settled := settleSuspension_maxSteps elapsed i j
  unfold executedAfter
  split
  · cases ended : i.settleSuspension elapsed j with
    | mk ready rest =>
        rw [ended] at settled
        cases ready with
        | true => exact Nat.le_trans (executed_length_le stage _ rest.1 rest.2) (Nat.le_of_eq settled)
        | false => exact Nat.zero_le _
  · exact Nat.zero_le _

/-! ### Stopping before the limit -/

/-- The program waits for the player, or for time to pass. -/
def Awaits (i : Interpreter) : Prop :=
  i.waitingForInput = true ∨ i.isWaitingForChoice = true ∨ i.remainingWait? ≠ none

theorem follow_awaits {flow : Flow} {i i' : Interpreter} {j j' : Journal} (stops : i.follow flow j = .stop none i' j') :
    i'.Awaits := by
  cases flow with
  | advance => cases stops
  | redirect target => cases stops
  | waitForInput =>
      cases stops
      exact .inl rfl
  | waitForChoice options =>
      cases stops
      exact .inr (.inl rfl)
  | waitFor duration =>
      unfold follow at stops
      dsimp only at stops
      split at stops
      · cases stops
      · cases stops
        exact .inr (.inr nofun)
  | finish ending => cases stops

theorem step_awaits {stage : Stage} {i i' : Interpreter} {j j' : Journal} (running : i.isRunning = true)
    (stops : i.step stage j = .stop none i' j') : i'.Awaits := by
  unfold step at stops
  split at stops
  · rename_i idle
    simp [isRunning, idle] at running
  · split at stops
    · exact follow_awaits stops
    · split at stops
      · cases stops
      · exact follow_awaits stops

/-- There is no next step without an instruction. -/
theorem instruction?_of_next {stage : Stage} {i i' : Interpreter} {j j' : Journal}
    (goes : i.step stage j = .next i' j') : ∃ instruction, i.instruction? = some instruction := by
  unfold step at goes
  split at goes
  · cases goes
  · rename_i program loaded
    split at goes
    · cases goes
    · rename_i instruction found
      refine ⟨instruction, ?_⟩
      unfold instruction?
      rw [loaded]
      exact found

/-- A run that has come to nothing is one in which the program waits, or every step of the budget has been taken. -/
theorem run_awaits (stage : Stage) (budget : Nat) (i : Interpreter) (j : Journal) (running : i.isRunning = true)
    (unended : (i.run stage budget j).1 = none) :
    (i.run stage budget j).2.1.Awaits ∨ (i.executed stage budget j).length = budget := by
  induction budget generalizing i j with
  | zero => exact .inr rfl
  | succ budget ih =>
      have orderly := step_orderly stage i j
      rw [run] at unended ⊢
      rw [executed]
      cases stepped : i.step stage j with
      | stop outcome i' j' =>
          rw [stepped] at unended
          obtain rfl : outcome = none := unended
          exact .inl (step_awaits running stepped)
      | next i' j' =>
          rw [stepped] at orderly unended
          obtain ⟨instruction, found⟩ := instruction?_of_next stepped
          have still : i'.isRunning = true := by
            unfold isRunning
            rw [orderly.program]
            exact running
          refine (ih i' j' still unended).imp id fun all => ?_
          rw [found, Option.toList_some, List.length_append, all]
          exact Nat.add_comm 1 budget

theorem settleSuspension_awaits (elapsed : Duration) (i : Interpreter) (j : Journal)
    (unready : (i.settleSuspension elapsed j).1 = false) : (i.settleSuspension elapsed j).2.1.Awaits := by
  revert unready
  unfold settleSuspension
  split
  · nofun
  · split
    · rename_i waiting
      exact fun _ => .inl waiting
    · nofun
  · rename_i options choice
    exact fun _ => .inr (.inl (by simp [isWaitingForChoice, options?, choice]))
  · split
    · nofun
    · split
      · nofun
      · exact fun _ => .inr (.inr nofun)

/-- A program that has gone on and come to nothing waits, or it has carried out as many instructions as there may be. -/
theorem resume_awaits (stage : Stage) (elapsed : Duration) (i : Interpreter) (j : Journal) (running : i.isRunning = true)
    (unended : (i.resume stage elapsed j).1 = none) :
    (i.resume stage elapsed j).2.1.Awaits ∨ (i.executedAfter stage elapsed j).length = i.maxSteps := by
  have settled := settleSuspension_maxSteps elapsed i j
  have yields := (i.settleSuspension_yields elapsed j).program
  have waits := settleSuspension_awaits elapsed i j
  unfold resume executedAfter
  unfold resume at unended
  rw [if_pos running] at unended ⊢
  rw [if_pos running]
  cases ended : i.settleSuspension elapsed j with
  | mk ready rest =>
      rw [ended] at settled yields waits unended
      cases ready with
      | false => exact .inl (waits rfl)
      | true =>
          have still : rest.1.isRunning = true := by
            unfold isRunning
            rw [yields]
            exact running
          rw [← settled]
          exact run_awaits stage _ rest.1 rest.2 still unended

/-- A program that never ends is stopped where the limit is. -/
example :
    let treadmill : Program := { instructions := [.label ⟨"step"⟩, .jump ⟨"step"⟩] }
    let i : Interpreter := { program := some treadmill, cinematicReveal := 0, maxSteps := 3 }
    (i.executedAfter .instant 0 []).length = 3 := by
  decide +kernel

end Plotline.Interpreter
