import Plotline.Proofs.Interpreter.Resume
import Plotline.Proofs.Scene.Order
import Plotline.Scene.Tick

/-!
A tick goes through its programs to the end. Every program but the first uses up a request, so that there are always
rounds to spare.
-/

namespace Plotline.Scene

variable {s s' : Scene}

private theorem completeNode_interpreter (runner : RunnerId) (node : NodeId) (s : Scene) :
    (s.completeNode runner node).interpreter = s.interpreter := by
  unfold completeNode
  split <;> rfl

private theorem close_interpreter (runner : RunnerId) (node : NodeId) (rewards : List Reward) (s : Scene) :
    (s.close runner node rewards).interpreter = s.interpreter :=
  completeNode_interpreter runner node { s with active := none }

/-- A program is loaded only for the node that is active. -/
private theorem beginNode_loads (idle : s.interpreter.program = none) (runner : RunnerId) (node : NodeId) :
    (s.beginNode runner node).2.interpreter.program = none ∨ (s.beginNode runner node).2.isEventRunning = true := by
  unfold beginNode
  split
  · exact .inl idle
  · dsimp only
    split
    · exact .inl idle
    · rename_i x _ _ program _
      cases empty : program.isEmpty with
      | true =>
          rw [if_pos rfl]
          refine .inl ?_
          dsimp only
          rw [close_interpreter]
          exact idle
      | false =>
          rw [if_neg Bool.false_ne_true]
          obtain ⟨j, started, -⟩ := Interpreter.start_idle (i := s.interpreter) idle empty
            (x.beginNode node s.channel).2.2.journal
          have same : (s.putRunner (x.beginNode node s.channel).2.1 (x.beginNode node s.channel).2.2).interpreter.start
              program (s.putRunner (x.beginNode node s.channel).2.1 (x.beginNode node s.channel).2.2).channel.journal =
                (.ok (), s.interpreter.load program, j) := started
          rw [same]
          exact .inr rfl

/-- Every program that is loaded by releasing has used up a request. -/
private theorem releaseAll_spends (requests : List Request) (idle : s.interpreter.program = none) :
    (releaseAll requests s).interpreter.program = none ∨
      (releaseAll requests s).pending.length < requests.length := by
  induction requests generalizing s with
  | nil => exact .inl idle
  | cons request rest ih =>
      by_cases running : s.isEventRunning = true
      · rw [releaseAll_of_running running]
        exact .inl idle
      · rw [releaseAll_of_free running, List.length_cons]
        have loads : (s.takeUp request rest).interpreter.program = none ∨
            (s.takeUp request rest).isEventRunning = true := by
          unfold takeUp
          have idleTaken : ({ s with pending := rest }.note
              (.releasing request.runner request.node request.sequence)).interpreter.program = none := idle
          exact beginNode_loads idleTaken _ _
        rcases loads with idleStill | busy
        · exact (ih idleStill).imp id Nat.lt_succ_of_lt
        · rw [releaseAll_of_running busy]
          exact .inr (Nat.lt_succ_self _)

private theorem release_spends (idle : s.interpreter.program = none) :
    s.release.interpreter.program = none ∨ s.release.pending.length < s.pending.length := by
  unfold release
  split
  · exact .inl idle
  · rw [s.releaseOrder_perm.length_eq]
    exact releaseAll_spends _ idle

/-- If another program is loaded when one has ended, a request has been used up for it. -/
theorem finishActive_spends (idle : s.interpreter.program = none) (rewards : List Reward) :
    (s.finishActive rewards).interpreter.program = none ∨
      (s.finishActive rewards).pending.length < s.pending.length := by
  rcases Option.eq_none_or_eq_some s.active with free | ⟨⟨runner, node⟩, active⟩
  · rw [finishActive_of_free free]
    exact .inl idle
  · rw [finishActive_of_active active, ← close_pending runner node rewards s]
    exact release_spends ((congrArg (·.program) (close_interpreter runner node rewards s)).trans idle)

theorem resume_ended {elapsed : Duration} {outcome : ProgramOutcome}
    (resumed : s.resume elapsed = (some outcome, s')) :
    s'.interpreter.program = none ∧ s'.pending = s.pending := by
  have yields := (s.interpreter.resume_yields s.stage elapsed s.channel.journal).program
  unfold resume at resumed
  cases went : s.interpreter.resume s.stage elapsed s.channel.journal with
  | mk ended rest =>
      rw [went] at yields resumed
      cases resumed
      exact ⟨yields, rfl⟩

theorem pumpWithin_idle (idle : s.interpreter.program = none) (rounds : Nat) (elapsed : Duration) :
    s.pumpWithin rounds elapsed = s := by
  cases rounds with
  | zero => rfl
  | succ rounds =>
      have stopped : ¬ s.interpreter.isRunning = true := by simp [Interpreter.isRunning, idle]
      rw [pumpWithin, if_neg stopped]

/-- There are rounds to spare as soon as there are more of them than requests. -/
private theorem pumpWithin_succ (rounds : Nat) (enough : s.pending.length < rounds) (elapsed : Duration) :
    s.pumpWithin (rounds + 1) elapsed = s.pumpWithin rounds elapsed := by
  induction rounds generalizing s elapsed with
  | zero => exact absurd enough (Nat.not_lt_zero _)
  | succ rounds ih =>
      rw [pumpWithin, pumpWithin]
      split
      · cases resumed : s.resume elapsed with
        | mk outcome t =>
            cases outcome with
            | none => rfl
            | some outcome =>
                obtain ⟨idle, pending⟩ := resume_ended resumed
                cases outcome with
                | branched target board => rfl
                | finished rewards =>
                    dsimp only
                    rcases finishActive_spends idle rewards with idleStill | spent
                    · rw [pumpWithin_idle idleStill, pumpWithin_idle idleStill]
                    · rw [pending] at spent
                      exact ih (by omega) 0
      · rfl

/-- A tick is over, however many more rounds it were given. -/
theorem pumpWithin_eq {rounds : Nat} (enough : s.pending.length < rounds) (elapsed : Duration) :
    s.pumpWithin rounds elapsed = s.pump elapsed := by
  induction enough with
  | refl => rfl
  | step enough ih => rw [pumpWithin_succ _ enough, ih]

end Plotline.Scene
