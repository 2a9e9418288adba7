import Plotline.Proofs.Interpreter.Budget
import Plotline.Proofs.Scene.Announcement
import Plotline.Proofs.Scene.Audience
import Plotline.Proofs.Scene.Custody
import Plotline.Proofs.Scene.Deferral
import Plotline.Proofs.Scene.Errand
import Plotline.Proofs.Scene.Rounds

/-!
A tick comes to its end, whatever the programs are. It delivers the events that it finds in the queue and no others; it
lets programs go on no more often than there are requests, and once more; each of them carries out a limited number of
instructions; and no call begins more nodes than requests wait for, and one more.
-/

namespace Plotline.Scene

/-- Programs go on in these rounds, one after the other, until one waits or branches or none is left. Nothing limits the
number of the rounds. -/
inductive Pumps : Duration → Scene → List Round → Scene → Prop
  | rests {elapsed : Duration} {s : Scene} (idle : s.interpreter.program = none) : Pumps elapsed s [] s
  | waits {elapsed : Duration} {s t : Scene} (running : s.interpreter.isRunning = true)
      (resumed : s.resume elapsed = (none, t)) : Pumps elapsed s [⟨s, elapsed⟩] t
  | branches {elapsed : Duration} {s t : Scene} {target : NodeId} {storyboard : Option StoryboardName}
      (running : s.interpreter.isRunning = true) (resumed : s.resume elapsed = (some (.branched target storyboard), t)) :
      Pumps elapsed s [⟨s, elapsed⟩] (t.branchActive target storyboard)
  | finishes {elapsed : Duration} {s t u : Scene} {rewards : List Reward} {rounds : List Round}
      (running : s.interpreter.isRunning = true) (resumed : s.resume elapsed = (some (.finished rewards), t))
      (others : Pumps 0 (t.finishActive rewards) rounds u) : Pumps elapsed s (⟨s, elapsed⟩ :: rounds) u

variable {elapsed : Duration} {s t : Scene} {rounds : List Round}

/-! ### How many rounds -/

theorem Pumps.of_idle (pumps : Pumps elapsed s rounds t) (idle : s.interpreter.program = none) : rounds = [] := by
  have stopped : ¬ s.interpreter.isRunning = true := by simp [Interpreter.isRunning, idle]
  cases pumps with
  | rests idle => rfl
  | waits running resumed => exact absurd running stopped
  | branches running resumed => exact absurd running stopped
  | finishes running resumed others => exact absurd running stopped

/-- Every round but the first has used up a request. -/
theorem Pumps.length_le (pumps : Pumps elapsed s rounds t) : rounds.length ≤ 1 + s.pending.length := by
  induction pumps with
  | rests idle => exact Nat.zero_le _
  | waits running resumed => exact Nat.le_add_right 1 _
  | branches running resumed => exact Nat.le_add_right 1 _
  | @finishes elapsed s t u rewards rounds running resumed others ih =>
      obtain ⟨idle, pending⟩ := resume_ended resumed
      rw [List.length_cons]
      rcases finishActive_spends idle rewards with idleStill | spent
      · rw [others.of_idle idleStill]
        exact Nat.le_add_right 1 _
      · rw [pending] at spent
        omega

/-- A limit that is high enough makes no difference. -/
theorem Pumps.leads (pumps : Pumps elapsed s rounds t) {limit : Nat} (enough : rounds.length ≤ limit) :
    s.pumpWithin limit elapsed = t := by
  induction pumps generalizing limit with
  | rests idle => exact pumpWithin_idle idle limit _
  | waits running resumed =>
      obtain ⟨limit, rfl⟩ := Nat.exists_eq_add_of_lt enough
      rw [pumpWithin, if_pos running, resumed]
  | branches running resumed =>
      obtain ⟨limit, rfl⟩ := Nat.exists_eq_add_of_lt enough
      rw [pumpWithin, if_pos running, resumed]
  | finishes running resumed others ih =>
      obtain ⟨limit, rfl⟩ := Nat.exists_eq_add_of_lt enough
      rw [pumpWithin, if_pos running, resumed]
      exact ih (by omega)

private theorem exists_rounds (limit : Nat) (elapsed : Duration) (enough : s.pending.length < limit) :
    ∃ rounds, Pumps elapsed s rounds (s.pumpWithin limit elapsed) := by
  induction limit generalizing s elapsed with
  | zero => exact absurd enough (Nat.not_lt_zero _)
  | succ limit ih =>
      by_cases running : s.interpreter.isRunning = true
      · rw [pumpWithin, if_pos running]
        rcases resumed : s.resume elapsed with ⟨_ | ⟨rewards⟩ | ⟨target, storyboard⟩, t⟩
        · exact ⟨_, .waits running resumed⟩
        · obtain ⟨idle, pending⟩ := resume_ended resumed
          dsimp only
          rcases finishActive_spends idle rewards with idleStill | spent
          · rw [pumpWithin_idle idleStill]
            exact ⟨_, .finishes running resumed (.rests idleStill)⟩
          · rw [pending] at spent
            obtain ⟨rounds, others⟩ := ih (s := t.finishActive rewards) 0 (by omega)
            exact ⟨_, .finishes running resumed others⟩
        · exact ⟨_, .branches running resumed⟩
      · have idle : s.interpreter.program = none := by simpa [Interpreter.isRunning] using running
        rw [pumpWithin_idle idle]
        exact ⟨[], .rests idle⟩

theorem exists_pumps (elapsed : Duration) (s : Scene) : ∃ rounds, Pumps elapsed s rounds (s.pump elapsed) :=
  exists_rounds _ elapsed (Nat.lt_succ_self _)

/-! ### How many instructions -/

theorem resume_maxSteps (elapsed : Duration) (s : Scene) :
    (s.resume elapsed).2.interpreter.maxSteps = s.interpreter.maxSteps :=
  s.interpreter.resume_maxSteps s.stage elapsed s.channel.journal

theorem Pumps.maxSteps (pumps : Pumps elapsed s rounds t) :
    t.interpreter.maxSteps = s.interpreter.maxSteps ∧
      ∀ round ∈ rounds, round.scene.interpreter.maxSteps = s.interpreter.maxSteps := by
  induction pumps with
  | rests idle => exact ⟨rfl, List.forall_mem_nil _⟩
  | @waits elapsed s t running resumed =>
      have carried := s.resume_maxSteps elapsed
      rw [resumed] at carried
      exact ⟨carried, List.forall_mem_singleton.mpr rfl⟩
  | @branches elapsed s t target storyboard running resumed =>
      have carried := s.resume_maxSteps elapsed
      rw [resumed] at carried
      have after := (conclude_takes (some (.branched target storyboard)) t).maxSteps
      exact ⟨after.trans carried, List.forall_mem_singleton.mpr rfl⟩
  | @finishes elapsed s t u rewards rounds running resumed others ih =>
      have carried := s.resume_maxSteps elapsed
      rw [resumed] at carried
      have after := (conclude_takes (some (.finished rewards)) t).maxSteps.trans carried
      obtain ⟨last, each⟩ := ih
      refine ⟨last.trans after, List.forall_mem_cons.mpr ⟨rfl, ?_⟩⟩
      exact fun round member => (each round member).trans after

theorem perform_maxSteps (op : Operation) (s : Scene) :
    (op.perform s).interpreter.maxSteps = s.interpreter.maxSteps := by
  rcases op.beside_or with beside | ⟨elapsed, rfl⟩ | rfl | ⟨index, rfl⟩ | rfl
  · exact (Operation.perform_takes beside s).maxSteps
  · obtain ⟨rounds, pumps⟩ := exists_pumps elapsed s.kickstart.drain
    exact pumps.maxSteps.1.trans (tick_unscripted s).interpreter.maxSteps
  · rcases Operation.continueInput_interpreter s with same | same <;> rw [same]
  · rcases Operation.selectChoice_interpreter index s with same | ⟨-, cursor, same⟩ <;> rw [same]
  · rfl

theorem run_maxSteps (ops : List Operation) (s : Scene) :
    (run ops s).interpreter.maxSteps = s.interpreter.maxSteps := by
  induction ops generalizing s with
  | nil => rfl
  | cons op ops ih => exact (ih (op.perform s)).trans (perform_maxSteps op s)

/-! ### A tick as a whole -/

/-- What a tick comes to, and how much there can be to it if no more instructions than the limit are carried out each time
that a program goes on. -/
structure Bounded (limit : Nat) (elapsed : Duration) (s : Scene) : Prop where
  /-- The events in the queue are delivered, each once and in order. -/
  delivered : s.kickstart.drain =
    s.kickstart.channel.bus.queue.foldl deliverEvent { s.kickstart with channel := s.kickstart.channel.takeBatch.2 }
  /-- Of each of these events the observers of its topic hear, in the order of the queue; and of nothing else. -/
  told : (s.tick elapsed).channel.journal.observations =
    s.channel.journal.observations ++ tidings s.channel.bus s.kickstart.channel.bus.queue
  /-- What has been published since then is still in the queue at the end. -/
  deferred : (s.tick elapsed).channel.journal.published =
    s.kickstart.channel.journal.published ++ (s.tick elapsed).channel.bus.queue
  /-- The rounds come to an end. -/
  ends : ∃ rounds, Pumps elapsed s.kickstart.drain rounds (s.tick elapsed)
  rounds : ∀ rounds t, Pumps elapsed s.kickstart.drain rounds t →
    t = s.tick elapsed ∧ rounds.length ≤ 1 + s.kickstart.drain.pending.length ∧
      ∀ round ∈ rounds, round.executed.length ≤ limit

theorem tick_bounded (coherent : s.Coherent) (moored : s.Moored) (elapsed : Duration) :
    s.Bounded s.interpreter.maxSteps elapsed where
  delivered := rfl
  told := tick_tells coherent moored.distinct elapsed
  deferred := tick_defers coherent elapsed
  ends := exists_pumps elapsed s.kickstart.drain
  rounds := by
    intro rounds t pumps
    have enough : rounds.length ≤ s.kickstart.drain.pending.length + 1 := by
      have bounded := pumps.length_le
      omega
    refine ⟨(pumps.leads enough).symm, pumps.length_le, ?_⟩
    intro round member
    have same := (pumps.maxSteps.2 round member).trans (tick_unscripted s).interpreter.maxSteps
    rw [← same]
    exact round.scene.interpreter.executedAfter_length_le round.scene.stage round.elapsed round.scene.channel.journal

/-- Every tick of a scene comes to its end within bounds. And so does every call by which a node begins or ends: it leads
to one scene only, and of the nodes that are begun on the way all but its own stand for requests that wait no longer. -/
theorem ticks_end_within_bounds (ops : List Operation) (settings : Settings) (stage : Stage) (elapsed : Duration) :
    Bounded (max 1 settings.interpreter.maxSteps) elapsed (run ops (empty settings stage)) ∧
      ∀ (errand : Errand) (s : Scene), (∃ called, errand.Runs s called (errand.result s)) ∧
        ∀ called t, errand.Runs s called t →
          t = errand.result s ∧ called.length + t.pending.length = errand.own + s.pending.length := by
  have reached : Reached (fun _ _ => True) (run ops (empty settings stage)) := reached_run ops settings stage
  have limit : (run ops (empty settings stage)).interpreter.maxSteps = max 1 settings.interpreter.maxSteps :=
    run_maxSteps ops (empty settings stage)
  refine ⟨limit ▸ tick_bounded reached.coherent reached.moored elapsed, fun errand s => ⟨errand.exists_runs s, ?_⟩⟩
  exact fun called t runs => ⟨runs.leads, runs.spends⟩

end Plotline.Scene
