import Plotline.Proofs.Scene.Bounds
import Plotline.Proofs.Scene.Gate
import Plotline.Proofs.Scene.Timing

/-!
Scenes whose stage is done with every cue at once, as a terminal is. No program ever waits there for time to pass. So one
that is still loaded when a tick is over waits for the player, or it was stopped in the last round of the tick because it
had carried out as many instructions as it may at once.
-/

namespace Plotline.Scene

variable {op : Operation} {elapsed : Duration} {s t : Scene} {rounds : List Round} {limit : Nat}

/-! ### The stage stays, and nothing waits for time -/

theorem Step.stage {returning past : Prop} {t t' : Turn} (step : Step op returning past t t') :
    t'.scene.stage = t.scene.stage := by
  cases step <;> rfl

theorem Turns.stage {returning past : Prop} {t t' : Turn} (turns : Turns op returning past t t') :
    t'.scene.stage = t.scene.stage := by
  induction turns with
  | refl => rfl
  | tail _ last ih => exact last.stage.trans ih

theorem perform_stage (op : Operation) (coherent : s.Coherent) : (op.perform s).stage = s.stage := by
  have steps : Steps op True True ⟨s, [], false⟩ ⟨op.perform s, [], false⟩ :=
    perform_steps op coherent (fun _ => trivial) fun _ => trivial
  exact Turns.stage steps

private theorem untimed_of_attends {i : Interpreter} {j j' : Journal} (attends : i.Attends .instant j j') :
    i.remainingWait? = none := by
  cases attends with
  | free waitless free => exact free
  | begun holds positive grown answer before after => cases answer

/-- Where every cue is over at once no operation makes a program wait for time. -/
theorem perform_untimed (op : Operation) (instant : s.stage = .instant) (untimed : s.interpreter.remainingWait? = none) :
    (op.perform s).interpreter.remainingWait? = none := by
  rcases op.beside_or with beside | ⟨elapsed, rfl⟩ | rfl | ⟨index, rfl⟩ | rfl
  · exact free_of_takes (Operation.perform_takes beside s) untimed
  · have spent : ¬ s.interpreter.StillWaits elapsed := by
      rintro ⟨remaining, timer, -⟩
      cases untimed.symm.trans (Interpreter.remainingWait?_eq_some.mpr timer)
    have attends := tick_attends (fun pending => absurd untimed pending) spent
    rw [instant] at attends
    exact untimed_of_attends attends
  · rcases Operation.continueInput_interpreter s with same | same <;> rw [same] <;> exact untimed
  · rcases Operation.selectChoice_interpreter index s with same | ⟨-, cursor, same⟩ <;> rw [same]
    · exact untimed
    · rfl
  · exact untimed

/-- The gate and the interpreter agree, every cue is over at once, no program waits for time, and each time that one goes
on it carries out at most so many instructions. -/
structure Brisk (limit : Nat) (s : Scene) : Prop extends Sound s where
  instant : s.stage = .instant
  untimed : s.interpreter.remainingWait? = none
  maxSteps : s.interpreter.maxSteps = limit

theorem empty_brisk (settings : Settings) :
    (empty settings .instant).Brisk (max 1 settings.interpreter.maxSteps) :=
  ⟨empty_sound settings .instant, rfl, rfl, rfl⟩

theorem perform_brisk (op : Operation) (s : Scene) (startsFree : op.StartsFree s) (brisk : s.Brisk limit) :
    (op.perform s).Brisk limit :=
  ⟨perform_sound op s startsFree brisk.toSound, (perform_stage op brisk.toCoherent).trans brisk.instant,
    perform_untimed op brisk.instant brisk.untimed, (perform_maxSteps op s).trans brisk.maxSteps⟩

namespace Brisk

/-- What is said about the scene has no part in it. -/
private theorem of_channel (brisk : s.Brisk limit) {ch : Channel} (same : ch.bus = s.channel.bus) :
    Brisk limit { s with channel := ch } :=
  ⟨⟨⟨same ▸ brisk.attached, brisk.emitted, brisk.owned, brisk.listed, brisk.loaded⟩, brisk.idle⟩, brisk.instant,
    brisk.untimed, brisk.maxSteps⟩

theorem note (brisk : s.Brisk limit) (n : Note) : (s.note n).Brisk limit := brisk.of_channel rfl

theorem flush (brisk : s.Brisk limit) : s.flush.2.Brisk limit := brisk.of_channel rfl

end Brisk

/-! ### The last round -/

theorem Pumps.roundsWithin_eq (pumps : Pumps elapsed s rounds t) {limit : Nat} (enough : rounds.length ≤ limit) :
    s.roundsWithin limit elapsed = rounds := by
  induction pumps generalizing limit with
  | @rests elapsed s idle =>
      have stopped : ¬ s.interpreter.isRunning = true := by simp [Interpreter.isRunning, idle]
      cases limit with
      | zero => rfl
      | succ limit => rw [roundsWithin, if_neg stopped]
  | @waits elapsed s t running resumed =>
      obtain ⟨limit, rfl⟩ := Nat.exists_eq_add_of_lt enough
      have came : Round.outcome ⟨s, elapsed⟩ = none := congrArg Prod.fst resumed
      rw [roundsWithin, if_pos running]
      dsimp only
      rw [came]
  | @branches elapsed s t target storyboard running resumed =>
      obtain ⟨limit, rfl⟩ := Nat.exists_eq_add_of_lt enough
      have came : Round.outcome ⟨s, elapsed⟩ = some (.branched target storyboard) := congrArg Prod.fst resumed
      rw [roundsWithin, if_pos running]
      dsimp only
      rw [came]
  | @finishes elapsed s t u rewards rounds running resumed others ih =>
      obtain ⟨limit, rfl⟩ := Nat.exists_eq_add_of_lt enough
      have came : Round.outcome ⟨s, elapsed⟩ = some (.finished rewards) := congrArg Prod.fst resumed
      have next : Round.result ⟨s, elapsed⟩ = t.finishActive rewards := by
        rw [Round.result_eq _ running, came]
        dsimp only
        rw [resumed]
        rfl
      rw [roundsWithin, if_pos running]
      dsimp only
      rw [came, next]
      exact congrArg (_ :: ·) (ih (by omega))

/-- The rounds of a tick are those in which its programs go on. -/
theorem rounds_pump (elapsed : Duration) (s : Scene) :
    Pumps elapsed s.kickstart.drain (s.rounds elapsed) (s.tick elapsed) := by
  obtain ⟨rounds, pumps⟩ := exists_pumps elapsed s.kickstart.drain
  have bounded := pumps.length_le
  have same : s.rounds elapsed = rounds := pumps.roundsWithin_eq (by omega)
  exact same ▸ pumps

/-- Programs have gone on, and one is still loaded: it has come to nothing in the last round. -/
theorem Pumps.last_of_running (pumps : Pumps elapsed s rounds t) (running : t.interpreter.isRunning = true) :
    ∃ round, rounds.getLast? = some round ∧ round.scene.interpreter.isRunning = true ∧
      round.scene.resume round.elapsed = (none, t) := by
  induction pumps with
  | rests idle => simp [Interpreter.isRunning, idle] at running
  | waits going resumed => exact ⟨_, rfl, going, resumed⟩
  | @branches elapsed s t target storyboard going resumed =>
      have kept := (branchActive_waitless target storyboard t).2
      simp [Interpreter.isRunning, kept, (resume_ended resumed).1] at running
  | @finishes elapsed s t u rewards rounds going resumed others ih =>
      obtain ⟨round, last, rest⟩ := ih running
      exact ⟨round, by rw [List.getLast?_cons, last]; rfl, rest⟩

/-- A round that comes to nothing leaves its program loaded. -/
theorem resume_running (running : s.interpreter.isRunning = true) (resumed : s.resume elapsed = (none, t)) :
    t.interpreter.isRunning = true := by
  have yields := (s.interpreter.resume_yields s.stage elapsed s.channel.journal).program
  unfold resume at resumed
  cases went : s.interpreter.resume s.stage elapsed s.channel.journal with
  | mk ended rest =>
      rw [went] at yields resumed
      cases resumed
      unfold Interpreter.isRunning at running ⊢
      rw [← running]
      exact congrArg Option.isSome yields

theorem Pumps.running_of_last (pumps : Pumps elapsed s rounds t) {round : Round} (last : rounds.getLast? = some round)
    (unended : round.outcome = none) : t.interpreter.isRunning = true := by
  induction pumps with
  | rests idle => cases last
  | waits running resumed => exact resume_running running resumed
  | @branches elapsed s t target storyboard running resumed =>
      obtain rfl : ⟨s, elapsed⟩ = round := Option.some.inj last
      exact nomatch (congrArg Prod.fst resumed).symm.trans unended
  | @finishes elapsed s t u rewards rounds running resumed others ih =>
      rw [List.getLast?_cons] at last
      cases later : rounds.getLast? with
      | none =>
          rw [later] at last
          obtain rfl : ⟨s, elapsed⟩ = round := Option.some.inj last
          exact nomatch (congrArg Prod.fst resumed).symm.trans unended
      | some round' =>
          rw [later] at last
          exact ih (later.trans last)

/-- The program of the round has come to nothing, although it has carried out as many instructions as it may. -/
structure Round.Exhausts (limit : Nat) (r : Round) : Prop where
  unended : r.outcome = none
  whole : r.executed.length = limit

/-- After a tick a program is loaded that does not wait for the player just if the last round was stopped at the limit. -/
theorem tick_running_iff (brisk : s.Brisk limit) (elapsed : Duration)
    (unasked : (s.tick elapsed).interpreter.waitingForInput = false)
    (unoffered : (s.tick elapsed).interpreter.isWaitingForChoice = false) :
    (s.tick elapsed).isEventRunning = true ↔
      ∃ round, (s.rounds elapsed).getLast? = some round ∧ round.Exhausts limit := by
  have after : (s.tick elapsed).Brisk limit := perform_brisk (.tick elapsed) s trivial brisk
  have pumps := rounds_pump elapsed s
  rw [after.gate]
  constructor
  · intro running
    obtain ⟨round, last, going, resumed⟩ := pumps.last_of_running running
    have unended : round.outcome = none := congrArg Prod.fst resumed
    refine ⟨round, last, unended, ?_⟩
    -- The last round ends in the state that the tick leaves, which waits neither for the player nor for time.
    have limited : round.scene.interpreter.maxSteps = limit :=
      ((pumps.maxSteps.2 round (List.mem_of_getLast? last)).trans
        (tick_unscripted s).interpreter.maxSteps).trans brisk.maxSteps
    rw [← limited]
    refine (Interpreter.resume_awaits round.scene.stage round.elapsed round.scene.interpreter
      round.scene.channel.journal going unended).resolve_left ?_
    have reached := congrArg (fun result : Option ProgramOutcome × Scene => result.2.interpreter) resumed
    have untimed := after.untimed
    dsimp only at reached
    rw [← reached] at unasked unoffered untimed
    rintro (input | choice | timer)
    · exact absurd (input.symm.trans unasked) (by decide)
    · exact absurd (choice.symm.trans unoffered) (by decide)
    · exact timer untimed
  · rintro ⟨round, last, exhausts⟩
    exact pumps.running_of_last last exhausts.unended

end Plotline.Scene
