import Mathlib.Logic.Function.Iterate
import Plotline.Play.Session
import Plotline.Proofs.Scene.Brisk

/-!
What the prompt of a session says about the story. Whatever has been played before, when the scene has settled and the
world is prompted for, a node is active just if its program was stopped because it had carried out as many instructions as
it may at once. So the prompt for the world means that no program is running unless one goes on for that long without
asking for the player.
-/

namespace Plotline.Session

/-- What is done with a session. -/
inductive Move
  | settle
  | flush
  | answer (command : Command)

def Move.perform : Move → Session → Session
  | settle, s => s.settle
  | flush, s => s.flush.2
  | answer command, s => (s.handle command).2

def play (moves : List Move) (s : Session) : Session := moves.foldl (fun s move => move.perform s) s

variable {kept : Scene → Prop}

/-! ### What a session keeps -/

/-- To settle is to tick, at least once. -/
theorem settleWithin_eq_ticks (limit : Nat) (s : Session) :
    ∃ ticks ≤ limit, s.settleWithin (limit + 1) = { s with scene := (Scene.tick 0)^[ticks + 1] s.scene } := by
  induction limit generalizing s with
  | zero =>
      refine ⟨0, Nat.le_refl 0, ?_⟩
      unfold settleWithin
      dsimp only
      split <;> rfl
  | succ limit ih =>
      rw [settleWithin]
      dsimp only
      split
      · exact ⟨0, Nat.zero_le _, rfl⟩
      · obtain ⟨ticks, few, settled⟩ := ih { s with scene := s.scene.tick 0 }
        exact ⟨ticks + 1, Nat.succ_le_succ few, settled⟩

theorem settle_eq_ticks (s : Session) :
    ∃ ticks < settleLimit, s.settle = { s with scene := (Scene.tick 0)^[ticks + 1] s.scene } := by
  obtain ⟨ticks, few, settled⟩ := s.settleWithin_eq_ticks 31
  exact ⟨ticks, Nat.lt_succ_of_le few, settled⟩

private theorem save_keeps (note : ∀ n s, kept s → kept (s.note n)) (slot : Nat) (s : Session) (start : kept s.scene) :
    kept (s.save slot).2.scene := by
  unfold save
  split
  · exact start
  · exact note _ _ start

private theorem load_keeps (restore : ∀ entries s, kept s → kept (s.restore entries)) (slot : Nat) (s : Session)
    (start : kept s.scene) : kept (s.load slot).2.scene := by
  unfold load
  split
  · exact start
  · exact start
  · exact restore _ _ start

/-- What operations and notes keep, every command keeps. -/
theorem handle_keeps (step : ∀ op s, Scene.Operation.StartsFree op s → kept s → kept (op.perform s))
    (note : ∀ n s, kept s → kept (s.note n)) (command : Command) (s : Session) (start : kept s.scene) :
    kept (s.handle command).2.scene := by
  unfold handle
  split
  · exact start
  · have continued := step .continueInput s.scene trivial start
    split
    · rename_i scene is
      rw [Scene.Operation.perform, is] at continued
      exact continued
    · exact start
  · rename_i index _
    have selected := step (.selectChoice index) s.scene trivial start
    split
    · rename_i scene is
      rw [Scene.Operation.perform, is] at selected
      exact selected
    · exact start
  · exact step (.publish _) s.scene trivial start
  · exact step (.publish _) s.scene trivial start
  · exact save_keeps note _ s start
  · exact load_keeps (fun entries s => step (.restore entries) s trivial) _ s start
  · exact start
  · exact start
  · exact start

theorem ticks_keep (step : ∀ op s, Scene.Operation.StartsFree op s → kept s → kept (op.perform s)) (ticks : Nat)
    (s : Scene) (start : kept s) : kept ((Scene.tick 0)^[ticks] s) := by
  induction ticks generalizing s with
  | zero => exact start
  | succ ticks ih => exact ih (s.tick 0) (step (.tick 0) s trivial start)

theorem settle_keeps (step : ∀ op s, Scene.Operation.StartsFree op s → kept s → kept (op.perform s)) (s : Session)
    (start : kept s.scene) : kept s.settle.scene := by
  obtain ⟨ticks, -, settled⟩ := s.settle_eq_ticks
  rw [settled]
  exact ticks_keep step _ _ start

/-- What operations, notes and flushing keep is kept however a session is played. -/
theorem play_keeps (step : ∀ op s, Scene.Operation.StartsFree op s → kept s → kept (op.perform s))
    (note : ∀ n s, kept s → kept (s.note n)) (flush : ∀ s, kept s → kept s.flush.2) (moves : List Move) (s : Session)
    (start : kept s.scene) : kept (play moves s).scene := by
  induction moves generalizing s with
  | nil => exact start
  | cons move moves ih =>
      refine ih (move.perform s) ?_
      cases move with
      | settle => exact settle_keeps step s start
      | flush => exact flush s.scene start
      | answer command => exact handle_keeps step note command s start

/-- The scene of a session over a package is brisk, however it is played. -/
theorem play_brisk (package : StoryPackage) (settings : Settings) (slots : Slots) (moves : List Move) :
    (play moves ⟨(Scene.ofPackage package settings .instant).2, slots⟩).scene.Brisk
      (max 1 settings.interpreter.maxSteps) := by
  obtain ⟨registers, plays, made⟩ := Scene.registerAll_eq_run package.runners (Scene.empty settings .instant)
  have opened : (Scene.ofPackage package settings .instant).2.Brisk (max 1 settings.interpreter.maxSteps) := by
    unfold Scene.ofPackage
    rw [← made]
    exact Scene.run_keeps (fun op s plays => Scene.perform_brisk op s (plays.startsFree s)) registers _
      (Scene.obeys_of_forall registers _ plays) (Scene.empty_brisk settings)
  exact play_keeps Scene.perform_brisk (fun n s => (·.note n)) (fun s => (·.flush)) moves _ opened

/-! ### What the prompt for the world means -/

theorem prompt_eq_world (s : Session) :
    s.prompt = .world ↔
      s.scene.interpreter.waitingForInput = false ∧ s.scene.interpreter.isWaitingForChoice = false := by
  unfold prompt
  cases s.scene.interpreter.isWaitingForChoice <;> cases s.scene.interpreter.waitingForInput <;> simp

/-- However a session is played, it settles in a limited number of ticks. If the world is prompted for then, a node is
active just if its program was stopped in the last round of the last tick, because it had carried out as many instructions
as it may at once without coming to its end or asking for the player. -/
theorem busy_at_world_prompt_iff (package : StoryPackage) (settings : Settings) (slots : Slots) (moves : List Move) :
    let s := play moves ⟨(Scene.ofPackage package settings .instant).2, slots⟩
    ∃ ticks < settleLimit, s.settle = { s with scene := (Scene.tick 0)^[ticks + 1] s.scene } ∧
      (s.settle.prompt = .world →
        (s.settle.scene.isEventRunning = true ↔
          ∃ round, (((Scene.tick 0)^[ticks] s.scene).rounds 0).getLast? = some round ∧
            round.Exhausts (max 1 settings.interpreter.maxSteps))) := by
  intro s
  have brisk : s.scene.Brisk (max 1 settings.interpreter.maxSteps) := play_brisk package settings slots moves
  obtain ⟨ticks, few, settled⟩ := s.settle_eq_ticks
  refine ⟨ticks, few, settled, fun world => ?_⟩
  obtain ⟨unasked, unoffered⟩ := s.settle.prompt_eq_world.mp world
  have before := ticks_keep Scene.perform_brisk ticks s.scene brisk
  rw [settled] at unasked unoffered ⊢
  dsimp only at unasked unoffered ⊢
  rw [Function.iterate_succ_apply'] at unasked unoffered ⊢
  exact Scene.tick_running_iff before 0 unasked unoffered

/-! ### A program that goes round in circles -/

/-- A merry-go-round that nothing stops. -/
private def spin : Program := { instructions := [.label ⟨"round"⟩, .jump ⟨"round"⟩] }

private structure Spins (i : Interpreter) : Prop where
  program : i.program = some spin
  cursor : i.cursor < 2
  standard : i.table = .standard
  free : i.suspension = none
  unasked : i.waitingForInput = false

private theorem spins_step {i : Interpreter} (spins : Spins i) (j : Journal) :
    ∃ i' j', i.step .instant j = .next i' j' ∧ Spins i' := by
  obtain ⟨program, cursor, standard, free, unasked⟩ := spins
  obtain ⟨_, stand, _, _, _, _, _, _, _⟩ := i
  subst program standard free unasked
  match stand, cursor with
  | 0, _ => exact ⟨_, _, rfl, rfl, Nat.one_lt_two, rfl, rfl, rfl⟩
  | 1, _ => exact ⟨_, _, rfl, rfl, Nat.zero_lt_two, rfl, rfl, rfl⟩

private theorem spins_run (budget : Nat) {i : Interpreter} (spins : Spins i) (j : Journal) :
    (i.run .instant budget j).1 = none ∧ Spins (i.run .instant budget j).2.1 := by
  induction budget generalizing i j with
  | zero => exact ⟨rfl, spins⟩
  | succ budget ih =>
      obtain ⟨i', j', stepped, still⟩ := spins_step spins j
      rw [Interpreter.run, stepped]
      exact ih still j'

private theorem spins_resume {i : Interpreter} (spins : Spins i) (elapsed : Duration) (j : Journal) :
    (i.resume .instant elapsed j).1 = none ∧ Spins (i.resume .instant elapsed j).2.1 := by
  have running : i.isRunning = true := by simp [Interpreter.isRunning, spins.program]
  have free : i.settleSuspension elapsed j = (true, i, j) := by rw [Interpreter.settleSuspension, spins.free]
  rw [Interpreter.resume, if_pos running, free]
  exact spins_run _ spins j

private theorem spins_tick {s : Scene} (instant : s.stage = .instant) (spins : Spins s.kickstart.drain.interpreter) :
    Spins (s.tick 0).interpreter := by
  have running : s.kickstart.drain.interpreter.isRunning = true := by simp [Interpreter.isRunning, spins.program]
  have stage : s.kickstart.drain.stage = .instant := (Scene.tick_unscripted s).stage.trans instant
  obtain ⟨unended, still⟩ := spins_resume spins 0 s.kickstart.drain.channel.journal
  have resumed : s.kickstart.drain.resume 0 = (none, (s.kickstart.drain.resume 0).2) := by
    refine Prod.ext ?_ rfl
    unfold Scene.resume
    rw [stage]
    exact unended
  unfold Scene.tick Scene.pump
  rw [Scene.pumpWithin, if_pos running, resumed]
  unfold Scene.resume
  rw [stage]
  exact ⟨still.program, still.cursor, still.standard, still.free, still.unasked⟩

private theorem spins_ticks (ticks : Nat) {s : Scene} {limit : Nat} (brisk : s.Brisk limit) (spins : Spins s.interpreter) :
    Spins ((Scene.tick 0)^[ticks] s).interpreter := by
  induction ticks generalizing s with
  | zero => exact spins
  | succ ticks ih =>
      have same : s.kickstart.drain.interpreter = s.interpreter :=
        (Scene.tick_unscripted s).interpreter.of_loaded (by simp [spins.program])
      exact ih (Scene.perform_brisk (.tick 0) s trivial brisk) (spins_tick brisk.instant (same ▸ spins))

private theorem spins_settle {s : Session} {limit : Nat} (brisk : s.scene.Brisk limit)
    (started : Spins s.scene.kickstart.drain.interpreter) :
    s.settle.prompt = .world ∧ s.settle.scene.isEventRunning = true := by
  have after := settle_keeps Scene.perform_brisk s brisk
  have spins : Spins s.settle.scene.interpreter := by
    obtain ⟨ticks, -, settled⟩ := s.settle_eq_ticks
    rw [settled]
    dsimp only
    rw [Function.iterate_succ_apply]
    exact spins_ticks ticks (Scene.perform_brisk (.tick 0) _ trivial brisk) (spins_tick brisk.instant started)
  refine ⟨s.settle.prompt_eq_world.mpr ⟨spins.unasked, ?_⟩, ?_⟩
  · simp [Interpreter.isWaitingForChoice, Interpreter.options?, spins.free]
  · rw [after.gate]
    simp [Interpreter.isRunning, spins.program]

private def carousel : StoryPackage :=
  { runners :=
      [{ id := ⟨"fair"⟩
         storyboard := { name := ⟨"fairground"⟩, nodes := [{ id := ⟨"carousel"⟩, isStart := true, program := spin }] } }] }

/-- The merry-go-round still turns when the world is prompted for. -/
theorem carousel_busy_at_world_prompt :
    let s : Session := ⟨(Scene.ofPackage carousel {} .instant).2, ⟨"saves", .absent⟩⟩
    s.settle.prompt = .world ∧ s.settle.scene.isEventRunning = true := by
  intro s
  have brisk : s.scene.Brisk 10000 := play_brisk carousel {} s.slots []
  have started : Spins s.scene.kickstart.drain.interpreter := by
    refine ⟨?_, ?_, ?_, ?_, ?_⟩
    · decide +kernel
    · decide +kernel
    · exact (Scene.tick_unscripted s.scene).interpreter.table
    · decide +kernel
    · decide +kernel
  exact spins_settle brisk started

end Plotline.Session
