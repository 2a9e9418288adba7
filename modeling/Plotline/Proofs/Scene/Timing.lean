import Plotline.Proofs.Interpreter.Wait
import Plotline.Proofs.Scene.Unscripted

/-!
How timed waits are charged. The time of a tick goes to the wait that is pending when the tick begins, and to no other:
a wait that begins in a tick has the whole of its time before it when the tick is over, and what a wait leaves over of
the time is lost.
-/

namespace Plotline.Scene

variable {s s' : Scene} {program : Program} {cursor : Nat} {remaining passed : Duration}

theorem Unscripted.waitless (unscripted : s.Unscripted s') : s.channel.journal.Waitless s'.channel.journal := by
  obtain ⟨entries, grown, plain⟩ := unscripted.journal
  exact ⟨entries, grown, fun listens => nomatch plain _ listens⟩

theorem free_of_takes {i i' : Interpreter} (takes : i.Takes i') (free : i.remainingWait? = none) :
    i'.remainingWait? = none := by
  cases takes with
  | same => exact free
  | loaded idle program => rfl

/-- A timed wait is pending only while a program is loaded. -/
def Anchored (s : Scene) : Prop := s.interpreter.remainingWait? ≠ none → s.interpreter.program ≠ none

theorem Anchored.loaded_of_stillWaits (anchored : s.Anchored) (waits : s.interpreter.StillWaits passed) :
    ∃ program, s.interpreter.program = some program := by
  obtain ⟨remaining, timer, -⟩ := waits
  exact Option.ne_none_iff_exists'.mp (anchored (by rw [Interpreter.remainingWait?_eq_some.mpr timer]; nofun))

private theorem anchored_of_takes (anchored : s.Anchored) (takes : s.interpreter.Takes s'.interpreter) :
    s'.Anchored := by
  unfold Anchored at anchored ⊢
  revert takes
  generalize s'.interpreter = i'
  intro takes
  cases takes with
  | same => exact anchored
  | loaded idle program => nofun

private theorem anchored_of_attends {stage : Stage} {j j' : Journal} (attends : s.interpreter.Attends stage j j') :
    s.Anchored := by
  cases attends with
  | free waitless free => exact fun pending => absurd free pending
  | begun holds positive grown answer before after => exact fun _ idle => nomatch holds.program.symm.trans idle

private theorem over_of_free {i : Interpreter} (free : i.remainingWait? = none) (passed : Duration) :
    ¬ i.StillWaits passed := by
  rintro ⟨remaining, timer, -⟩
  cases free.symm.trans (Interpreter.remainingWait?_eq_some.mpr timer)

/-! ### One tick -/

theorem publishAll_waitless (events : List StoryEvent) (ch : Channel) :
    ch.journal.Waitless (ch.publishAll events).journal := by
  obtain ⟨ns, noted⟩ := Channel.publishAll_notes events ch
  rw [noted]
  exact .notes ns ch.journal

private theorem resumed_attends {outcome : Option ProgramOutcome} (running : s.interpreter.isRunning = true)
    (spent : ¬ s.interpreter.StillWaits passed) (went : s.resume passed = (outcome, s')) :
    s'.stage = s.stage ∧ s'.interpreter.Attends s.stage s.channel.journal s'.channel.journal ∧
      s'.interpreter.program = s.interpreter.programAfter outcome := by
  have attends := s.interpreter.resume_attends s.stage passed s.channel.journal running spent
  have yields := (s.interpreter.resume_yields s.stage passed s.channel.journal).program
  unfold Scene.resume at went
  cases resumed : s.interpreter.resume s.stage passed s.channel.journal with
  | mk ended rest =>
      rw [resumed] at attends yields went
      cases went
      exact ⟨rfl, attends.tail (publishAll_waitless _ { s.channel with journal := rest.2 }) rfl rfl rfl rfl, yields⟩

theorem branchActive_waitless (target : NodeId) (board : Option StoryboardName) (s : Scene) :
    s.channel.journal.Waitless (s.branchActive target board).channel.journal ∧
      (s.branchActive target board).interpreter = s.interpreter := by
  unfold branchActive
  split
  · exact ⟨.refl _, rfl⟩
  · dsimp only
    split
    · exact ⟨.note _ _, rfl⟩
    · exact ⟨(Journal.Waitless.note _ _).trans (publishAll_waitless [_] _), rfl⟩

/-- Unless the wait of the program goes on, a wait that begins while programs run has the whole of its time before it. -/
theorem pumpWithin_attends (rounds : Nat) (passed : Duration) (s : Scene) (spent : ¬ s.interpreter.StillWaits passed)
    (pending : s.interpreter.remainingWait? ≠ none → s.interpreter.program ≠ none ∧ rounds ≠ 0) :
    (s.pumpWithin rounds passed).interpreter.Attends s.stage s.channel.journal
      (s.pumpWithin rounds passed).channel.journal := by
  induction rounds generalizing s passed with
  | zero => exact .free (.refl _) (Classical.byContradiction fun some => (pending some).2 rfl)
  | succ rounds ih =>
      rw [pumpWithin]
      split
      · rename_i running
        cases went : s.resume passed with
        | mk outcome s' =>
            obtain ⟨stage, attends, ended⟩ := resumed_attends running spent went
            cases outcome with
            | none => exact attends
            | some outcome =>
                cases outcome with
                | finished rewards =>
                    -- a program that has ended waits for nothing
                    cases attends with
                    | begun holds positive grown answer before after => cases holds.program.symm.trans ended
                    | free waitless free =>
                        have finished := (finishActive_silent rewards s').unscripted
                        have still := free_of_takes finished.interpreter free
                        rw [← stage, ← finished.stage]
                        exact .head (waitless.trans finished.waitless)
                          (ih 0 _ (over_of_free still 0) fun some => absurd still some)
                | branched target board =>
                    obtain ⟨waitless, same⟩ := branchActive_waitless target board s'
                    exact attends.tail waitless (by rw [same]) (by rw [same]) (by rw [same]) (by rw [same])
      · rename_i stopped
        refine .free (.refl _) (Classical.byContradiction fun some => stopped ?_)
        exact Option.isSome_iff_ne_none.mpr (pending some).1

theorem tick_attends (anchored : s.Anchored) (spent : ¬ s.interpreter.StillWaits passed) :
    (s.tick passed).interpreter.Attends s.stage s.channel.journal (s.tick passed).channel.journal := by
  have before := tick_unscripted s
  have spentThen : ¬ s.kickstart.drain.interpreter.StillWaits passed := by
    cases same : s.interpreter.remainingWait? with
    | none => exact over_of_free (free_of_takes before.interpreter same) passed
    | some remaining =>
        rw [before.interpreter.of_loaded (anchored (by simp [same]))]
        exact spent
  have pending := anchored_of_takes anchored before.interpreter
  rw [← before.stage]
  exact .head before.waitless (pumpWithin_attends _ passed _ spentThen fun some => ⟨pending some, Nat.succ_ne_zero _⟩)

private theorem drain_holds (holds : s.interpreter.Holds program cursor remaining) :
    s.kickstart.drain.interpreter = s.interpreter :=
  (tick_unscripted s).interpreter.of_loaded (by simp [holds.program])

/-- As long as its time is not over, a wait is charged the time of the tick. -/
theorem tick_of_short (holds : s.interpreter.Holds program cursor remaining) (short : passed < remaining) :
    (s.tick passed).interpreter.Holds program cursor (remaining - passed) ∧
      s.channel.journal.Waitless (s.tick passed).channel.journal := by
  have before := (tick_unscripted s).waitless
  have same := drain_holds holds
  unfold tick pump
  rw [pumpWithin]
  unfold Scene.resume
  rw [same, if_pos holds.running, Interpreter.resume_of_short holds short]
  exact ⟨⟨holds.program, holds.cursor, rfl, holds.unskipped⟩, before.trans (publishAll_waitless _ _)⟩

/-- The time that the program waited for is over: it stands at the next instruction, and the stage listens no more. -/
def waitOver (s : Scene) : Scene :=
  { s with interpreter := s.interpreter.goOn, channel := s.channel.cue (.skipListener false) }

/-- A wait whose time is over ends, and all goes on from the next instruction as if no time had passed. -/
theorem tick_of_over (holds : s.interpreter.Holds program cursor remaining) (spent : remaining ≤ passed) :
    s.tick passed = s.kickstart.drain.waitOver.pump 0 := by
  have same := drain_holds holds
  have running : s.kickstart.drain.waitOver.interpreter.isRunning = true := by
    unfold waitOver
    rw [same]
    exact holds.running
  have resumed : s.kickstart.drain.resume passed = s.kickstart.drain.waitOver.resume 0 := by
    have went := Interpreter.resume_of_over (same ▸ holds) spent s.kickstart.drain.stage s.kickstart.drain.channel.journal
    unfold Scene.resume
    rw [went]
    rfl
  unfold tick pump
  rw [pumpWithin, pumpWithin, if_pos running, same, if_pos holds.running, resumed]
  rfl

/-- Where no timed wait is pending the time of a tick is charged to nothing. -/
theorem tick_of_free (free : s.interpreter.remainingWait? = none) (passed : Duration) : s.tick passed = s.tick 0 := by
  have still := free_of_takes (tick_unscripted s).interpreter free
  have resumed : s.kickstart.drain.resume passed = s.kickstart.drain.resume 0 := by
    unfold Scene.resume
    rw [Interpreter.resume_of_free still]
  unfold tick pump
  rw [pumpWithin, pumpWithin, resumed]

/-! ### Other operations -/

namespace Operation

/-- The time that passes with the operation. -/
def elapsed : Operation → Duration
  | tick elapsed => elapsed
  | _ => 0

private theorem elapsed_of_beside {op : Operation} (beside : op.IsBeside) : op.elapsed = 0 := by
  cases op <;> first | rfl | cases beside

theorem perform_anchored (op : Operation) (s : Scene) (anchored : s.Anchored) : (op.perform s).Anchored := by
  rcases op.beside_or with beside | ⟨elapsed, rfl⟩ | rfl | ⟨index, rfl⟩ | rfl
  · exact anchored_of_takes anchored (perform_takes beside s)
  · by_cases waits : s.interpreter.StillWaits elapsed
    · obtain ⟨program, loaded⟩ := anchored.loaded_of_stillWaits waits
      obtain ⟨remaining, timer, unskipped, short⟩ := waits
      have after := (tick_of_short ⟨loaded, rfl, timer, unskipped⟩ short).1
      exact fun _ idle => nomatch after.program.symm.trans idle
    · exact anchored_of_attends (tick_attends anchored waits)
  · unfold Anchored
    rcases continueInput_interpreter s with same | same <;> rw [same] <;> exact anchored
  · unfold Anchored
    rcases selectChoice_interpreter index s with same | ⟨-, cursor, same⟩ <;> rw [same]
    · exact anchored
    · exact fun pending => absurd rfl pending
  · exact anchored

/-- Unless a skip is asked for, a wait whose time is not over goes on, whatever else is done. -/
theorem perform_holds {op : Operation} (unskipped : op ≠ .requestSkip)
    (holds : s.interpreter.Holds program cursor remaining) (short : op.elapsed < remaining) :
    (op.perform s).interpreter.Holds program cursor (remaining - op.elapsed) := by
  rcases op.beside_or with beside | ⟨elapsed, rfl⟩ | rfl | ⟨index, rfl⟩ | rfl
  · rw [(perform_takes beside s).of_loaded (by simp [holds.program]), elapsed_of_beside beside]
    exact holds
  · exact (tick_of_short holds short).1
  · rcases continueInput_interpreter s with same | same <;> rw [same]
    · exact holds
    · exact ⟨holds.program, holds.cursor, holds.suspension, holds.unskipped⟩
  · rcases selectChoice_interpreter index s with same | ⟨waiting, -⟩
    · rw [same]
      exact holds
    · exact absurd (by unfold Interpreter.options?; rw [holds.suspension]) waiting
  · exact absurd rfl unskipped

end Operation

/-! ### Whole runs -/

/-- The time that passes with the operations. -/
def timeOf : List Operation → Duration
  | [] => 0
  | op :: ops => op.elapsed + timeOf ops

theorem run_holds {ops : List Operation} (unskipped : ∀ op ∈ ops, op ≠ .requestSkip)
    (holds : s.interpreter.Holds program cursor remaining) (short : timeOf ops < remaining) :
    (run ops s).interpreter.Holds program cursor (remaining - timeOf ops) := by
  induction ops generalizing s remaining with
  | nil => exact holds
  | cons op ops ih =>
      rw [timeOf] at short ⊢
      have begun : op.elapsed < remaining := Nat.lt_of_le_of_lt (Nat.le_add_right _ _) short
      have first := Operation.perform_holds (unskipped op List.mem_cons_self) holds begun
      have rest := ih (fun other member => unskipped other (List.mem_cons_of_mem op member)) first
        (Nat.lt_sub_iff_add_lt'.mpr short)
      rwa [Nat.sub_sub] at rest

/-- A timed wait that begins in a tick has the whole of its time before it when the tick is over, and every wait that is
pending then has begun in the tick or goes on, less the time of the tick. A tick in which none goes on takes no time. Of a
wait that has begun the time of the following ticks is taken off as long as it lasts; in the first tick for which it does
not last, the program stands at the next instruction and goes on from there as if no time had passed. -/
theorem timed_waits_charged (settings : Settings) (stage : Stage) (earlier : List Operation) (elapsed : Duration) :
    let s := run earlier (empty settings stage)
    let begins := fun duration => s.channel.journal.BeginsWait s.stage duration (s.tick elapsed).channel.journal
    (∀ remaining, (s.tick elapsed).interpreter.remainingWait? = some remaining ↔
        begins remaining ∨ ∃ before, s.interpreter.remainingWait? = some before ∧
          s.interpreter.skipRequested = false ∧ elapsed < before ∧ remaining = before - elapsed) ∧
      (s.interpreter.remainingWait? = none → s.tick elapsed = s.tick 0) ∧
      ∀ duration, begins duration → 0 < duration ∧
        ∀ later : List Operation, (∀ op ∈ later, op ≠ .requestSkip) → timeOf later < duration →
          let waiting := run later (s.tick elapsed)
          waiting.interpreter.remainingWait? = some (duration - timeOf later) ∧
            waiting.interpreter.program = (s.tick elapsed).interpreter.program ∧
            waiting.interpreter.cursor = (s.tick elapsed).interpreter.cursor ∧
            ∀ more, duration ≤ timeOf later + more →
              let next := waiting.kickstart.drain.waitOver
              waiting.tick more = next.pump 0 ∧ next.interpreter.suspension = none ∧
                next.interpreter.program = (s.tick elapsed).interpreter.program ∧
                next.interpreter.cursor = (s.tick elapsed).interpreter.cursor + 1 := by
  intro s begins
  have anchored : s.Anchored :=
    run_keeps (fun op s _ => op.perform_anchored s) earlier _ (obeys_of_forall earlier _ fun _ _ => trivial)
      fun pending => absurd rfl pending
  refine ⟨?_, fun free => tick_of_free free elapsed, ?_⟩
  · intro remaining
    by_cases waits : s.interpreter.StillWaits elapsed
    · obtain ⟨program, loaded⟩ := anchored.loaded_of_stillWaits waits
      obtain ⟨before, timer, unskipped, short⟩ := waits
      obtain ⟨holds, waitless⟩ := tick_of_short ⟨loaded, rfl, timer, unskipped⟩ short
      have pending := Interpreter.remainingWait?_eq_some.mpr timer
      rw [holds.remaining]
      constructor
      · intro same
        exact Or.inr ⟨before, pending, unskipped, short, (Option.some.inj same).symm⟩
      · rintro (begun | ⟨before', pending', -, -, rfl⟩)
        · exact absurd begun (waitless.not_beginsWait s.stage remaining)
        · cases pending.symm.trans pending'
          rfl
    · have attends := tick_attends anchored waits
      constructor
      · exact fun pending => Or.inl (attends.beginsWait_of_remaining pending)
      · rintro (begun | ⟨before, pending, unskipped, short, -⟩)
        · obtain ⟨-, program, cursor, holds⟩ := attends.holds_of_beginsWait begun
          exact holds.remaining
        · exact absurd ⟨before, Interpreter.remainingWait?_eq_some.mp pending, unskipped, short⟩ waits
  · intro duration begun
    -- no wait begins in a tick in which one goes on
    have spent : ¬ s.interpreter.StillWaits elapsed := by
      intro waits
      obtain ⟨program, loaded⟩ := anchored.loaded_of_stillWaits waits
      obtain ⟨before, timer, unskipped, short⟩ := waits
      exact (tick_of_short ⟨loaded, rfl, timer, unskipped⟩ short).2.not_beginsWait s.stage duration begun
    obtain ⟨positive, program, cursor, holds⟩ := (tick_attends anchored spent).holds_of_beginsWait begun
    refine ⟨positive, fun later unskipped short => ?_⟩
    have still := run_holds unskipped holds short
    refine ⟨still.remaining, still.program.trans holds.program.symm, still.cursor.trans holds.cursor.symm, ?_⟩
    intro more enough
    have same := drain_holds still
    refine ⟨tick_of_over still (Nat.sub_le_iff_le_add'.mpr enough), rfl, ?_, ?_⟩
    · exact ((congrArg (·.program) same).trans still.program).trans holds.program.symm
    · exact congrArg (· + 1) (((congrArg (·.cursor) same).trans still.cursor).trans holds.cursor.symm)

/-- A merchant who takes three seconds to come to the stall, where the music takes two seconds to begin. -/
private def merchant : RunnerDefinition :=
  { id := ⟨"merchant"⟩
    storyboard :=
      { name := ⟨"fair"⟩
        nodes :=
          [{ id := ⟨"arrival"⟩
             isStart := true
             program :=
               { instructions :=
                   [.actor "M" (.moveTo "stall" (.ofNat 3)), .audio (.playMusic "flute" (.ofNat 2))] } }] } }

private def seconds (n : Nat) : Duration := n * Duration.nanosPerSecond

/-- The second that is left over of the way to the stall is not taken off the music. -/
theorem merchant_charged :
    let s := (run [.register (.ofDefinition merchant)] (empty {} .nominal)).tick (seconds 5)
    s.interpreter.remainingWait? = some (seconds 3) ∧
      (run [.tick (seconds 1), .continueInput] s).interpreter.remainingWait? = some (seconds 2) ∧
      (run [.tick (seconds 1), .continueInput, .tick (seconds 3)] s).interpreter.remainingWait? = some (seconds 2) := by
  intro s
  obtain ⟨pending, -, charged⟩ :=
    timed_waits_charged {} .nominal [.register (.ofDefinition merchant)] (seconds 5)
  have free : (run [.register (.ofDefinition merchant)] (empty {} .nominal)).interpreter.remainingWait? = none := rfl
  have waits : s.interpreter.remainingWait? = some (seconds 3) := by decide +kernel
  have begun := ((pending (seconds 3)).mp waits).resolve_right fun ⟨before, earlier, _⟩ => nomatch free.symm.trans earlier
  obtain ⟨-, lasts⟩ := charged (seconds 3) begun
  obtain ⟨remaining, -, -, ends⟩ := lasts [.tick (seconds 1), .continueInput] (by simp) (by decide)
  refine ⟨waits, remaining, ?_⟩
  obtain ⟨next, -⟩ := ends (seconds 3) (by decide)
  refine (congrArg (fun s : Scene => s.interpreter.remainingWait?) next).trans ?_
  decide +kernel

end Plotline.Scene
