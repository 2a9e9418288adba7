import Plotline.Proofs.Interpreter.Performance
import Plotline.Proofs.Scene.Perform
import Plotline.Proofs.Scene.Unscripted

/-!
What a tick makes known of the triggers that programs carry out. One program after the other goes on in a tick. The
triggers that a program carries out are published when it stops, in their order and before anything that its end has for
a consequence; and nothing but a program publishes a trigger.
-/

namespace Plotline

/-- Without programs that go on no trigger is published. -/
theorem Journal.Unscripted.published {j j' : Journal} (unscripted : j.Unscripted j') :
    ∃ events, j'.published = j.published ++ events ∧ ∀ event ∈ events, event.topic ≠ .triggerRequested := by
  obtain ⟨entries, rfl, plain⟩ := unscripted
  refine ⟨Journal.published entries, ?_, ?_⟩
  · unfold Journal.published
    rw [List.reverse_append, List.filterMap_append]
  · intro event member
    obtain ⟨entry, there, shows⟩ := List.mem_filterMap.mp member
    have unscripted := plain entry (List.mem_reverse.mp there)
    split at shows
    · cases shows
      exact of_decide_eq_false unscripted
    · cases shows

theorem Interpreter.Takes.table {i i' : Interpreter} (takes : i.Takes i') : i'.table = i.table := by
  cases takes <;> rfl

theorem Interpreter.Takes.maxSteps {i i' : Interpreter} (takes : i.Takes i') : i'.maxSteps = i.maxSteps := by
  cases takes <;> rfl

/-- The events show what the program of the node came to. -/
def ProgramOutcome.ShownBy (runner : RunnerId) (node : NodeId) (events : List StoryEvent) : ProgramOutcome → Prop
  | finished rewards => .programFinished runner node rewards ∈ events
  | branched target _ => ∃ board, events = [.jumpRequested runner node board target]

namespace Scene

/-- A program goes on in the scene, after so much time. -/
structure Round where
  scene : Scene
  elapsed : Duration

namespace Round

def outcome (r : Round) : Option ProgramOutcome := (r.scene.resume r.elapsed).1

/-- The scene when the program has stopped, and what it came to has had its consequences. -/
def result (r : Round) : Scene := r.scene.pumpWithin 1 r.elapsed

/-- The instructions that the program carries out, in order. -/
def executed (r : Round) : List Instruction :=
  r.scene.interpreter.executedAfter r.scene.stage r.elapsed r.scene.channel.journal

/-- The events of the triggers that the program carries out. -/
def summons (r : Round) : List StoryEvent := r.executed.filterMap Instruction.summons?

/-- The program has published its triggers, each once and in order, and thereafter what is the consequence of its end;
among that there is no trigger. -/
structure Announces (r : Round) (consequences : List StoryEvent) : Prop where
  published : r.result.channel.journal.published = r.scene.channel.journal.published ++ (r.summons ++ consequences)
  others : ∀ event ∈ consequences, event.topic ≠ .triggerRequested
  waiting : r.outcome = none → consequences = []
  ended : ∀ outcome runner node, r.outcome = some outcome → r.scene.active = some (runner, node) →
    outcome.ShownBy runner node consequences

end Round

/-- The rounds that there are while programs go on: with each program that has finished, the next has its turn. -/
def roundsWithin : Nat → Duration → Scene → List Round
  | 0, _, _ => []
  | rounds + 1, elapsed, s =>
    if s.interpreter.isRunning then
      let round : Round := ⟨s, elapsed⟩
      round ::
        match round.outcome with
        | some (.finished _) => roundsWithin rounds 0 round.result
        | _ => []
    else []

/-- The rounds of a tick, after the events of the queue have been delivered. -/
def rounds (elapsed : Duration) (s : Scene) : List Round :=
  s.kickstart.drain.roundsWithin (s.kickstart.drain.pending.length + 1) elapsed

variable {s s' : Scene} {outcome : Option ProgramOutcome} {elapsed : Duration}

/-! ### One round -/

/-- A program that has gone on has published its triggers. -/
private theorem resume_announces (coherent : s.Coherent) (standard : s.interpreter.table = .standard)
    (went : s.resume elapsed = (outcome, s')) :
    s'.interpreter.table = .standard ∧ s'.active = s.active ∧ s'.runners = s.runners ∧
      s.channel.Grows (Round.summons ⟨s, elapsed⟩) [] s'.channel := by
  have voices := s.interpreter.resume_voices standard s.stage elapsed s.channel.journal
  have yields := s.interpreter.resume_yields s.stage elapsed s.channel.journal
  unfold resume at went
  cases resumed : s.interpreter.resume s.stage elapsed s.channel.journal with
  | mk ended rest =>
      rw [resumed] at voices yields went
      cases went
      have emitted : rest.1.emitted.reverse = Round.summons ⟨s, elapsed⟩ := by
        rw [voices.emitted, coherent.emitted]
        rfl
      have quiet := s.channel.journal_quiet yields.advances.journal.toGrows
      refine ⟨voices.table.trans standard, rfl, rfl, ?_⟩
      rw [← emitted]
      exact quiet.trans (Channel.publishAll_grows _ _ coherent.attached)

/-- The end of a program is made known, and the waiting requests have their turn. -/
private theorem finishActive_published {runner : RunnerId} {node : NodeId} {x : Runner}
    (active : s.active = some (runner, node)) (found : s.runner? runner = some x)
    (attached : s.channel.bus.attached = true) (rewards : List Reward) :
    ∃ events, (s.finishActive rewards).channel.journal.published = s.channel.journal.published ++ events ∧
      (∀ event ∈ events, event.topic ≠ .triggerRequested) ∧ .programFinished runner node rewards ∈ events := by
  obtain ⟨ch, closed, grown⟩ := close_found found attached node rewards
  obtain ⟨later, published, others⟩ := (release_silent (s.close runner node rewards)).journal.unscripted.published
  have told : (s.close runner node rewards).channel.journal.published =
      s.channel.journal.published ++ (x.endNews node ++ [.programFinished runner node rewards]) := by
    rw [closed]
    exact grown.journal.published
  refine ⟨x.endNews node ++ [.programFinished runner node rewards] ++ later, ?_, ?_, by simp⟩
  · rw [finishActive_of_active active, published, told, List.append_assoc _ _ later]
  · refine List.forall_mem_append.mpr ⟨List.forall_mem_append.mpr ⟨?_, by simp [StoryEvent.topic]⟩, others⟩
    intro event member
    rw [Runner.eq_of_mem_endNews member]
    nofun

private theorem branchActive_published {runner : RunnerId} {node : NodeId} {x : Runner}
    (active : s.active = some (runner, node)) (found : s.runner? runner = some x)
    (attached : s.channel.bus.attached = true) (target : NodeId) (storyboard : Option StoryboardName) :
    ∃ board, (s.branchActive target storyboard).channel.journal.published =
      s.channel.journal.published ++ [.jumpRequested runner node board target] := by
  obtain ⟨board, named⟩ : ∃ board, storyboard.or (some x.storyboard.name) = some board := by
    cases storyboard <;> exact ⟨_, rfl⟩
  have owner : ({ s with active := none } : Scene).runner? runner = some x := found
  have noted := Channel.note_quiet (n := .branched runner node board target) rfl s.channel
  have told := noted.trans (Channel.publish_grows (.jumpRequested runner node board target) _ attached)
  refine ⟨board, ?_⟩
  unfold branchActive
  rw [active]
  dsimp only
  rw [owner, Option.map_some, named]
  exact told.journal.published

private theorem branchActive_interpreter (target : NodeId) (storyboard : Option StoryboardName) (s : Scene) :
    (s.branchActive target storyboard).interpreter = s.interpreter := by
  unfold branchActive
  split
  · rfl
  · dsimp only
    split <;> rfl

/-- What the program came to has its consequences. -/
def conclude (outcome : Option ProgramOutcome) (s : Scene) : Scene :=
  match outcome with
  | none => s
  | some (.finished rewards) => s.finishActive rewards
  | some (.branched target storyboard) => s.branchActive target storyboard

theorem conclude_takes (outcome : Option ProgramOutcome) (s : Scene) :
    s.interpreter.Takes (s.conclude outcome).interpreter := by
  rcases outcome with _ | ⟨rewards⟩ | ⟨target, storyboard⟩
  · exact .same
  · exact (finishActive_silent rewards s).interpreter
  · unfold conclude
    rw [branchActive_interpreter]
    exact .same

private theorem conclude_of_free (free : s.active = none) (outcome : Option ProgramOutcome) : s.conclude outcome = s := by
  rcases outcome with _ | ⟨rewards⟩ | ⟨target, storyboard⟩
  · rfl
  · exact finishActive_of_free free rewards
  · unfold conclude branchActive
    rw [free]

private theorem conclude_published (attached : s.channel.bus.attached = true)
    (found : ∀ runner node, s.active = some (runner, node) → ∃ x, s.runner? runner = some x)
    (outcome : Option ProgramOutcome) :
    ∃ events, (s.conclude outcome).channel.journal.published = s.channel.journal.published ++ events ∧
      (∀ event ∈ events, event.topic ≠ .triggerRequested) ∧ (outcome = none → events = []) ∧
      ∀ came runner node, outcome = some came → s.active = some (runner, node) → came.ShownBy runner node events := by
  rcases Option.eq_none_or_eq_some s.active with free | ⟨⟨runner, node⟩, active⟩
  · rw [conclude_of_free free]
    exact ⟨[], (List.append_nil _).symm, List.forall_mem_nil _, fun _ => rfl, fun _ _ _ _ active =>
      nomatch free.symm.trans active⟩
  · obtain ⟨x, owner⟩ := found runner node active
    rcases outcome with _ | ⟨rewards⟩ | ⟨target, storyboard⟩
    · exact ⟨[], (List.append_nil _).symm, List.forall_mem_nil _, fun _ => rfl, nofun⟩
    · obtain ⟨events, published, others, finishes⟩ := finishActive_published active owner attached rewards
      refine ⟨events, published, others, nofun, ?_⟩
      rintro _ _ _ ⟨⟩ again
      cases active.symm.trans again
      exact finishes
    · obtain ⟨board, published⟩ := branchActive_published active owner attached target storyboard
      refine ⟨[.jumpRequested runner node board target], published, by simp [StoryEvent.topic], nofun, ?_⟩
      rintro _ _ _ ⟨⟩ again
      cases active.symm.trans again
      exact ⟨board, rfl⟩

namespace Round

theorem result_eq (r : Round) (running : r.scene.interpreter.isRunning = true) :
    r.result = (r.scene.resume r.elapsed).2.conclude r.outcome := by
  unfold result outcome
  rw [pumpWithin, if_pos running]
  rcases r.scene.resume r.elapsed with ⟨_ | ⟨rewards⟩ | ⟨target, storyboard⟩, s⟩ <;> rfl

theorem announces (r : Round) (coherent : r.scene.Coherent) (standard : r.scene.interpreter.table = .standard)
    (running : r.scene.interpreter.isRunning = true) :
    r.result.interpreter.table = .standard ∧ ∃ consequences, r.Announces consequences := by
  have went : r.scene.resume r.elapsed = (r.outcome, (r.scene.resume r.elapsed).2) := rfl
  obtain ⟨standard', active, runners, grown⟩ := resume_announces coherent standard went
  have owners : ∀ runner node, (r.scene.resume r.elapsed).2.active = some (runner, node) →
      ∃ x, (r.scene.resume r.elapsed).2.runner? runner = some x := by
    intro runner node busy
    unfold runner?
    rw [runners]
    exact coherent.found (active.symm.trans busy)
  obtain ⟨events, published, others, waiting, ended⟩ :=
    conclude_published (grown.attached.trans coherent.attached) owners r.outcome
  refine ⟨?_, events, ?_, others, waiting, fun came runner node is busy => ended came runner node is (active.trans busy)⟩
  · rw [r.result_eq running]
    exact (conclude_takes _ _).table.trans standard'
  · rw [r.result_eq running, published, grown.journal.published, List.append_assoc]

end Round

/-! ### All rounds of a tick -/

/-- After a round the others follow if the program has finished. -/
private theorem pumpWithin_succ_eq (rounds : Nat) (running : s.interpreter.isRunning = true) :
    s.pumpWithin (rounds + 1) elapsed =
      match Round.outcome ⟨s, elapsed⟩ with
      | some (.finished _) => (Round.result ⟨s, elapsed⟩).pumpWithin rounds 0
      | _ => Round.result ⟨s, elapsed⟩ := by
  have result := Round.result_eq ⟨s, elapsed⟩ running
  rw [pumpWithin, if_pos running, result]
  unfold Round.outcome
  dsimp only
  rcases s.resume elapsed with ⟨_ | ⟨rewards⟩ | ⟨target, storyboard⟩, s'⟩ <;> rfl

/-- The rounds come one after the other, and each publishes its triggers and what follows from its end. -/
theorem pumpWithin_announces (rounds : Nat) (elapsed : Duration) (s : Scene) (coherent : s.Coherent)
    (standard : s.interpreter.table = .standard) :
    (s.pumpWithin rounds elapsed).interpreter.table = .standard ∧
      s.pumpWithin rounds elapsed = ((s.roundsWithin rounds elapsed).map Round.result).getLast?.getD s ∧
      ∃ told : List (Round × List StoryEvent), told.map Prod.fst = s.roundsWithin rounds elapsed ∧
        (∀ entry ∈ told, entry.1.Announces entry.2) ∧
        (s.pumpWithin rounds elapsed).channel.journal.published =
          s.channel.journal.published ++ told.flatMap fun entry => entry.1.summons ++ entry.2 := by
  induction rounds generalizing s elapsed with
  | zero => exact ⟨standard, rfl, [], rfl, List.forall_mem_nil _, (List.append_nil _).symm⟩
  | succ rounds ih =>
      by_cases running : s.interpreter.isRunning = true
      · obtain ⟨standard', consequences, announces⟩ := Round.announces ⟨s, elapsed⟩ coherent standard running
        have steps : Steps (.tick elapsed) False False ⟨s, [], false⟩ ⟨Round.result ⟨s, elapsed⟩, [], false⟩ :=
          pumpWithin_steps 1 elapsed coherent
        rw [pumpWithin_succ_eq rounds running, roundsWithin, if_pos running]
        dsimp only
        by_cases finished : ∃ rewards, Round.outcome ⟨s, elapsed⟩ = some (.finished rewards)
        · obtain ⟨rewards, finished⟩ := finished
          obtain ⟨standardRest, last, told, places, each, published⟩ :=
            ih 0 (Round.result ⟨s, elapsed⟩) (Turns.coherent steps coherent) standard'
          rw [finished]
          refine ⟨standardRest, ?_, (⟨s, elapsed⟩, consequences) :: told, ?_, ?_, ?_⟩
          · rw [List.map_cons, List.getLast?_cons]
            exact last
          · exact congrArg (_ :: ·) places
          · exact List.forall_mem_cons.mpr ⟨announces, each⟩
          · rw [List.flatMap_cons, published, announces.published, List.append_assoc]
        · have stops : ∀ {α : Type} (going : List Reward → α) (stopping : α),
              (match Round.outcome ⟨s, elapsed⟩ with
                | some (.finished rewards) => going rewards
                | _ => stopping) = stopping := by
            intro α going stopping
            split
            · rename_i rewards is
              exact absurd ⟨rewards, is⟩ finished
            · rfl
          rw [stops, stops]
          refine ⟨standard', rfl, [(⟨s, elapsed⟩, consequences)], rfl, ?_, ?_⟩
          · exact List.forall_mem_singleton.mpr announces
          · rw [announces.published, List.flatMap_singleton]
      · rw [pumpWithin, roundsWithin, if_neg running, if_neg running]
        exact ⟨standard, rfl, [], rfl, List.forall_mem_nil _, (List.append_nil _).symm⟩

/-- What a tick publishes: first events that are no triggers, then round for round the triggers that are carried out and
what follows from the end of the program. -/
theorem tick_announces (elapsed : Duration) (coherent : s.Coherent) (standard : s.interpreter.table = .standard) :
    (s.tick elapsed).interpreter.table = .standard ∧
      s.tick elapsed = ((s.rounds elapsed).map Round.result).getLast?.getD s.kickstart.drain ∧
      ∃ (others : List StoryEvent) (told : List (Round × List StoryEvent)),
        (∀ event ∈ others, event.topic ≠ .triggerRequested) ∧ told.map Prod.fst = s.rounds elapsed ∧
        (∀ entry ∈ told, entry.1.Announces entry.2) ∧
        (s.tick elapsed).channel.journal.published =
          s.channel.journal.published ++ others ++ told.flatMap fun entry => entry.1.summons ++ entry.2 := by
  have steps : Steps (.tick elapsed) True True ⟨s, [], false⟩ ⟨s.kickstart.drain, [], false⟩ :=
    drained_steps coherent fun _ => trivial
  have before := tick_unscripted s
  obtain ⟨others, published, plain⟩ := before.journal.published
  obtain ⟨standard', last, told, places, each, publishedThen⟩ :=
    s.kickstart.drain.pumpWithin_announces _ elapsed (Turns.coherent steps coherent)
      (before.interpreter.table.trans standard)
  exact ⟨standard', last, others, told, plain, places, each, publishedThen.trans (by rw [published])⟩

/-- No operation changes the command table. -/
theorem perform_standard (op : Operation) (s : Scene) (coherent : s.Coherent)
    (standard : s.interpreter.table = .standard) : (op.perform s).interpreter.table = .standard := by
  rcases op.beside_or with beside | ⟨elapsed, rfl⟩ | rfl | ⟨index, rfl⟩ | rfl
  · exact (Operation.perform_takes beside s).table.trans standard
  · exact (tick_announces elapsed coherent standard).1
  · rcases Operation.continueInput_interpreter s with same | same <;> rw [same] <;> exact standard
  · rcases Operation.selectChoice_interpreter index s with same | ⟨-, cursor, same⟩ <;> rw [same] <;> exact standard
  · exact standard

end Scene

end Plotline
