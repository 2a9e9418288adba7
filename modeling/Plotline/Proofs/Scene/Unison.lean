import Plotline.Proofs.Scene.Echo
import Plotline.Proofs.Scene.Operation
import Plotline.Proofs.Scene.Rounds

/-!
Scenes that differ in the log and in requests that are made in vain go on in the same way, tick after tick.
-/

namespace Plotline.Scene

variable {s s' : Scene}

namespace Echoes

/-! ### Delivery -/

private theorem deliverCondition (echoes : s.Echoes s') (key : ConditionKey) (event : StoryEvent) :
    (s.deliverCondition key event).Echoes (s'.deliverCondition key event) := by
  unfold Scene.deliverCondition
  rw [echoes.runner?]
  cases found : s.runner? key.runner with
  | none => exact echoes
  | some x =>
      obtain ⟨ready, y, j, j', made, made', told⟩ := x.deliver_echoes key event echoes.channel.journal
      obtain ⟨alike, statuses, -⟩ := Runner.deliver_made made
      have looked : s.runner? x.id = some x := (id_of_runner? found).symm ▸ found
      have put := echoes.putRunner looked (Runner.ages_of_statuses alike statuses) (echoes.channel.withJournal told)
      dsimp only
      rw [made, made']
      cases ready with
      | none => exact put
      | some node => exact put.tryStart _ _

private theorem startKnownNode (echoes : s.Echoes s') (runner : RunnerId) (node : NodeId) :
    (s.startKnownNode runner node).Echoes (s'.startKnownNode runner node) := by
  unfold Scene.startKnownNode
  rw [echoes.runner?]
  split
  · exact echoes.tryStart runner node
  · exact echoes.note _

private theorem deliverRunner (echoes : s.Echoes s') (id : RunnerId) (event : StoryEvent) :
    ∃ mine t t', s.deliverRunner id event = (mine, t) ∧ s'.deliverRunner id event = (mine, t') ∧ t.Echoes t' := by
  unfold Scene.deliverRunner
  cases event with
  | triggerRequested target node =>
      dsimp only
      split
      · exact ⟨_, _, _, rfl, rfl, echoes.startKnownNode id node⟩
      · exact ⟨_, _, _, rfl, rfl, echoes⟩
  | jumpRequested origin node board target =>
      dsimp only
      rw [echoes.runner?, echoes.active]
      cases found : s.runner? id with
      | none => exact ⟨_, _, _, rfl, rfl, echoes⟩
      | some x =>
          obtain rfl := id_of_runner? found
          dsimp only
          generalize (s.active.filter (·.1 = x.id)).map (·.2) = keep
          obtain ⟨mine, y, ch, ch', received, received', told⟩ := x.receiveJump_echoes board keep echoes.channel
          have ages := x.receiveJump_ages board keep s.channel
          rw [received] at ages
          have put := echoes.putRunner found ages told
          rw [received, received']
          cases mine with
          | false => exact ⟨_, _, _, rfl, rfl, put⟩
          | true => exact ⟨_, _, _, rfl, rfl, (put.note _).startKnownNode _ _⟩
  | _ => exact ⟨_, _, _, rfl, rfl, echoes⟩

private theorem deliverTo (claimed : Bool) (echoes : s.Echoes s') (event : StoryEvent) (id : SubscriptionId) :
    ∃ claims t t', Scene.deliverTo event (claimed, s) id = (claims, t) ∧
      Scene.deliverTo event (claimed, s') id = (claims, t') ∧ t.Echoes t' := by
  obtain ⟨route, ch, ch', routed, routed', told⟩ := echoes.channel.route id event
  have taken := echoes.withChannel told
  unfold Scene.deliverTo
  dsimp only
  rw [routed, routed']
  cases route with
  | none => exact ⟨_, _, _, rfl, rfl, taken⟩
  | some route =>
      cases route with
      | condition key => exact ⟨_, _, _, rfl, rfl, taken.deliverCondition key event⟩
      | runner runner =>
          obtain ⟨mine, t, t', delivered, delivered', next⟩ := taken.deliverRunner runner event
          dsimp only
          rw [delivered, delivered']
          exact ⟨_, _, _, rfl, rfl, next⟩

private theorem served (echoes : s.Echoes s') (event : StoryEvent) (ids : List SubscriptionId) (claimed : Bool) :
    ∃ claims t t', ids.foldl (Scene.deliverTo event) (claimed, s) = (claims, t) ∧
      ids.foldl (Scene.deliverTo event) (claimed, s') = (claims, t') ∧ t.Echoes t' := by
  induction ids generalizing s s' claimed with
  | nil => exact ⟨_, _, _, rfl, rfl, echoes⟩
  | cons id ids ih =>
      obtain ⟨claims, t, t', delivered, delivered', next⟩ := echoes.deliverTo claimed event id
      rw [List.foldl_cons, List.foldl_cons, delivered, delivered']
      exact ih next claims

private theorem noteUnless (claimed : Bool) (echoes : s.Echoes s') (n : Note) :
    (if claimed then s else s.note n).Echoes (if claimed then s' else s'.note n) := by
  cases claimed with
  | true => exact echoes
  | false => exact echoes.note n

private theorem settle (echoes : s.Echoes s') (event : StoryEvent) (claimed : Bool) :
    (s.settle event claimed).Echoes (s'.settle event claimed) := by
  unfold Scene.settle
  cases event with
  | triggerRequested runner node => exact echoes.noteUnless claimed _
  | jumpRequested runner node board target =>
      dsimp only
      have noted := echoes.noteUnless claimed (.dataError (.unknownStoryboard board))
      revert noted
      generalize (if claimed then s else s.note (.dataError (.unknownStoryboard board))) = t
      generalize (if claimed then s' else s'.note (.dataError (.unknownStoryboard board))) = t'
      intro noted
      rw [noted.statusOf?]
      split
      · exact (noted.completeNode runner node).release
      · exact noted.release
  | _ => exact echoes

private theorem deliverEvent (event : StoryEvent) (echoes : s.Echoes s') :
    (s.deliverEvent event).Echoes (s'.deliverEvent event) := by
  unfold Scene.deliverEvent
  rw [echoes.channel.bus]
  obtain ⟨claims, t, t', delivered, delivered', next⟩ :=
    echoes.served event (s.channel.bus.subscribersOf event.topic) false
  rw [delivered, delivered']
  exact next.settle event claims

private theorem drain (echoes : s.Echoes s') : s.drain.Echoes s'.drain := by
  have taken : Channel.Echoes s.channel.takeBatch.2 s'.channel.takeBatch.2 := by
    refine ⟨?_, echoes.channel.journal⟩
    unfold Channel.takeBatch
    rw [echoes.channel.bus]
  have batch : s'.channel.takeBatch.1 = s.channel.takeBatch.1 := by
    unfold Channel.takeBatch
    rw [echoes.channel.bus]
  unfold Scene.drain
  dsimp only
  rw [batch]
  exact (echoes.withChannel taken).foldl deliverEvent _

/-! ### Programs -/

private theorem branchActive (echoes : s.Echoes s') (target : NodeId) (board : Option StoryboardName) :
    (s.branchActive target board).Echoes (s'.branchActive target board) := by
  unfold Scene.branchActive
  rw [echoes.active]
  split
  · exact echoes
  · have ended := echoes.withActive none
    dsimp only
    rw [ended.runner?]
    split
    · exact ended.note _
    · exact (ended.note _).publish _

private theorem resume (echoes : s.Echoes s') (elapsed : Duration) :
    ∃ outcome t t', s.resume elapsed = (outcome, t) ∧ s'.resume elapsed = (outcome, t') ∧ t.Echoes t' := by
  obtain ⟨outcome, i, j, j', resumed, resumed', told⟩ :=
    Interpreter.resume_echoes echoes.heedless elapsed s.interpreter echoes.channel.journal
  unfold Scene.resume
  rw [echoes.interpreter, echoes.stage, resumed, resumed']
  have emitted := (echoes.channel.withJournal told).publishAll i.emitted.reverse
  exact ⟨_, _, _, rfl, rfl, { echoes with stage := rfl, interpreter := rfl, channel := emitted }⟩

private theorem pumpWithin (rounds : Nat) (echoes : s.Echoes s') (elapsed : Duration) :
    (s.pumpWithin rounds elapsed).Echoes (s'.pumpWithin rounds elapsed) := by
  induction rounds generalizing s s' elapsed with
  | zero => exact echoes
  | succ rounds ih =>
      unfold Scene.pumpWithin
      rw [echoes.interpreter]
      split
      · obtain ⟨outcome, t, t', resumed, resumed', next⟩ := echoes.resume elapsed
        rw [resumed, resumed']
        cases outcome with
        | none => exact next
        | some outcome =>
            cases outcome with
            | finished rewards => exact ih (next.finishActive rewards) 0
            | branched target board => exact next.branchActive target board
      · exact echoes

private theorem pump (echoes : s.Echoes s') (elapsed : Duration) : (s.pump elapsed).Echoes (s'.pump elapsed) := by
  -- the scenes need not hold the same number of requests, but the same number of rounds is enough for both
  have enough : s.pending.length < s.pending.length + s'.pending.length + 1 := by omega
  have enough' : s'.pending.length < s.pending.length + s'.pending.length + 1 := by omega
  rw [← pumpWithin_eq enough, ← pumpWithin_eq enough']
  exact echoes.pumpWithin _ elapsed

theorem tick (echoes : s.Echoes s') (elapsed : Duration) : (s.tick elapsed).Echoes (s'.tick elapsed) :=
  echoes.kickstart.drain.pump elapsed

end Echoes

/-! ### Operations -/

/-- The operation loads no saved game. -/
def Operation.Proceeds : Operation → Prop
  | restore _ => False
  | _ => True

theorem Echoes.perform (echoes : s.Echoes s') (op : Operation) (proceeds : op.Proceeds) :
    (op.perform s).Echoes (op.perform s') := by
  cases op with
  | register r => exact echoes.register r
  | unregister id => exact echoes.unregister id
  | tick elapsed => exact echoes.tick elapsed
  | continueInput => exact echoes.continueInput
  | selectChoice index => exact echoes.selectChoice index
  | requestSkip => exact echoes.requestSkip
  | publish event => exact echoes.publish event
  | trigger runner node => exact echoes.trigger runner node
  | enqueue runner node => exact echoes.enqueue runner node
  | tryStart runner node => exact echoes.tryStart runner node
  | start runner node => exact echoes.startNode runner node
  | release => exact echoes.release
  | kickstart => exact echoes.kickstart
  | observe topic => exact echoes.observe topic
  | stopObserving id => exact echoes.stopObserving id
  | restore entries => exact False.elim proceeds

/-- Whatever is done to both scenes, they differ in remarks and in requests that are made in vain only. -/
theorem Echoes.run (echoes : s.Echoes s') (ops : List Operation) (proceed : ∀ op ∈ ops, op.Proceeds) :
    (Scene.run ops s).Echoes (Scene.run ops s') := by
  induction ops generalizing s s' with
  | nil => exact echoes
  | cons op ops ih =>
      have first := echoes.perform op (proceed op List.mem_cons_self)
      exact ih first fun other member => proceed other (List.mem_cons_of_mem op member)

end Plotline.Scene
