import Plotline.Proofs.Scene.Frame
import Plotline.Proofs.Scene.Tick
import Plotline.Proofs.Scene.Unscripted

/-!
What observers hear in the course of a tick. Each event of the batch comes to the observers of its topic once, in the
order of their subscriptions, before the next event has its turn; and no program that goes on tells them anything.
-/

namespace Plotline.Scene

variable {s t : Scene} {elapsed : Duration}

/-! ### Delivery -/

private theorem observes_of_same (same : t.channel.bus.subscriptions = s.channel.bus.subscriptions) :
    t.channel.bus.observes = s.channel.bus.observes := by
  funext id
  unfold Bus.observes Bus.find?
  rw [same]

/-- Whoever is told changes no subscription, so that the others are told as well. -/
private theorem foldl_informs (event : StoryEvent) (ids : List SubscriptionId) (claimed : Bool) (coherent : s.Coherent) :
    s.Informs ((ids.filter s.channel.bus.observes).map (·, event)) (ids.foldl (deliverTo event) (claimed, s)).2 := by
  induction ids generalizing claimed s with
  | nil => exact .refl s
  | cons id ids ih =>
      have told := deliverTo_informs event claimed s id
      -- a delivery takes the same steps in a tick of any length
      have steps : Steps (.tick 0) True True ⟨s, [event], false⟩
          ⟨(deliverTo event (claimed, s) id).2, [event], false⟩ := deliverTo_steps (claimed, s) id coherent
      have rest := ih (deliverTo event (claimed, s) id).1 (Turns.coherent steps coherent)
      rw [observes_of_same (Turns.subscriptions steps trivial)] at rest
      have all := told.trans rest
      by_cases observer : s.channel.bus.observes id = true
      · rw [if_pos observer] at all
        rw [List.filter_cons_of_pos observer]
        exact all
      · rw [if_neg observer] at all
        rw [List.filter_cons_of_neg observer]
        exact all

/-- What the observers of a bus hear of the events. -/
def tidings (bus : Bus) (events : List StoryEvent) : List (SubscriptionId × StoryEvent) :=
  events.flatMap fun event => (bus.observersOf event.topic).map (·, event)

private theorem deliverEvent_informs (coherent : s.Coherent)
    (distinct : (s.channel.bus.subscriptions.map (·.id)).Nodup) (event : StoryEvent) :
    s.Informs ((s.channel.bus.observersOf event.topic).map (·, event)) (s.deliverEvent event) := by
  have told := foldl_informs event (s.channel.bus.subscribersOf event.topic) false coherent
  rw [Bus.filter_subscribersOf distinct] at told
  exact told.thenSilent (settle_silent event _ _)

theorem deliveries_inform (events : List StoryEvent) (coherent : s.Coherent)
    (distinct : (s.channel.bus.subscriptions.map (·.id)).Nodup) :
    s.Informs (tidings s.channel.bus events) (events.foldl deliverEvent s) := by
  induction events generalizing s with
  | nil => exact .refl s
  | cons event events ih =>
      have steps : Steps (.tick 0) True True ⟨s, event :: events, false⟩ ⟨s.deliverEvent event, events, false⟩ :=
        deliverEvent_steps coherent event events fun _ => trivial
      have same := Turns.subscriptions steps trivial
      have rest := ih (Turns.coherent steps coherent) (same ▸ distinct)
      have told := (deliverEvent_informs coherent distinct event).trans rest
      unfold tidings Bus.observersOf at told ⊢
      rw [same] at told
      exact told

/-! ### Programs -/

private theorem resume_observations (elapsed : Duration) (s : Scene) :
    (s.resume elapsed).2.channel.journal.observations = s.channel.journal.observations := by
  have still := (s.interpreter.resume_yields s.stage elapsed s.channel.journal).advances.journal
  unfold resume
  revert still
  rcases s.interpreter.resume s.stage elapsed s.channel.journal with ⟨outcome, interpreter, journal⟩
  intro still
  obtain ⟨ns, noted⟩ := Channel.publishAll_notes interpreter.takeEmitted.1 { s.channel with journal }
  have heard := Journal.notes_observations ns journal
  rw [← noted] at heard
  exact heard.trans still.observations

private theorem branchActive_observations (target : NodeId) (storyboard : Option StoryboardName) (s : Scene) :
    (s.branchActive target storyboard).channel.journal.observations = s.channel.journal.observations := by
  unfold branchActive
  split
  · rfl
  · dsimp only
    split
    · exact Journal.notes_observations [_] _
    · rename_i runner node _ _ board _
      have noted := Journal.notes_observations [.branched runner node board target] s.channel.journal
      obtain ⟨n, published⟩ := Channel.publish_notes (.jumpRequested runner node board target)
        (s.channel.note (.branched runner node board target))
      have heard := Journal.notes_observations [n] (s.channel.note (.branched runner node board target)).journal
      exact (congrArg Journal.observations published).trans (heard.trans noted)

private theorem pumpWithin_observations (rounds : Nat) (elapsed : Duration) (s : Scene) :
    (s.pumpWithin rounds elapsed).channel.journal.observations = s.channel.journal.observations := by
  induction rounds generalizing s elapsed with
  | zero => rfl
  | succ rounds ih =>
      have resumed := resume_observations elapsed s
      unfold pumpWithin
      split
      · revert resumed
        rcases s.resume elapsed with ⟨_ | ⟨rewards⟩ | ⟨target, storyboard⟩, t⟩
        · exact id
        · intro resumed
          have finished := (finishActive_silent rewards t).journal.observations
          rw [List.append_nil] at finished
          exact (ih 0 (t.finishActive rewards)).trans (finished.trans resumed)
        · exact (branchActive_observations target storyboard t).trans
      · rfl

/-! ### The tick -/

/-- In a tick the observers hear of the events that it finds in the queue, and of no others. -/
theorem tick_tells (coherent : s.Coherent) (distinct : (s.channel.bus.subscriptions.map (·.id)).Nodup)
    (elapsed : Duration) :
    (s.tick elapsed).channel.journal.observations =
      s.channel.journal.observations ++ tidings s.channel.bus s.kickstart.channel.bus.queue := by
  have begun : Steps (.tick elapsed) True True ⟨s, [], false⟩
      ⟨{ s.kickstart with channel := s.kickstart.channel.takeBatch.2 }, s.kickstart.channel.takeBatch.1, false⟩ :=
    batch_steps coherent
  have same : s.kickstart.channel.bus.subscriptions = s.channel.bus.subscriptions := Turns.subscriptions begun trivial
  have distinctThen : (s.kickstart.channel.bus.subscriptions.map (·.id)).Nodup := same ▸ distinct
  have told := deliveries_inform s.kickstart.channel.bus.queue (Turns.coherent begun coherent) distinctThen
  calc (s.tick elapsed).channel.journal.observations
    _ = s.kickstart.drain.channel.journal.observations := pumpWithin_observations _ elapsed s.kickstart.drain
    _ = s.kickstart.channel.journal.observations ++ tidings s.kickstart.channel.bus s.kickstart.channel.bus.queue :=
        told.journal.observations
    _ = s.channel.journal.observations ++ tidings s.channel.bus s.kickstart.channel.bus.queue := by
        rw [(kickstart_silent s).journal.observations, List.append_nil]
        unfold tidings Bus.observersOf
        rw [same]

end Plotline.Scene
