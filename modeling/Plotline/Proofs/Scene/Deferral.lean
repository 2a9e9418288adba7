import Plotline.Proofs.Scene.Tick

/-!
What is made known in the course of a tick is delivered with a later one. Only a tick takes a batch from the bus, and
only once; all other work puts what it publishes behind what waits in the queue.
-/

namespace Plotline

/-- The events that were made known in between wait in the queue, behind those that waited already. -/
def Channel.Retains (ch ch' : Channel) : Prop :=
  ∃ events, ch'.bus.queue = ch.bus.queue ++ events ∧ ch'.journal.published = ch.journal.published ++ events

namespace Channel

variable {ch ch' ch'' : Channel}

theorem Retains.refl (ch : Channel) : ch.Retains ch := ⟨[], (List.append_nil _).symm, (List.append_nil _).symm⟩

theorem Retains.trans (first : ch.Retains ch') (last : ch'.Retains ch'') : ch.Retains ch'' := by
  obtain ⟨early, queue, published⟩ := first
  obtain ⟨late, queueThen, publishedThen⟩ := last
  refine ⟨early ++ late, ?_, ?_⟩
  · rw [queueThen, queue, List.append_assoc]
  · rw [publishedThen, published, List.append_assoc]

theorem Grows.retains {events : List StoryEvent} {granted : List (List Reward)} (grown : ch.Grows events granted ch') :
    ch.Retains ch' :=
  ⟨events, grown.queue, grown.journal.published⟩

theorem Rewired.retains (rewired : ch.Rewired ch') : ch.Retains ch' :=
  ⟨[], rewired.queue.trans (List.append_nil _).symm, rewired.journal.published⟩

theorem note_retains {n : Note} (plain : n.isPlain = true) (ch : Channel) : ch.Retains (ch.note n) :=
  (note_quiet plain ch).retains

end Channel

namespace Scene

variable {op : Operation} {returning past : Prop} {s : Scene} {t t' : Turn}

/-- But for the batch of a tick, no step takes anything from the queue. -/
theorem Step.retains (step : Step op returning past t t') (untimed : ∀ elapsed, op ≠ .tick elapsed) :
    t.scene.channel.Retains t'.scene.channel := by
  cases step with
  | quiet grown => exact grown.retains
  | directed program emitted grown => exact grown.retains
  | queued held => exact Channel.note_retains rfl _
  | taken releasing free first =>
      refine ⟨[], (List.append_nil _).symm, ?_⟩
      exact (Journal.releasing_tells _ _ _ _).published
  | unknown free missing => exact Channel.note_retains rfl _
  | refused free found unready => exact Channel.note_retains (Runner.refusal_isPlain _ _) _
  | started free found waiting known program emitted grown opens => exact grown.retains
  | passed free found waiting grown opens => exact grown.retains
  | jammed free busy found waiting grown => exact grown.retains
  | resumed program emitted topics grown => exact grown.retains
  | finished active found program emitted topics grown => exact grown.retains
  | branched active program emitted topics grown => exact grown.retains
  | orphaned free busy program emitted topics grown => exact grown.retains
  | batch asked =>
      obtain ⟨elapsed, asked⟩ := asked
      exact absurd asked (untimed elapsed)
  | delivered first found made => exact (Channel.journal_quiet _ (Runner.deliver_made made).2.2).retains
  | cleared found inactive grown => exact grown.retains
  | originEnded jump back found grown => exact grown.retains
  | published asked grown => exact grown.retains
  | requested asked => exact Channel.note_retains rfl _
  | observes asked => exact (Channel.subscribe_rewired _ _ _).retains
  | stopsObserving asked => exact (Channel.unsubscribe_rewired _ _).retains
  | joined asked fresh made => exact ((Runner.setUp_made made).2.2.2.note rfl).retains
  | parted asked found idle => exact ((Runner.takeDown_rewired _ _).note rfl).retains
  | restored asked member found made => exact (Channel.journal_quiet _ (Runner.restore_made made).2).retains
  | _ => exact .refl _

theorem Turns.retains (turns : Turns op returning past t t') (untimed : ∀ elapsed, op ≠ .tick elapsed) :
    t.scene.channel.Retains t'.scene.channel := by
  induction turns with
  | refl => exact .refl _
  | tail _ last ih => exact ih.trans (last.retains untimed)

/-- Whatever a tick makes known once its batch has been taken is in the queue when the tick is over, and nothing else is
there. -/
theorem tick_defers (coherent : s.Coherent) (elapsed : Duration) :
    (s.tick elapsed).channel.journal.published =
      s.kickstart.channel.journal.published ++ (s.tick elapsed).channel.bus.queue := by
  have begun : Steps (.tick elapsed) True True ⟨s, [], false⟩
      ⟨{ s.kickstart with channel := s.kickstart.channel.takeBatch.2 }, s.kickstart.channel.takeBatch.1, false⟩ :=
    batch_steps coherent
  have ready := Turns.coherent begun coherent
  -- deliveries and programs take the same steps in any operation, so that they can be seen as steps of one that takes no
  -- batch
  obtain ⟨-, drained⟩ : _ ∧ Steps .release True True
      ⟨{ s.kickstart with channel := s.kickstart.channel.takeBatch.2 }, s.kickstart.channel.takeBatch.1, false⟩
      ⟨s.kickstart.drain, [], false⟩ :=
    deliveries_steps s.kickstart.channel.takeBatch.1 ready fun _ _ _ => trivial
  have pumped : Steps .release True True ⟨s.kickstart.drain, [], false⟩ ⟨s.tick elapsed, [], false⟩ :=
    pumpWithin_steps _ elapsed (Turns.coherent drained ready)
  obtain ⟨events, queue, published⟩ := Turns.retains (drained.trans pumped) nofun
  have waits : (s.tick elapsed).channel.bus.queue = events := queue
  rw [waits]
  exact published

end Scene

end Plotline
