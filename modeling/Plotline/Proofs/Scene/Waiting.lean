import Plotline.Proofs.Scene.Perform

/-!
No request waits in vain. Whenever the gate is free although requests wait, a jump is on its way, and its delivery
will release them. Only a branch leaves such a window open: every other end of a program releases at once.
-/

namespace Plotline.Scene

/-- Requests are made through the gate: nothing is started past it, and nothing is put to wait without need. -/
def Operation.ThroughGate (op : Operation) (s : Scene) : Prop :=
  op.StartsFree s ∧ ∀ runner node, op ≠ .enqueue runner node

/-- Requests that wait before a free gate are about to be released. In the midst of a tick the jump that will do it
may have left the queue already. -/
def Moment.Heeded (m : Moment) : Prop :=
  m.scene.active = none → m.scene.pending ≠ [] →
    m.releasing = true ∨ ∃ event ∈ m.due ++ m.scene.channel.bus.queue, event.topic = .jumpRequested

private theorem Moment.Heeded.mono {m m' : Moment} (heeded : m.Heeded)
    (active : m'.scene.active = none → m.scene.active = none)
    (pending : m.scene.pending = [] → m'.scene.pending = []) (releasing : m'.releasing = m.releasing)
    (waiting : ∀ event ∈ m.due ++ m.scene.channel.bus.queue, event ∈ m'.due ++ m'.scene.channel.bus.queue) :
    m'.Heeded := by
  intro free some
  rcases heeded (active free) (mt pending some) with already | ⟨event, member, jump⟩
  · exact Or.inl (releasing.trans already)
  · exact Or.inr ⟨event, waiting event member, jump⟩

private theorem heeded_of_attended {m : Moment} (attended : m.scene.Attended) : m.Heeded := by
  intro free some
  rcases attended with running | none
  · rw [isEventRunning, free] at running
    cases running
  · exact absurd none some

theorem Step.heeded {op : Operation} {returning : Prop} {t t' : Turn} (step : Step op returning False t t')
    (through : ∀ runner node, op ≠ .enqueue runner node) (heeded : t.Heeded) : t'.Heeded := by
  cases step with
  | quiet grown => exact heeded.mono id id rfl (waiting_of_grows grown)
  | kickstarted => exact heeded.mono id id rfl fun _ => id
  | directed program emitted grown => exact heeded.mono id id rfl (waiting_of_grows grown)
  | called target known => exact heeded
  | queued held => exact heeded_of_attended (Or.inl held)
  | reordered same =>
      refine heeded.mono id ?_ rfl fun _ => id
      intro none
      exact (none ▸ same).nil_eq.symm
  | releases => exact fun _ _ => Or.inl rfl
  | taken releasing free first => exact fun _ _ => Or.inl releasing
  | released done => exact heeded_of_attended done
  | unknown free missing => exact heeded.mono id id rfl fun _ => id
  | refused free found unready => exact heeded.mono id id rfl fun _ => id
  | started free found waiting known program emitted grown opens => exact nofun
  | passed free found waiting grown opens => exact fun _ _ => Or.inl rfl
  | jammed free busy found waiting grown => exact heeded.mono id id rfl (waiting_of_grows grown)
  | resumed program emitted topics grown => exact heeded.mono id id rfl (waiting_of_grows grown)
  | finished active found program emitted topics grown => exact fun _ _ => Or.inl rfl
  | @branched m runner node target board i ch triggers active program emitted topics grown =>
      intro _ _
      refine Or.inr ⟨.jumpRequested runner node board target, ?_, rfl⟩
      rw [grown.queue]
      simp
  | orphaned free busy program emitted topics grown => exact heeded.mono id id rfl (waiting_of_grows grown)
  | batch =>
      refine heeded.mono id id rfl ?_
      intro event member
      exact List.mem_append_left _ member
  | delivered first found made => exact heeded.mono id id rfl fun _ => id
  | cleared found inactive grown => exact heeded.mono id id rfl (waiting_of_grows grown)
  | originEnded jump back found grown => exact heeded.mono id id rfl (waiting_of_grows grown)
  | settled first other heard =>
      intro free some
      rcases heeded free some with already | ⟨event, member, jumps⟩
      · exact Or.inl already
      · dsimp only at member
        rw [first] at member
        rcases List.mem_cons.mp member with rfl | later
        · exact absurd jumps other
        · exact Or.inr ⟨event, later, jumps⟩
  | jumpSettled jump ended => exact fun _ _ => Or.inl rfl
  | published asked grown => exact heeded.mono id id rfl (waiting_of_grows grown)
  | requested asked => exact absurd asked (through _ _)
  | observes asked => exact heeded.mono id id rfl fun _ => id
  | stopsObserving asked => exact heeded.mono id id rfl (waiting_of_rewired (Channel.unsubscribe_rewired _ _))
  | joined asked fresh made =>
      exact heeded.mono id id rfl (waiting_of_rewired ((Runner.setUp_made made).2.2.2.note rfl))
  | parted asked found idle =>
      refine heeded.mono id ?_ rfl (waiting_of_rewired ((Runner.takeDown_rewired _ _).note rfl))
      intro none
      exact (congrArg _ none).trans rfl
  | restored asked member found made => exact heeded.mono id id rfl fun _ => id
  | forgotten asked =>
      refine heeded.mono id ?_ rfl fun _ => id
      intro none
      exact (congrArg _ none).trans rfl

theorem perform_heeded (op : Operation) (s : Scene) (through : op.ThroughGate s)
    (kept : s.Sound ∧ Moment.Heeded ⟨s, [], false⟩) :
    (op.perform s).Sound ∧ Moment.Heeded ⟨op.perform s, [], false⟩ := by
  have steps : Steps op True False ⟨s, [], false⟩ ⟨op.perform s, [], false⟩ :=
    perform_through op kept.1.toCoherent through.1 fun _ => trivial
  have keeps : ∀ t t', Step op True False t t' → t.scene.Coherent → t.Heeded → t'.Heeded :=
    fun _ _ step _ => step.heeded through.2
  exact ⟨Turns.sound steps kept.1, (Turns.keeps keeps steps kept.1.toCoherent kept.2).2⟩

/-- Whenever no node is active although requests wait, a jump is in the queue. -/
theorem jump_queued_of_waiting {s : Scene} (reached : Reached Operation.ThroughGate s) (free : s.isEventRunning = false)
    (waiting : s.pending ≠ []) : ∃ event ∈ s.channel.bus.queue, event.topic = .jumpRequested := by
  have kept : s.Sound ∧ Moment.Heeded ⟨s, [], false⟩ :=
    reached.keeps (fun settings stage => ⟨empty_sound settings stage, fun _ none => absurd rfl none⟩) perform_heeded
  have inactive : s.active = none := by simpa [isEventRunning] using free
  rcases kept.2 inactive waiting with releasing | queued
  · cases releasing
  · exact queued

/-- While the guard is between two rounds, a request made in the meantime waits for the jump. -/
theorem sentry_jump_queued_of_waiting : ∃ s, Reached Operation.ThroughGate s ∧ s.isEventRunning = false ∧
    s.pending ≠ [] ∧ ∃ event ∈ s.channel.bus.queue, event.topic = .jumpRequested := by
  let ops : List Operation :=
    [.register sentry, .tick 0, .trigger ⟨"guard"⟩ ⟨"round"⟩, .continueInput, .tick 0]
  have reached : Reached Operation.ThroughGate (run ops (empty {} .instant)) :=
    ⟨{}, .instant, ops, ⟨⟨trivial, nofun⟩, ⟨trivial, nofun⟩, ⟨trivial, nofun⟩, ⟨trivial, nofun⟩, ⟨trivial, nofun⟩,
      trivial⟩, rfl⟩
  have free : (run ops (empty {} .instant)).isEventRunning = false := rfl
  have waiting : (run ops (empty {} .instant)).pending ≠ [] := by decide
  exact ⟨_, reached, free, waiting, jump_queued_of_waiting reached free waiting⟩

end Plotline.Scene
