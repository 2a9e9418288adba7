import Plotline.Proofs.Scene.Sound

/-!
What a step leaves as it was. A runner that is not taken out stays, with the nodes it had; unless a saved game is
restored, no condition of a node that runs only once is forgotten; and what the world does changes no subscription.
-/

namespace Plotline.Scene

/-- What becomes of the runners in one step. -/
inductive Reshaped (op : Operation) (s s' : Scene) : Prop
  | same (runners : s'.runners = s.runners)
  | put {x y : Runner} (found : s.runner? x.id = some x) (alike : x.Alike y)
      (latches : (∀ entries, op ≠ .restore entries) → x.Latches y)
      (runners : s'.runners = (s.putRunner y s.channel).runners)
  | joined {x y : Runner} (asked : op = .register x) (fresh : s.runner? y.id = none) (new : y.Fresh)
      (runners : s'.runners = insertRunner y s.runners)
  | parted {id : RunnerId} (asked : op = .unregister id) (runners : s'.runners = s.runners.filter (·.id ≠ id))

variable {op : Operation} {returning past : Prop}

private theorem put_of_latches {s s' : Scene} {id : RunnerId} {x y : Runner} (found : s.runner? id = some x)
    (latches : x.Latches y) (runners : s'.runners = (s.putRunner y s.channel).runners) : Reshaped op s s' :=
  .put (found_self found) latches.toAlike (fun _ => latches) runners

theorem passed_latches {x : Runner} {node : NodeId} (waiting : x.statusOf? node = some .notStarted) :
    x.Latches ((x.setStatus node .inProgress).afterEnd node) :=
  (Runner.latches_setStatus (Runner.contains_of_status waiting) .inProgress).trans (Runner.afterEnd_latches node _)

theorem node?_passed {x : Runner} {node other : NodeId} (waiting : x.statusOf? node = some .notStarted)
    (once : x.repeats other = false) :
    ((x.setStatus node .inProgress).afterEnd node).node? other = x.node? other := by
  have begun := Runner.contains_of_status waiting
  have onceBegun : (x.setStatus node .inProgress).repeats other = false :=
    ((Runner.alike_setStatus begun .inProgress).repeats other).trans once
  exact (Runner.node?_afterEnd node onceBegun).trans (Runner.node?_setStatus begun .inProgress other)

theorem Step.reshaped {t t' : Turn} (step : Step op returning past t t') : Reshaped op t.scene t'.scene := by
  cases step with
  | started free found waiting known program emitted grown opens =>
      exact put_of_latches found (Runner.latches_setStatus (Runner.contains_of_status waiting) .inProgress) rfl
  | passed free found waiting grown opens => exact put_of_latches found (passed_latches waiting) rfl
  | jammed free busy found waiting grown => exact put_of_latches found (passed_latches waiting) rfl
  | finished active found program emitted topics grown =>
      exact put_of_latches found (Runner.afterEnd_latches _ _) rfl
  | delivered first found made => exact put_of_latches found (Runner.deliver_latches made) rfl
  | cleared found inactive grown => exact put_of_latches found (Runner.afterEnd_latches _ _) rfl
  | originEnded jump back found grown => exact put_of_latches found (Runner.afterEnd_latches _ _) rfl
  | joined asked fresh made => exact .joined asked fresh (Runner.setUp_made made).2.2.1 rfl
  | parted asked found idle => exact .parted asked rfl
  | restored asked member found made =>
      exact .put (found_self found) (Runner.restore_made made).1.alike (fun never => absurd asked (never _)) rfl
  | _ => exact .same rfl

namespace Reshaped

variable {s s' : Scene} {id : RunnerId}

/-- A runner that is not taken out stays. -/
theorem after (reshaped : Reshaped op s s') (stays : op ≠ .unregister id) {x : Runner}
    (found : s.runner? id = some x) :
    ∃ y, s'.runner? id = some y ∧ x.Alike y ∧ ((∀ entries, op ≠ .restore entries) → x.Latches y) := by
  have kept : x.Alike x ∧ ((∀ entries, op ≠ .restore entries) → x.Latches x) :=
    ⟨.refl x, fun _ => Runner.latches_of_nodes (.refl x) fun _ _ => rfl⟩
  cases reshaped with
  | same runners =>
      refine ⟨x, ?_, kept⟩
      rw [runner?, runners]
      exact found
  | @put z y foundZ alike latches runners =>
      have looked : s'.runner? id = if id = z.id then some y else s.runner? id := by
        rw [← runner?_putRunner foundZ alike.id s.channel id, runner?, runners]
        rfl
      by_cases here : id = z.id
      · rw [here, foundZ] at found
        cases found
        exact ⟨y, looked.trans (if_pos here), alike, latches⟩
      · exact ⟨x, (looked.trans (if_neg here)).trans found, kept⟩
  | @joined _ y asked fresh new runners =>
      have other : id ≠ y.id := by
        intro same
        rw [same, fresh] at found
        cases found
      refine ⟨x, ?_, kept⟩
      rw [runner?, runners, find?_insertRunner y _ id (ne_of_runner?_none fresh), if_neg other]
      exact found
  | @parted gone asked runners =>
      have other : id ≠ gone := fun same => stays (same ▸ asked)
      refine ⟨x, ?_, kept⟩
      rw [runner?, runners, runner?_filter other]
      exact found

/-- What the world does brings no runner in. -/
theorem missing (reshaped : Reshaped op s s') (world : op.FromWorld) (gone : s.runner? id = none) :
    s'.runner? id = none := by
  cases reshaped with
  | same runners =>
      rw [runner?, runners]
      exact gone
  | @put z y foundZ alike latches runners =>
      have other : id ≠ z.id := by
        intro same
        rw [same, foundZ] at gone
        cases gone
      have looked := runner?_putRunner foundZ alike.id s.channel id
      rw [if_neg other] at looked
      rw [runner?, runners]
      exact looked.trans gone
  | joined asked fresh new runners =>
      subst asked
      exact False.elim world
  | parted asked runners =>
      subst asked
      exact False.elim world

end Reshaped

theorem Operation.Plays.keepsRunners (plays : op.Plays) :
    (∀ id, op ≠ .unregister id) ∧ ∀ entries, op ≠ .restore entries := by
  constructor <;> rintro _ rfl <;> exact plays

theorem Operation.FromWorld.keepsRunners (world : op.FromWorld) :
    (∀ id, op ≠ .unregister id) ∧ ∀ entries, op ≠ .restore entries :=
  (Operation.plays_of_fromWorld world).keepsRunners

/-! ### Knowing a node -/

theorem Step.alike {t t' : Turn} (step : Step op returning past t t') {runner : RunnerId}
    (stays : op ≠ .unregister runner) {x : Runner} (found : t.scene.runner? runner = some x) :
    ∃ y, t'.scene.runner? runner = some y ∧ x.Alike y := by
  obtain ⟨y, found', alike, _⟩ := step.reshaped.after stays found
  exact ⟨y, found', alike⟩

theorem Turns.alike {t t' : Turn} (turns : Turns op returning past t t') {runner : RunnerId}
    (stays : op ≠ .unregister runner) {x : Runner} (found : t.scene.runner? runner = some x) :
    ∃ y, t'.scene.runner? runner = some y ∧ x.Alike y := by
  induction turns with
  | refl => exact ⟨x, found, .refl x⟩
  | tail _ last ih =>
      obtain ⟨y, foundY, first⟩ := ih
      obtain ⟨z, foundZ, second⟩ := last.alike stays foundY
      exact ⟨z, foundZ, first.trans second⟩

theorem repeats_of_runner? {s : Scene} {runner : RunnerId} {x : Runner} (found : s.runner? runner = some x)
    (node : NodeId) : s.repeats runner node = x.repeats node := by
  unfold Scene.repeats
  rw [found]
  rfl

theorem Turns.repeats {t t' : Turn} (turns : Turns op returning past t t') {runner : RunnerId}
    (stays : op ≠ .unregister runner) {x : Runner} (found : t.scene.runner? runner = some x) (node : NodeId) :
    t'.scene.repeats runner node = t.scene.repeats runner node := by
  obtain ⟨y, found', alike⟩ := Turns.alike turns stays found
  rw [repeats_of_runner? found', alike.repeats, ← repeats_of_runner? found]

theorem knows_iff {s : Scene} {runner : RunnerId} {x : Runner} (found : s.runner? runner = some x) (node : NodeId) :
    (s.statusOf? runner node).isSome = x.contains node := by
  rw [statusOf?_of_runner? found]
  rfl

theorem statusOf?_putRunner_of_statuses {s : Scene} {x y : Runner} (found : s.runner? x.id = some x)
    (alike : x.Alike y) (same : y.statuses = x.statuses) (ch : Channel) (runner : RunnerId) (node : NodeId) :
    (s.putRunner y ch).statusOf? runner node = s.statusOf? runner node := by
  rw [statusOf?_putRunner found alike.id]
  by_cases here : runner = x.id
  · rw [if_pos here, here, statusOf?_of_runner? found]
    unfold Runner.statusOf?
    rw [same]
  · rw [if_neg here]

/-- The runners are those of the scene with one put in its place. -/
theorem statusOf?_of_put {s s' : Scene} {runner : RunnerId} {node : NodeId} {x y : Runner}
    (found : s.runner? x.id = some x) (alike : x.Alike y) (runners : s'.runners = (s.putRunner y s.channel).runners) :
    s'.statusOf? runner node = if runner = x.id then y.statusOf? node else s.statusOf? runner node := by
  rw [← statusOf?_putRunner found alike.id s.channel]
  unfold statusOf? runner?
  rw [runners]

/-! ### Events that wait -/

theorem waiting_of_grows {due events : List StoryEvent} {granted : List (List Reward)} {ch ch' : Channel}
    (grown : ch.Grows events granted ch') : ∀ event ∈ due ++ ch.bus.queue, event ∈ due ++ ch'.bus.queue := by
  intro event member
  rw [grown.queue, ← List.append_assoc]
  exact List.mem_append_left events member

theorem waiting_of_rewired {due : List StoryEvent} {ch ch' : Channel} (rewired : ch.Rewired ch') :
    ∀ event ∈ due ++ ch.bus.queue, event ∈ due ++ ch'.bus.queue := by
  rw [rewired.queue]
  exact fun _ => id

/-- The event has been dealt with: the origin of a jump has come to its end, and any other event has been heard by the
conditions that listen for it. -/
structure Settles (op : Operation) (s : Scene) (event : StoryEvent) : Prop where
  ended : ∀ runner node board target, event = .jumpRequested runner node board target →
    s.statusOf? runner node ≠ some .inProgress
  heard : event.topic ≠ .jumpRequested → op.FromWorld → ∀ key id,
    s.channel.bus.find? id = some ⟨id, event.topic, .condition key⟩ → s.Hears key event

/-- An event that waits goes on waiting until it is settled. -/
theorem Step.waits {t t' : Turn} (step : Step op returning past t t') :
    (∀ event ∈ t.due ++ t.scene.channel.bus.queue, event ∈ t'.due ++ t'.scene.channel.bus.queue) ∨
      ∃ event, t.due = event :: t'.due ∧ t'.scene = t.scene ∧ Settles op t.scene event := by
  cases step with
  | quiet grown => exact Or.inl (waiting_of_grows grown)
  | directed program emitted grown => exact Or.inl (waiting_of_grows grown)
  | started free found waiting known program emitted grown opens => exact Or.inl (waiting_of_grows grown)
  | passed free found waiting grown opens => exact Or.inl (waiting_of_grows grown)
  | jammed free busy found waiting grown => exact Or.inl (waiting_of_grows grown)
  | resumed program emitted topics grown => exact Or.inl (waiting_of_grows grown)
  | finished active found program emitted topics grown => exact Or.inl (waiting_of_grows grown)
  | branched active program emitted topics grown => exact Or.inl (waiting_of_grows grown)
  | orphaned free busy program emitted topics grown => exact Or.inl (waiting_of_grows grown)
  | batch => exact Or.inl fun _ member => List.mem_append_left _ member
  | cleared found inactive grown => exact Or.inl (waiting_of_grows grown)
  | originEnded jump back found grown => exact Or.inl (waiting_of_grows grown)
  | settled first other heard =>
      refine Or.inr ⟨_, first, rfl, ?_, fun _ => heard⟩
      rintro runner node board target rfl
      exact absurd rfl other
  | jumpSettled jump ended =>
      refine Or.inr ⟨_, jump, rfl, ?_, fun other => absurd rfl other⟩
      rintro runner node board target same
      cases same
      exact ended
  | published asked grown => exact Or.inl (waiting_of_grows grown)
  | stopsObserving asked => exact Or.inl (waiting_of_rewired (Channel.unsubscribe_rewired _ _))
  | joined asked fresh made =>
      exact Or.inl (waiting_of_rewired ((Runner.setUp_made made).2.2.2.note rfl))
  | parted asked found idle => exact Or.inl (waiting_of_rewired ((Runner.takeDown_rewired _ _).note rfl))
  | _ => exact Or.inl fun _ => id

/-! ### Hearing an event -/

/-- A condition stays in its slot, and if its node runs only once it is not forgotten. -/
theorem Step.slot {t t' : Turn} (step : Step op returning past t t') (world : op.FromWorld) {key : ConditionKey}
    {c' : Condition} (found' : t'.scene.condition? key = some c') :
    ∃ c, t.scene.condition? key = some c ∧ c.kind = c'.kind ∧
      t'.scene.repeats key.runner key.node = t.scene.repeats key.runner key.node ∧
      (t.scene.repeats key.runner key.node = false → c.satisfied = true → c'.satisfied = true) := by
  have stays := world.keepsRunners
  obtain ⟨y, foundY, slotY⟩ := Option.bind_eq_some_iff.mp found'
  cases found : t.scene.runner? key.runner with
  | none =>
      rw [step.reshaped.missing world found] at foundY
      cases foundY
  | some x =>
      obtain ⟨z, foundZ, alike, latches⟩ := step.reshaped.after (stays.1 key.runner) found
      rw [foundY] at foundZ
      cases foundZ
      obtain ⟨c, slot, kind, _⟩ := alike.slot slotY
      refine ⟨c, Option.bind_eq_some_iff.mpr ⟨x, found, slot⟩, kind, ?_, ?_⟩
      · rw [repeats_of_runner? foundY, repeats_of_runner? found, alike.repeats]
      · intro once satisfied
        rw [repeats_of_runner? found] at once
        exact ((latches stays.2).latched key.node key.index once ⟨c, slot, satisfied⟩).condition slotY

theorem Step.hears {t t' : Turn} (step : Step op returning past t t') (world : op.FromWorld) {key : ConditionKey}
    {event : StoryEvent} (hears : t.scene.Hears key event) : t'.scene.Hears key event := by
  intro c' found' once matched
  obtain ⟨c, found, kind, repeats, latched⟩ := step.slot world found'
  rw [repeats] at once
  exact latched once (hears c found once (kind ▸ matched))

theorem Turns.hears {t t' : Turn} (turns : Turns op returning past t t') (world : op.FromWorld) {key : ConditionKey}
    {event : StoryEvent} (hears : t.scene.Hears key event) : t'.scene.Hears key event := by
  induction turns with
  | refl => exact hears
  | tail _ last ih => exact last.hears world ih

theorem Step.subscriptions {t t' : Turn} (step : Step op returning past t t') (world : op.FromWorld) :
    t'.scene.channel.bus.subscriptions = t.scene.channel.bus.subscriptions := by
  cases step with
  | quiet grown => exact grown.subscriptions
  | directed program emitted grown => exact grown.subscriptions
  | started free found waiting known program emitted grown opens => exact grown.subscriptions
  | passed free found waiting grown opens => exact grown.subscriptions
  | jammed free busy found waiting grown => exact grown.subscriptions
  | resumed program emitted topics grown => exact grown.subscriptions
  | finished active found program emitted topics grown => exact grown.subscriptions
  | branched active program emitted topics grown => exact grown.subscriptions
  | orphaned free busy program emitted topics grown => exact grown.subscriptions
  | cleared found inactive grown => exact grown.subscriptions
  | originEnded jump back found grown => exact grown.subscriptions
  | published asked grown => exact grown.subscriptions
  | observes asked =>
      subst asked
      exact False.elim world
  | stopsObserving asked =>
      subst asked
      exact False.elim world
  | joined asked fresh made =>
      subst asked
      exact False.elim world
  | parted asked found idle =>
      subst asked
      exact False.elim world
  | _ => rfl

theorem Turns.subscriptions {t t' : Turn} (turns : Turns op returning past t t') (world : op.FromWorld) :
    t'.scene.channel.bus.subscriptions = t.scene.channel.bus.subscriptions := by
  induction turns with
  | refl => rfl
  | tail _ last ih => exact (last.subscriptions world).trans ih

end Plotline.Scene
