import Plotline.Proofs.Scene.Orderly

/-!
The world forgets no node. A node that waits until others are complete has seen each completion, or the news of it are
on their way; and when nothing is missing any more, the node has been asked for.
-/

namespace Plotline.Scene

def node? (s : Scene) (runner : RunnerId) (node : NodeId) : Option Node := (s.runner? runner).bind (·.node? node)

theorem node?_of_runner? {s : Scene} {runner : RunnerId} {x : Runner} (found : s.runner? runner = some x)
    (node : NodeId) : s.node? runner node = x.node? node := by
  unfold node?
  rw [found]
  rfl

theorem repeats_of_node? {s : Scene} {runner : RunnerId} {node : NodeId} {d : Node}
    (known : s.node? runner node = some d) : s.repeats runner node = d.isRepeatable := by
  obtain ⟨x, found, known⟩ := Option.bind_eq_some_iff.mp known
  rw [repeats_of_runner? found, Runner.repeats, known]
  rfl

variable {op : Operation} {returning : Prop} {t t' : Turn} {runner : RunnerId} {node : NodeId} {s s' : Scene}

/-- What the scene knows of the completion of nodes and of those that wait for it. -/
structure Turn.Awake (t : Turn) : Prop where
  wired : ∀ key c, t.scene.condition? key = some c →
    ∃ id, t.scene.channel.bus.find? id = some ⟨id, c.kind.topic, .condition key⟩
  heeds : ∀ key target c, t.scene.condition? key = some c → t.scene.repeats key.runner key.node = false →
    c.kind = .previousNodeCompleted target → t.scene.statusOf? key.runner target = some .completed →
      c.satisfied = true ∨ ∃ event ∈ t.due ++ t.scene.channel.bus.queue, c.kind.matchedBy event = true
  asks : ∀ runner node d, t.scene.node? runner node = some d → d.isRepeatable = false → d.conditions ≠ [] →
    d.isReady = true → t.scene.statusOf? runner node = some .notStarted →
      t.called = some (runner, node) ∨ ∃ request ∈ t.scene.pending, request.runner = runner ∧ request.node = node

/-! ### Nodes that run only once -/

private theorem node?_of_put {x y : Runner} (found : s.runner? x.id = some x) (alike : x.Alike y)
    (runners : s'.runners = (s.putRunner y s.channel).runners) :
    s'.node? runner node = if runner = x.id then y.node? node else s.node? runner node := by
  have looked : s'.runner? runner = if runner = x.id then some y else s.runner? runner := by
    rw [← runner?_putRunner found alike.id s.channel runner]
    unfold runner?
    rw [runners]
  unfold node?
  rw [looked]
  split <;> rfl

private theorem kept_of_put {x y : Runner} {d : Node} (found : s.runner? x.id = some x) (alike : x.Alike y)
    (kept : x.repeats node = false → y.node? node = x.node? node)
    (runners : s'.runners = (s.putRunner y s.channel).runners) (known : s'.node? runner node = some d)
    (once : d.isRepeatable = false) : s.node? runner node = some d := by
  rw [node?_of_put found alike runners] at known
  split at known
  · rename_i here
    have never : x.repeats node = false := by
      rw [← alike.repeats, Runner.repeats, known]
      exact once
    rw [here, node?_of_runner? found, ← kept never]
    exact known
  · exact known

private theorem delivered_node {m : Moment} {key : ConditionKey} {event : StoryEvent} {x y : Runner}
    {ready : Option NodeId} {j j' : Journal} {ch : Channel} {d : Node} (found : m.scene.runner? key.runner = some x)
    (made : x.deliver key event j = (ready, y, j')) (known : (m.scene.putRunner y ch).node? runner node = some d)
    (once : d.isRepeatable = false) :
    m.scene.node? runner node = some d ∨
      (m.scene.statusOf? runner node = some .notStarted → d.isReady = true →
        (ready.map fun node => (key.runner, node)) = some (runner, node)) := by
  have here := found_self found
  have alike := (Runner.deliver_made made).1
  have same := id_of_runner? found
  rcases Runner.deliver_runner made with ⟨c, slot, matched, isY⟩ | ⟨-, rfl, -⟩
  · have put : (m.scene.putRunner y ch).node? runner node =
        if runner = x.id then y.node? node else m.scene.node? runner node := node?_of_put here alike rfl
    rw [put] at known
    by_cases addressed : runner = key.runner ∧ node = key.node
    · obtain ⟨rfl, rfl⟩ := addressed
      refine Or.inr fun waiting isReady => ?_
      rw [if_pos same.symm] at known
      rw [statusOf?_of_runner? found] at waiting
      rw [Runner.ready_of_deliver made slot matched known isReady waiting]
      rfl
    · refine Or.inl ?_
      split at known
      · rename_i sameRunner
        have other : node ≠ key.node := fun equal => addressed ⟨sameRunner.trans same, equal⟩
        rw [isY, Runner.node?_modifyNode key.node node x (f := fun n =>
          { n with conditions := n.conditions.modify key.index (·.deliver event) }) (fun _ => rfl)] at known
        rw [if_neg other] at known
        rw [sameRunner, node?_of_runner? here]
        exact known
      · exact known
  · exact Or.inl (kept_of_put here alike (fun _ => rfl) rfl known once)

/-- A node that runs only once stays as it is; only a delivery may change its conditions, and it calls for the node if
that makes it ready. -/
theorem Step.kept_node (step : Step op returning False t t') (world : op.FromWorld) {d : Node}
    (known : t'.scene.node? runner node = some d) (once : d.isRepeatable = false) :
    t.scene.node? runner node = some d ∨
      (t.scene.statusOf? runner node = some .notStarted → d.isReady = true → t'.called = some (runner, node)) := by
  cases step with
  | @started m r n x d' i ch free found waiting known' program emitted grown opens =>
      obtain rfl := id_of_runner? found
      have begun := Runner.contains_of_status waiting
      exact Or.inl (kept_of_put found (Runner.alike_setStatus begun .inProgress)
        (fun _ => Runner.node?_setStatus begun .inProgress node) rfl known once)
  | @passed m r n x ch free found waiting grown opens =>
      obtain rfl := id_of_runner? found
      exact Or.inl (kept_of_put found (passed_alike waiting) (node?_passed waiting) rfl known once)
  | jammed free busy found waiting grown =>
      obtain rfl := id_of_runner? found
      exact Or.inl (kept_of_put found (passed_alike waiting) (node?_passed waiting) rfl known once)
  | finished active found program emitted topics grown =>
      obtain rfl := id_of_runner? found
      exact Or.inl (kept_of_put found (Runner.afterEnd_alike _ _) (Runner.node?_afterEnd _) rfl known once)
  | @delivered m key event rest x y ready j first found made => exact delivered_node found made known once
  | cleared found inactive grown =>
      exact Or.inl (kept_of_put found (Runner.afterEnd_alike _ _) (Runner.node?_afterEnd _) rfl known once)
  | originEnded jump back found grown =>
      obtain rfl := id_of_runner? found
      exact Or.inl (kept_of_put found (Runner.afterEnd_alike _ _) (Runner.node?_afterEnd _) rfl known once)
  | joined asked fresh made =>
      subst asked
      exact False.elim world
  | parted asked found idle =>
      subst asked
      exact False.elim world
  | restored asked member found made =>
      subst asked
      exact False.elim world
  | _ => exact Or.inl known

private theorem started_status {x : Runner} (found : s.runner? x.id = some x)
    (waiting : x.statusOf? node = some .notStarted)
    (runners : s'.runners = (s.putRunner (x.setStatus node .inProgress) s.channel).runners) :
    s'.statusOf? x.id node = some .inProgress := by
  have alike := Runner.alike_setStatus (Runner.contains_of_status waiting) .inProgress
  rw [statusOf?_of_put found alike runners, if_pos rfl, Runner.statusOf?_setStatus, if_pos rfl]

private theorem passed_status {x : Runner} (found : s.runner? x.id = some x)
    (waiting : x.statusOf? node = some .notStarted)
    (runners : s'.runners = (s.putRunner ((x.setStatus node .inProgress).afterEnd node) s.channel).runners) :
    s'.statusOf? x.id node = some (s.endStatus x.id node) := by
  rw [statusOf?_of_put found (passed_alike waiting) runners, if_pos rfl, Runner.statusOf?_passed waiting, if_pos rfl,
    endStatus_of_runner? found]

/-- A node that still waits after it was called for has been put among the requests. -/
private theorem Step.answered_call (step : Step op returning False t t') (called : t.called = some (runner, node))
    (once : t.scene.repeats runner node = false) (waiting : t.scene.statusOf? runner node = some .notStarted)
    (still : t'.scene.statusOf? runner node = some .notStarted) :
    ∃ request ∈ t'.scene.pending, request.runner = runner ∧ request.node = node := by
  have ended : t.scene.endStatus runner node = .completed := by rw [endStatus, once]; rfl
  cases step with
  | queued held =>
      cases called
      exact ⟨_, List.mem_append_right _ List.mem_cons_self, rfl, rfl⟩
  | unknown free missing =>
      cases called
      rw [statusOf?, missing] at waiting
      cases waiting
  | refused free found unready =>
      cases called
      rw [statusOf?_of_runner? found] at waiting
      exact absurd waiting unready
  | started free found was known program emitted grown opens =>
      cases called
      obtain rfl := id_of_runner? found
      cases (started_status found was rfl).symm.trans still
  | passed free found was grown opens =>
      cases called
      obtain rfl := id_of_runner? found
      have after := (passed_status found was rfl).symm.trans still
      rw [ended] at after
      cases after
  | jammed free busy found was grown =>
      cases called
      obtain rfl := id_of_runner? found
      have after := (passed_status found was rfl).symm.trans still
      rw [ended] at after
      cases after
  | _ => cases called

/-- A request goes on waiting until it is taken up. -/
private theorem Step.keeps_request (step : Step op returning False t t') (world : op.FromWorld) {request : Request}
    (waits : request ∈ t.scene.pending) :
    request ∈ t'.scene.pending ∨ t'.called = some (request.runner, request.node) := by
  cases step with
  | queued held => exact Or.inl (List.mem_append_left _ waits)
  | reordered same => exact Or.inl (same.mem_iff.mp waits)
  | taken releasing free first =>
      dsimp only at waits
      rw [first] at waits
      rcases List.mem_cons.mp waits with rfl | later
      · exact Or.inr rfl
      · exact Or.inl later
  | requested asked => exact Or.inl (List.mem_append_left _ waits)
  | parted asked found idle =>
      subst asked
      exact False.elim world
  | forgotten asked =>
      subst asked
      exact False.elim world
  | _ => exact Or.inl waits

/-! ### One step -/

private theorem Step.known_before (step : Step op returning False t t') (world : op.FromWorld) {status : NodeStatus}
    (known : t'.scene.statusOf? runner node = some status) :
    ∃ old, t.scene.statusOf? runner node = some old := by
  obtain ⟨y, found', known⟩ := Option.bind_eq_some_iff.mp known
  cases found : t.scene.runner? runner with
  | none =>
      rw [step.reshaped.missing world found] at found'
      cases found'
  | some x =>
      obtain ⟨z, foundZ, alike⟩ := step.alike (world.keepsRunners.1 runner) found
      cases found'.symm.trans foundZ
      rw [statusOf?_of_runner? found, ← Option.isSome_iff_exists]
      exact (alike.known node).symm.trans (Runner.contains_of_status known)

/-- What becomes of a node that runs only once: it has the status from before, or it has just come to its end, and the
news of that are in the queue, or it has begun. -/
private theorem Step.changes (step : Step op returning False t t') (world : op.FromWorld) {status : NodeStatus}
    (known : t'.scene.statusOf? runner node = some status) :
    t.scene.statusOf? runner node = some status ∨ status = .inProgress ∨
      (status = t.scene.endStatus runner node ∧
        ∃ board, StoryEvent.nodeCompleted runner board node ∈ t'.scene.channel.bus.queue) := by
  obtain ⟨old, before⟩ := step.known_before world known
  have follows := (Operation.plays_of_fromWorld world).follows runner node
  obtain ⟨events, sends, conduct⟩ := step.conduct follows before
  have queued := sends.queued
  cases conduct with
  | idle silent same active => exact Or.inl (same.symm.trans known)
  | begun waiting after active => exact Or.inr (Or.inl (Option.some.inj (known.symm.trans after)))
  | @passed board events waiting silent after =>
      exact Or.inr (Or.inr ⟨Option.some.inj (known.symm.trans after), board, queued _ (by simp)⟩)
  | @ended board events more was early late after active =>
      exact Or.inr (Or.inr ⟨Option.some.inj (known.symm.trans after), board, queued _ (by simp)⟩)

theorem topic_of_matched {kind : ConditionKind} {event : StoryEvent} (matched : kind.matchedBy event = true) :
    kind.topic = event.topic := by
  cases kind <;> cases event <;> first | rfl | cases matched

private theorem Step.heeds (step : Step op returning False t t') (world : op.FromWorld) (awake : t.Awake)
    {key : ConditionKey} {target : NodeId} {c' : Condition} (found' : t'.scene.condition? key = some c')
    (once : t'.scene.repeats key.runner key.node = false) (kind : c'.kind = .previousNodeCompleted target)
    (complete : t'.scene.statusOf? key.runner target = some .completed) :
    c'.satisfied = true ∨ ∃ event ∈ t'.due ++ t'.scene.channel.bus.queue, c'.kind.matchedBy event = true := by
  obtain ⟨c, found, sameKind, repeats, latched⟩ := step.slot world found'
  rw [repeats] at once
  rcases step.changes world complete with before | running | ⟨-, board, news⟩
  · rcases awake.heeds key target c found once (sameKind.trans kind) before with satisfied | ⟨event, waits, matched⟩
    · exact Or.inl (latched once satisfied)
    · rcases step.waits with stays | ⟨first, due, same, settles⟩
      · exact Or.inr ⟨event, stays event waits, sameKind ▸ matched⟩
      · rw [due] at waits
        rcases List.mem_cons.mp waits with rfl | later
        · have topic := topic_of_matched matched
          have other : event.topic ≠ .jumpRequested := by
            rw [← topic, sameKind, kind]
            nofun
          obtain ⟨id, listens⟩ := awake.wired key c found
          rw [topic] at listens
          exact Or.inl (latched once (settles.heard other world key id listens c found once matched))
        · rw [same]
          exact Or.inr ⟨event, later, sameKind ▸ matched⟩
  · cases running
  · refine Or.inr ⟨_, List.mem_append_right _ news, ?_⟩
    rw [kind]
    simp [ConditionKind.matchedBy]

private theorem Step.asks (step : Step op returning False t t') (world : op.FromWorld) (awake : t.Awake) {d : Node}
    (known : t'.scene.node? runner node = some d) (once : d.isRepeatable = false) (nonempty : d.conditions ≠ [])
    (isReady : d.isReady = true) (waiting : t'.scene.statusOf? runner node = some .notStarted) :
    t'.called = some (runner, node) ∨
      ∃ request ∈ t'.scene.pending, request.runner = runner ∧ request.node = node := by
  obtain ⟨old, before⟩ := step.known_before world waiting
  obtain ⟨x, found, _⟩ := Option.bind_eq_some_iff.mp before
  have never : t.scene.repeats runner node = false := by
    rw [← Turns.repeats (.single step) (world.keepsRunners.1 runner) found node, repeats_of_node? known]
    exact once
  have was : t.scene.statusOf? runner node = some .notStarted := by
    rcases step.changes world waiting with same | running | ⟨ended, -⟩
    · exact same
    · cases running
    · rw [endStatus, never] at ended
      cases ended
  rcases step.kept_node world known once with same | asked
  · rcases awake.asks runner node d same once nonempty isReady was with called | ⟨request, waits, rfl, rfl⟩
    · exact Or.inr (step.answered_call called never was waiting)
    · rcases step.keeps_request world waits with still | called
      · exact Or.inr ⟨request, still, rfl, rfl⟩
      · exact Or.inl called
  · exact Or.inl (asked was isReady)

theorem Step.awake (step : Step op returning False t t') (world : op.FromWorld) (awake : t.Awake) : t'.Awake := by
  refine ⟨?_, fun _ _ _ => step.heeds world awake, fun _ _ _ => step.asks world awake⟩
  intro key c' found'
  obtain ⟨c, found, kind, _⟩ := step.slot world found'
  unfold Bus.find?
  rw [step.subscriptions world, ← kind]
  exact awake.wired key c found

theorem Turns.awake (turns : Turns op returning False t t') (world : op.FromWorld) (awake : t.Awake) : t'.Awake := by
  induction turns with
  | refl => exact awake
  | tail _ last ih => exact last.awake world ih

end Plotline.Scene
