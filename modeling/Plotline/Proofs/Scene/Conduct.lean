import Plotline.Proofs.Runner.Status
import Plotline.Proofs.Scene.Frame
import Plotline.Proofs.Story.Event

/-!
What one step does to a node, and what it makes known of that: the node begins, or it ends, or it does both at once,
or nothing happens to it at all.
-/

namespace Plotline

/-- The events say nothing of the start or the completion of the node. -/
def Silent (runner : RunnerId) (node : NodeId) (events : List StoryEvent) : Prop :=
  ∀ event ∈ events, event.starts runner node = false ∧ event.completes runner node = false

namespace Silent

variable {runner r : RunnerId} {node n : NodeId} {events more : List StoryEvent}

theorem nil : Silent runner node [] := List.forall_mem_nil _

theorem append (first : Silent runner node events) (last : Silent runner node more) :
    Silent runner node (events ++ more) := by
  intro event member
  rcases List.mem_append.mp member with early | late
  · exact first event early
  · exact last event late

theorem of_topics (topics : ∀ event ∈ events, event.topic ≠ .nodeStarted ∧ event.topic ≠ .nodeCompleted) :
    Silent runner node events := by
  intro event member
  have topic := topics event member
  cases event <;> simp_all [StoryEvent.topic, StoryEvent.starts, StoryEvent.completes]

theorem of_triggers (topics : ∀ event ∈ events, event.topic = .triggerRequested) : Silent runner node events := by
  apply of_topics
  intro event member
  rw [topics event member]
  decide

theorem started_other (different : (runner, node) ≠ (r, n)) (board : StoryboardName) :
    Silent runner node [.nodeStarted r board n] := by
  intro event member
  rw [List.mem_singleton.mp member]
  have other : ¬ (r = runner ∧ n = node) := by
    rintro ⟨rfl, rfl⟩
    exact different rfl
  simpa [StoryEvent.starts, StoryEvent.completes] using other

theorem completed_other (different : (runner, node) ≠ (r, n)) (board : StoryboardName) :
    Silent runner node [.nodeCompleted r board n] := by
  intro event member
  rw [List.mem_singleton.mp member]
  have other : ¬ (r = runner ∧ n = node) := by
    rintro ⟨rfl, rfl⟩
    exact different rfl
  simpa [StoryEvent.starts, StoryEvent.completes] using other

end Silent

namespace Scene

/-- The status that the node has when it has come to its end. -/
def endStatus (s : Scene) (runner : RunnerId) (node : NodeId) : NodeStatus :=
  if s.repeats runner node then .notStarted else .completed

/-- What a stretch of work that publishes the events does to a node. Only where the node begins does it become
active. -/
inductive Conduct (runner : RunnerId) (node : NodeId) (s s' : Scene) : List StoryEvent → Prop
  | idle {events : List StoryEvent} (silent : Silent runner node events)
      (status : s'.statusOf? runner node = s.statusOf? runner node)
      (active : s'.active = some (runner, node) → s.active = some (runner, node)) : Conduct runner node s s' events
  | begun {board : StoryboardName} (waiting : s.statusOf? runner node = some .notStarted)
      (status : s'.statusOf? runner node = some .inProgress) (active : s'.active = some (runner, node)) :
      Conduct runner node s s' [.nodeStarted runner board node]
  | passed {board : StoryboardName} {events : List StoryEvent} (waiting : s.statusOf? runner node = some .notStarted)
      (silent : Silent runner node events) (status : s'.statusOf? runner node = some (s.endStatus runner node)) :
      Conduct runner node s s' (.nodeStarted runner board node :: .nodeCompleted runner board node :: events)
  | ended {board : StoryboardName} {before after : List StoryEvent}
      (running : s.statusOf? runner node = some .inProgress) (early : Silent runner node before)
      (late : Silent runner node after) (status : s'.statusOf? runner node = some (s.endStatus runner node))
      (active : s'.active = some (runner, node) → s.active = some (runner, node)) :
      Conduct runner node s s' (before ++ .nodeCompleted runner board node :: after)

theorem endStatus_of_runner? {s : Scene} {runner : RunnerId} {x : Runner} (found : s.runner? runner = some x)
    (node : NodeId) : s.endStatus runner node = x.endStatus node := by
  unfold endStatus Scene.repeats
  rw [found]
  rfl

variable {runner : RunnerId} {node : NodeId} {s s' : Scene}

/-- What is in progress after the end of a node was so before, and is not that node. -/
theorem inProgress_afterEnd {x : Runner} {node n : NodeId} {r : RunnerId} (found : s.runner? x.id = some x)
    (runners : s'.runners = (s.putRunner (x.afterEnd node) s.channel).runners)
    (running : s'.statusOf? r n = some .inProgress) :
    s.statusOf? r n = some .inProgress ∧ (r, n) ≠ (x.id, node) := by
  rw [statusOf?_of_put found (x.afterEnd_alike node) runners] at running
  by_cases here : r = x.id
  · rw [if_pos here, Runner.statusOf?_afterEnd_eq] at running
    split at running
    · exact absurd (Option.some.inj running) (x.endStatus_ne_inProgress node)
    · rename_i other
      refine ⟨(here ▸ statusOf?_of_runner? found n).trans running, ?_⟩
      rintro same
      cases Prod.mk.inj same with
      | intro _ equal => exact other ⟨equal, equal ▸ running⟩
  · rw [if_neg here] at running
    exact ⟨running, fun same => here (Prod.mk.inj same).1⟩

private theorem idle_of_same {events : List StoryEvent} (silent : Silent runner node events)
    (runners : s'.runners = s.runners) (active : s'.active = some (runner, node) → s.active = some (runner, node)) :
    Conduct runner node s s' events := by
  refine .idle silent ?_ active
  unfold statusOf? runner?
  rw [runners]

/-- Work on one node of a runner leaves every other as it was. -/
private theorem idle_of_put {x y : Runner} {n : NodeId} {events : List StoryEvent} (found : s.runner? x.id = some x)
    (alike : x.Alike y) (others : ∀ other, other ≠ n → y.statusOf? other = x.statusOf? other)
    (runners : s'.runners = (s.putRunner y s.channel).runners) (different : (runner, node) ≠ (x.id, n))
    (silent : Silent runner node events)
    (active : s'.active = some (runner, node) → s.active = some (runner, node)) :
    Conduct runner node s s' events := by
  refine .idle silent ?_ active
  rw [statusOf?_of_put found alike runners]
  by_cases here : runner = x.id
  · have other : node ≠ n := fun same => different (by rw [here, same])
    rw [if_pos here, others node other, here, statusOf?_of_runner? found]
  · rw [if_neg here]

/-- What becomes of the nodes when one of them ends. -/
private theorem conduct_of_end {x : Runner} {n : NodeId} {before after : List StoryEvent}
    (found : s.runner? x.id = some x) (runners : s'.runners = (s.putRunner (x.afterEnd n) s.channel).runners)
    (early : Silent runner node before) (late : Silent runner node after)
    (active : s'.active = some (runner, node) → s.active = some (runner, node)) :
    Conduct runner node s s' (before ++ x.endNews n ++ after) := by
  have alike := x.afterEnd_alike n
  by_cases running : x.statusOf? n = some .inProgress
  · have news : x.endNews n = [.nodeCompleted x.id x.storyboard.name n] := if_pos running
    rw [news]
    by_cases same : (runner, node) = (x.id, n)
    · obtain ⟨rfl, rfl⟩ := Prod.mk.inj same
      rw [List.append_assoc]
      refine .ended ((statusOf?_of_runner? found node).trans running) early late ?_ active
      rw [statusOf?_of_put found alike runners, if_pos rfl, endStatus_of_runner? found]
      exact Runner.statusOf?_afterEnd running
    · have silent := (early.append (Silent.completed_other same x.storyboard.name)).append late
      exact idle_of_put found alike (fun _ other => x.statusOf?_afterEnd_of_ne other) runners same silent active
  · have news : x.endNews n = [] := if_neg running
    rw [news, List.append_nil]
    refine .idle (early.append late) ?_ active
    rw [statusOf?_of_put found alike runners, Runner.afterEnd_eq_self running]
    by_cases here : runner = x.id
    · rw [if_pos here, here, statusOf?_of_runner? found]
    · rw [if_neg here]

private theorem conduct_of_lone_end {x : Runner} {n : NodeId} (found : s.runner? x.id = some x)
    (runners : s'.runners = (s.putRunner (x.afterEnd n) s.channel).runners)
    (active : s'.active = some (runner, node) → s.active = some (runner, node)) :
    Conduct runner node s s' (x.endNews n) := by
  simpa using conduct_of_end found runners .nil .nil active

/-- What becomes of the nodes when one of them begins and ends at once. -/
private theorem conduct_of_pass {x : Runner} {n : NodeId} {events : List StoryEvent}
    (found : s.runner? x.id = some x) (waiting : x.statusOf? n = some .notStarted)
    (runners : s'.runners = (s.putRunner ((x.setStatus n .inProgress).afterEnd n) s.channel).runners)
    (silent : Silent runner node events)
    (active : s'.active = some (runner, node) → s.active = some (runner, node)) :
    Conduct runner node s s'
      (.nodeStarted x.id x.storyboard.name n :: .nodeCompleted x.id x.storyboard.name n :: events) := by
  have alike := passed_alike waiting
  by_cases same : (runner, node) = (x.id, n)
  · obtain ⟨rfl, rfl⟩ := Prod.mk.inj same
    refine .passed ((statusOf?_of_runner? found node).trans waiting) silent ?_
    rw [statusOf?_of_put found alike runners, if_pos rfl, Runner.statusOf?_passed waiting, if_pos rfl,
      endStatus_of_runner? found]
  · have silent' := (Silent.started_other same x.storyboard.name).append
      ((Silent.completed_other same x.storyboard.name).append silent)
    refine idle_of_put found alike ?_ runners same silent' active
    intro other different
    rw [Runner.statusOf?_passed waiting, if_neg different]

private theorem conduct_of_start {x : Runner} {n : NodeId} (found : s.runner? x.id = some x)
    (waiting : x.statusOf? n = some .notStarted)
    (runners : s'.runners = (s.putRunner (x.setStatus n .inProgress) s.channel).runners)
    (active : s'.active = some (x.id, n)) :
    Conduct runner node s s' [.nodeStarted x.id x.storyboard.name n] := by
  have alike := Runner.alike_setStatus (Runner.contains_of_status waiting) .inProgress
  by_cases same : (runner, node) = (x.id, n)
  · obtain ⟨rfl, rfl⟩ := Prod.mk.inj same
    refine .begun ((statusOf?_of_runner? found node).trans waiting) ?_ active
    rw [statusOf?_of_put found alike runners, if_pos rfl, Runner.statusOf?_setStatus, if_pos rfl]
  · refine idle_of_put found alike ?_ runners same (Silent.started_other same x.storyboard.name) ?_
    · intro other different
      rw [Runner.statusOf?_setStatus, if_neg different]
    · intro executing
      exact absurd (Option.some.inj (executing.symm.trans active)) same

/-- What operations must not do if nodes are to be followed: a node of a runner that is taken out is gone, and a
restored game sets its status at will. What a host publishes is its own affair. -/
structure Operation.Follows (op : Operation) (runner : RunnerId) (node : NodeId) : Prop where
  stays : op ≠ .unregister runner
  keeps : ∀ entries, op ≠ .restore entries
  silent : ∀ event, op = .publish event → Silent runner node [event]

/-- Between the two turns the events were published: they are in the journal and in the queue. -/
structure Turn.Sends (t t' : Turn) (events : List StoryEvent) : Prop where
  tells : ∃ granted, t.scene.channel.journal.Tells events granted t'.scene.channel.journal
  queued : ∀ event ∈ events, event ∈ t'.scene.channel.bus.queue

private theorem sent {t t' : Turn} {events : List StoryEvent} {granted : List (List Reward)}
    (grown : t.scene.channel.Grows events granted t'.scene.channel) : t.Sends t' events := by
  refine ⟨⟨granted, grown.journal.toTells⟩, ?_⟩
  rw [grown.queue]
  exact fun event member => List.mem_append_right _ member

private theorem unsent {t t' : Turn} {granted : List (List Reward)}
    (tells : t.scene.channel.journal.Tells [] granted t'.scene.channel.journal) : t.Sends t' [] :=
  ⟨⟨granted, tells⟩, List.forall_mem_nil _⟩

theorem Step.conduct {op : Operation} {returning past : Prop} {t t' : Turn} (step : Step op returning past t t')
    (follows : op.Follows runner node) {status : NodeStatus} (known : t.scene.statusOf? runner node = some status) :
    ∃ events, t.Sends t' events ∧ Conduct runner node t.scene t'.scene events := by
  cases step with
  | quiet grown => exact ⟨_, sent grown, idle_of_same .nil rfl id⟩
  | kickstarted => exact ⟨_, unsent (.refl _), idle_of_same .nil rfl id⟩
  | directed program emitted grown => exact ⟨_, sent grown, idle_of_same .nil rfl id⟩
  | called target known => exact ⟨_, unsent (.refl _), idle_of_same .nil rfl id⟩
  | queued held => exact ⟨_, unsent (Journal.note_quiet rfl _).toTells, idle_of_same .nil rfl id⟩
  | reordered same => exact ⟨_, unsent (.refl _), idle_of_same .nil rfl id⟩
  | releases => exact ⟨_, unsent (.refl _), idle_of_same .nil rfl id⟩
  | taken releasing free first => exact ⟨_, unsent (Journal.releasing_tells _ _ _ _), idle_of_same .nil rfl id⟩
  | released done => exact ⟨_, unsent (.refl _), idle_of_same .nil rfl id⟩
  | unknown free missing => exact ⟨_, unsent (Journal.note_quiet rfl _).toTells, idle_of_same .nil rfl id⟩
  | refused free found unready =>
      exact ⟨_, unsent (Journal.note_quiet (Runner.refusal_isPlain _ _) _).toTells, idle_of_same .nil rfl id⟩
  | started free found waiting known program emitted grown opens =>
      obtain rfl := id_of_runner? found
      exact ⟨_, sent grown, conduct_of_start found waiting rfl rfl⟩
  | @passed m r n x ch free found waiting grown opens =>
      obtain rfl := id_of_runner? found
      have finish : Silent runner node [.programFinished x.id n []] := .of_topics (by simp [StoryEvent.topic])
      exact ⟨_, sent grown, conduct_of_pass found waiting rfl finish nofun⟩
  | jammed free busy found waiting grown =>
      obtain rfl := id_of_runner? found
      exact ⟨_, sent grown, conduct_of_pass found waiting rfl .nil id⟩
  | resumed program emitted topics grown =>
      exact ⟨_, sent grown, idle_of_same (.of_triggers topics) rfl id⟩
  | finished active found program emitted topics grown =>
      obtain rfl := id_of_runner? found
      exact ⟨_, sent grown,
        conduct_of_end found rfl (.of_triggers topics) (.of_topics (by simp [StoryEvent.topic])) nofun⟩
  | @branched m r n target board i ch triggers active program emitted topics grown =>
      have jump : Silent runner node [.jumpRequested r n board target] := .of_topics (by simp [StoryEvent.topic])
      exact ⟨_, sent grown, idle_of_same ((Silent.of_triggers topics).append jump) rfl nofun⟩
  | orphaned free busy program emitted topics grown =>
      exact ⟨_, sent grown, idle_of_same (.of_triggers topics) rfl id⟩
  | batch => exact ⟨_, unsent (.refl _), idle_of_same .nil rfl id⟩
  | delivered first found made =>
      obtain ⟨alike, statuses, quiet⟩ := Runner.deliver_made made
      refine ⟨_, unsent quiet.toTells, .idle .nil ?_ id⟩
      exact statusOf?_putRunner_of_statuses (found_self found) alike statuses _ runner node
  | cleared found inactive grown =>
      exact ⟨_, sent grown, conduct_of_lone_end found rfl id⟩
  | originEnded jump back found grown =>
      obtain rfl := id_of_runner? found
      exact ⟨_, sent grown, conduct_of_lone_end found rfl id⟩
  | settled first other heard => exact ⟨_, unsent (.refl _), idle_of_same .nil rfl id⟩
  | jumpSettled jump ended => exact ⟨_, unsent (.refl _), idle_of_same .nil rfl id⟩
  | published asked grown => exact ⟨_, sent grown, idle_of_same (follows.silent _ asked) rfl id⟩
  | requested asked => exact ⟨_, unsent (Journal.note_quiet rfl _).toTells, idle_of_same .nil rfl id⟩
  | observes asked => exact ⟨_, unsent (Channel.subscribe_rewired _ _ _).journal.toTells, idle_of_same .nil rfl id⟩
  | stopsObserving asked =>
      exact ⟨_, unsent (Channel.unsubscribe_rewired _ _).journal.toTells, idle_of_same .nil rfl id⟩
  | @joined m x y ready ch asked fresh made =>
      refine ⟨_, unsent ((Runner.setUp_made made).2.2.2.note rfl).journal.toTells, .idle .nil ?_ id⟩
      have other : runner ≠ y.id := by
        intro same
        rw [same, statusOf?, fresh] at known
        cases known
      unfold statusOf?
      rw [runner?_insertRunner fresh, if_neg other]
  | @parted m gone x asked found idle =>
      refine ⟨_, unsent ((Runner.takeDown_rewired _ _).note rfl).journal.toTells, .idle .nil ?_ id⟩
      have other : runner ≠ gone := fun same => follows.stays (same ▸ asked)
      exact congrArg (·.bind (·.statusOf? node)) (runner?_filter other)
  | restored asked member found made => exact absurd asked (follows.keeps _)
  | forgotten asked => exact absurd asked (follows.keeps _)

end Scene

end Plotline
