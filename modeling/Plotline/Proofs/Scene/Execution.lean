import Plotline.Proofs.Scene.Perform
import Plotline.Proofs.Story.Event

/-!
The node that is executing is in progress, and it is not completed before its program ends. This fails in one case
only: when a jump starts the very node that asked for it, the node is completed as the origin of the jump although
it is active again. A node that is not repeatable cannot be brought back in this way.
-/

namespace Plotline.Scene

/-- The node is in progress, and it has not been completed since it was started. -/
structure Unbroken (s : Scene) (runner : RunnerId) (node : NodeId) : Prop where
  status : s.statusOf? runner node = some .inProgress
  unended : Unended runner node s.channel.journal.published

/-- The node that is executing, if there is one, is unbroken. -/
def Intact (s : Scene) : Prop := ∀ runner node, s.active = some (runner, node) → s.Unbroken runner node

/-- The node has started, and it is not executing any more. -/
structure Past (s : Scene) (runner : RunnerId) (node : NodeId) : Prop where
  status : ∃ status, s.statusOf? runner node = some status ∧ status ≠ .notStarted
  inactive : s.active ≠ some (runner, node)

theorem Unbroken.mono {s s' : Scene} {runner : RunnerId} {node : NodeId} (unbroken : s.Unbroken runner node)
    (status : s'.statusOf? runner node = some .inProgress) {events : List StoryEvent}
    {granted : List (List Reward)} (grown : s.channel.journal.Tells events granted s'.channel.journal)
    (other : ∀ event ∈ events, event.completes runner node = false) : s'.Unbroken runner node := by
  refine ⟨status, ?_⟩
  rw [grown.published]
  exact unbroken.unended.append other

/-! ### Changes to one node -/

/-- Of all nodes the status of at most the named one has changed. -/
structure Touches (runner : RunnerId) (node : NodeId) (s s' : Scene) : Prop where
  status : ∀ r n, (r, n) ≠ (runner, node) → s'.statusOf? r n = s.statusOf? r n
  repeats : ∀ r n, s'.repeats r n = s.repeats r n

theorem repeats_putRunner {s : Scene} {x y : Runner} (found : s.runner? x.id = some x) (alike : x.Alike y)
    (ch : Channel) (runner : RunnerId) (node : NodeId) :
    (s.putRunner y ch).repeats runner node = s.repeats runner node := by
  unfold repeats
  rw [runner?_putRunner found alike.id]
  by_cases same : runner = x.id
  · rw [if_pos same, same, found, Option.map_some, Option.map_some, alike.repeats]
  · rw [if_neg same]

theorem putRunner_touches {s : Scene} {x y : Runner} {node : NodeId} (found : s.runner? x.id = some x)
    (alike : x.Alike y) (others : ∀ other, other ≠ node → y.statusOf? other = x.statusOf? other) (ch : Channel) :
    Touches x.id node s (s.putRunner y ch) := by
  refine ⟨?_, repeats_putRunner found alike ch⟩
  intro r n different
  rw [statusOf?_putRunner found alike.id]
  by_cases same : r = x.id
  · have other : n ≠ node := fun equal => different (by rw [same, equal])
    rw [if_pos same, others n other, same, statusOf?_of_runner? found]
  · rw [if_neg same]

theorem Past.mono {s s' : Scene} {runner r : RunnerId} {node n : NodeId} (past : s.Past r n)
    (touches : Touches runner node s s') (different : (r, n) ≠ (runner, node)) (inactive : s'.active ≠ some (r, n)) :
    s'.Past r n := by
  obtain ⟨status, known, begun⟩ := past.status
  exact ⟨⟨status, (touches.status r n different).trans known, begun⟩, inactive⟩

theorem afterEnd_touches {s : Scene} {x : Runner} (found : s.runner? x.id = some x) (node : NodeId) (ch : Channel) :
    Touches x.id node s (s.putRunner (x.afterEnd node) ch) :=
  putRunner_touches found (x.afterEnd_alike node) (fun _ other => x.statusOf?_afterEnd_of_ne other) ch

theorem statusOf?_afterEnd {s : Scene} {x : Runner} (found : s.runner? x.id = some x) (node : NodeId) (ch : Channel) :
    (s.putRunner (x.afterEnd node) ch).statusOf? x.id node = (x.afterEnd node).statusOf? node := by
  rw [statusOf?_putRunner found (x.afterEnd_alike node).id, if_pos rfl]

/-- A node that is past stays so when a node ends, unless it is repeatable. -/
theorem Past.afterEnd {s : Scene} {x : Runner} {r : RunnerId} {n : NodeId} (past : s.Past r n)
    (once : s.repeats r n = false) (found : s.runner? x.id = some x) (node : NodeId) (ch : Channel) :
    (s.putRunner (x.afterEnd node) ch).Past r n := by
  by_cases same : (r, n) = (x.id, node)
  · obtain ⟨rfl, rfl⟩ := Prod.mk.inj same
    refine ⟨?_, past.inactive⟩
    rw [statusOf?_afterEnd found]
    by_cases running : x.statusOf? n = some .inProgress
    · have never : x.repeats n = false := by
        unfold repeats at once
        rw [found] at once
        exact once
      rw [Runner.statusOf?_afterEnd running, never]
      exact ⟨.completed, rfl, nofun⟩
    · rw [Runner.afterEnd_eq_self running, ← statusOf?_of_runner? found]
      exact past.status
  · exact past.mono (afterEnd_touches found node ch) same past.inactive

private theorem not_past_of_waiting {s : Scene} {x : Runner} {node : NodeId} (found : s.runner? x.id = some x)
    (waiting : x.statusOf? node = some .notStarted) : ¬ s.Past x.id node := by
  intro past
  obtain ⟨status, known, begun⟩ := past.status
  rw [statusOf?_of_runner? found, waiting] at known
  exact begun (Option.some.inj known).symm

theorem completes_endNews {x : Runner} {node n : NodeId} {r : RunnerId} (different : (r, n) ≠ (x.id, node)) :
    ∀ event ∈ x.endNews node, event.completes r n = false := by
  intro event member
  rw [Runner.eq_of_mem_endNews member]
  unfold StoryEvent.completes
  by_cases same : x.id = r
  · have other : node ≠ n := fun equal => different (by rw [same, equal])
    simp [other]
  · simp [same]

/-! ### One step -/

/-- An event that neither completes a node nor asks for a jump. -/
private def Plain (event : StoryEvent) : Prop := event.topic ≠ .nodeCompleted ∧ event.topic ≠ .jumpRequested

private theorem Plain.completes {event : StoryEvent} (plain : Plain event) (runner : RunnerId) (node : NodeId) :
    event.completes runner node = false := by
  cases event <;> first | rfl | exact absurd rfl plain.1

private theorem plain_of_trigger {event : StoryEvent} (trigger : event.topic = .triggerRequested) : Plain event := by
  unfold Plain
  rw [trigger]
  decide

private theorem plain_of_world {event : StoryEvent} (plays : (Operation.publish event).Plays) : Plain event := by
  cases event <;> first | exact False.elim plays | simp [Plain, StoryEvent.topic]

private theorem jump_endNews (x : Runner) (node : NodeId) :
    ∀ event ∈ x.endNews node, event.topic ≠ .jumpRequested := by
  intro event member
  rw [Runner.eq_of_mem_endNews member]
  nofun

/-- The active node is unbroken, unless it may have been brought back; and the origin of every jump on its way is
past, unless it is repeatable. -/
structure Moment.Kept (returning : Prop) (m : Moment) : Prop where
  active : ∀ runner node, m.scene.active = some (runner, node) →
    (returning → m.scene.repeats runner node = false) → m.scene.Unbroken runner node
  origin : ∀ runner node board target,
    .jumpRequested runner node board target ∈ m.due ++ m.scene.channel.bus.queue →
      m.scene.repeats runner node = false → m.scene.Past runner node

namespace Moment.Kept

variable {returning : Prop} {m m' : Moment} {events : List StoryEvent} {granted : List (List Reward)}

private theorem jump_of_grows {due : List StoryEvent} {ch ch' : Channel} (grown : ch.Grows events granted ch')
    (noJump : ∀ event ∈ events, event.topic ≠ .jumpRequested) {event : StoryEvent}
    (jump : event.topic = .jumpRequested) (member : event ∈ due ++ ch'.bus.queue) : event ∈ due ++ ch.bus.queue := by
  rw [grown.queue, ← List.append_assoc] at member
  rcases List.mem_append.mp member with old | new
  · exact old
  · exact absurd jump (noJump event new)

/-- What is known of nodes has not changed, and no jump has been added. -/
private theorem mono (kept : m.Kept returning) (active : m'.scene.active = m.scene.active)
    (status : ∀ r n status, m.scene.statusOf? r n = some status → m'.scene.statusOf? r n = some status)
    (repeats : ∀ r n, m'.scene.repeats r n = false → m.scene.repeats r n = false)
    (grown : m.scene.channel.journal.Tells events granted m'.scene.channel.journal)
    (plain : ∀ event ∈ events, Plain event)
    (jumps : ∀ event : StoryEvent, event.topic = .jumpRequested → event ∈ m'.due ++ m'.scene.channel.bus.queue →
      event ∈ m.due ++ m.scene.channel.bus.queue) : m'.Kept returning := by
  refine ⟨?_, ?_⟩
  · intro r n executing once
    have unbroken := kept.active r n (active ▸ executing) fun back => repeats r n (once back)
    exact unbroken.mono (status r n _ unbroken.status) grown fun event member => (plain event member).completes r n
  · intro r n board target member once
    obtain ⟨⟨old, known, begun⟩, inactive⟩ :=
      kept.origin r n board target (jumps _ rfl member) (repeats r n once)
    exact ⟨⟨old, status r n old known, begun⟩, active ▸ inactive⟩

private theorem grows (kept : m.Kept returning) (active : m'.scene.active = m.scene.active)
    (status : ∀ r n status, m.scene.statusOf? r n = some status → m'.scene.statusOf? r n = some status)
    (repeats : ∀ r n, m'.scene.repeats r n = false → m.scene.repeats r n = false) (due : m'.due = m.due)
    (grown : m.scene.channel.Grows events granted m'.scene.channel) (plain : ∀ event ∈ events, Plain event) :
    m'.Kept returning := by
  refine kept.mono active status repeats grown.journal.toTells plain ?_
  intro event jump member
  rw [due] at member
  exact jump_of_grows grown (fun event member => (plain event member).2) jump member

private theorem quietly (kept : m.Kept returning) (active : m'.scene.active = m.scene.active)
    (runners : m'.scene.runners = m.scene.runners) (due : m'.due = m.due)
    (quiet : m.scene.channel.Quiet m'.scene.channel) : m'.Kept returning := by
  refine kept.grows active ?_ ?_ due quiet (List.forall_mem_nil _)
  · intro r n status known
    rwa [statusOf?, runner?, runners]
  · intro r n once
    rwa [Scene.repeats, runner?, runners] at once

/-- Only the named node has changed. -/
private theorem origin_of_touches (kept : m.Kept returning) {runner : RunnerId} {node : NodeId}
    (touches : Touches runner node m.scene m'.scene) (due : m'.due = m.due)
    (grown : m.scene.channel.Grows events granted m'.scene.channel)
    (noJump : ∀ event ∈ events, event.topic ≠ .jumpRequested)
    (inactive : ∀ r n, (r, n) ≠ (runner, node) → m.scene.active ≠ some (r, n) → m'.scene.active ≠ some (r, n))
    (here : m.scene.Past runner node → m.scene.repeats runner node = false → m'.scene.Past runner node)
    (r : RunnerId) (n : NodeId) (board : StoryboardName) (target : NodeId)
    (member : .jumpRequested r n board target ∈ m'.due ++ m'.scene.channel.bus.queue)
    (once : m'.scene.repeats r n = false) : m'.scene.Past r n := by
  rw [due] at member
  rw [touches.repeats] at once
  have past := kept.origin r n board target (jump_of_grows grown noJump rfl member) once
  by_cases same : (r, n) = (runner, node)
  · obtain ⟨rfl, rfl⟩ := Prod.mk.inj same
    exact here past once
  · exact past.mono touches same (inactive r n same past.inactive)

/-- The node that starts has not started before, so that it is the origin of no jump. -/
private theorem started (kept : m.Kept returning) {x : Runner} {node : NodeId}
    (found : m.scene.runner? x.id = some x) (waiting : x.statusOf? node = some .notStarted) {i : Interpreter}
    {ch : Channel} (grown : m.scene.channel.Grows [.nodeStarted x.id x.storyboard.name node] [] ch) :
    Moment.Kept returning
      { m with
        scene :=
          { m.scene.putRunner (x.setStatus node .inProgress) ch with
            interpreter := i
            active := some (x.id, node) } } := by
  have alike := Runner.alike_setStatus (Runner.contains_of_status waiting) .inProgress
  have touches : Touches x.id node m.scene (m.scene.putRunner (x.setStatus node .inProgress) ch) :=
    putRunner_touches found alike (fun other different => by
      rw [Runner.statusOf?_setStatus, if_neg different]) ch
  refine ⟨?_, kept.origin_of_touches ⟨touches.status, touches.repeats⟩ rfl grown ?_ ?_ ?_⟩
  · intro r n active _
    cases active
    have status : (m.scene.putRunner (x.setStatus node .inProgress) ch).statusOf? x.id node = some .inProgress := by
      rw [statusOf?_putRunner found alike.id, if_pos rfl, Runner.statusOf?_setStatus, if_pos rfl]
    have unended : Unended x.id node ch.journal.published := by
      rw [grown.journal.published]
      exact Unended.started _ _
    exact ⟨status, unended⟩
  · intro event member
    rw [List.mem_singleton.mp member]
    nofun
  · intro r n different _ active
    exact different (Option.some.inj active).symm
  · intro past _
    exact absurd past (not_past_of_waiting found waiting)

/-- So is a node that has started and ended at once. -/
private theorem passed (kept : m.Kept returning) (free : m'.scene.active = none) {x : Runner} {node : NodeId}
    (found : m.scene.runner? x.id = some x) (waiting : x.statusOf? node = some .notStarted)
    (runners : m'.scene.runners =
      (m.scene.putRunner ((x.setStatus node .inProgress).afterEnd node) m'.scene.channel).runners)
    (due : m'.due = m.due) (grown : m.scene.channel.Grows events granted m'.scene.channel)
    (noJump : ∀ event ∈ events, event.topic ≠ .jumpRequested) : m'.Kept returning := by
  have begun := Runner.alike_setStatus (Runner.contains_of_status waiting) .inProgress
  have put : Touches x.id node m.scene
      (m.scene.putRunner ((x.setStatus node .inProgress).afterEnd node) m'.scene.channel) :=
    putRunner_touches found (begun.trans (Runner.afterEnd_alike node _)) (fun other different => by
      rw [Runner.statusOf?_afterEnd_of_ne _ different, Runner.statusOf?_setStatus, if_neg different]) _
  have touches : Touches x.id node m.scene m'.scene := by
    constructor
    · intro r n different
      rw [← put.status r n different]
      unfold statusOf? runner?
      rw [runners]
    · intro r n
      rw [← put.repeats r n]
      unfold Scene.repeats runner?
      rw [runners]
  refine ⟨?_, kept.origin_of_touches touches due grown noJump ?_ ?_⟩
  · intro r n active
    cases free.symm.trans active
  · intro r n _ _ active
    cases free.symm.trans active
  · intro past _
    exact absurd past (not_past_of_waiting found waiting)

/-- The active node was no origin of a jump, and now none is active. -/
private theorem finished (kept : m.Kept returning) {x : Runner} {node : NodeId}
    (active : m.scene.active = some (x.id, node)) (found : m.scene.runner? x.id = some x) {rewards : List Reward}
    {i : Interpreter} {ch : Channel} {triggers : List StoryEvent}
    (topics : ∀ event ∈ triggers, event.topic = .triggerRequested)
    (grown : m.scene.channel.Grows (triggers ++ x.endNews node ++ [.programFinished x.id node rewards]) granted ch) :
    Moment.Kept returning
      { m with
        scene := { m.scene.putRunner (x.afterEnd node) ch with interpreter := i, active := none }
        releasing := true } := by
  have touches := afterEnd_touches found node ch
  refine ⟨nofun, kept.origin_of_touches ⟨touches.status, touches.repeats⟩ rfl grown ?_ ?_ ?_⟩
  · intro event member
    rcases List.mem_append.mp member with earlier | last
    · rcases List.mem_append.mp earlier with trigger | news
      · rw [topics event trigger]
        nofun
      · exact jump_endNews x node event news
    · rw [List.mem_singleton.mp last]
      nofun
  · exact fun _ _ _ _ => nofun
  · intro past _
    exact absurd active past.inactive

/-- A node has ended that is not executing, unless it was brought back. -/
private theorem ended (kept : m.Kept returning) {x : Runner} {node : NodeId}
    (found : m.scene.runner? x.id = some x) {ch : Channel} (grown : m.scene.channel.Grows (x.endNews node) [] ch)
    (back : m.scene.active = some (x.id, node) →
      returning ∧ ∃ board target, .jumpRequested x.id node board target ∈ m.due) :
    Moment.Kept returning { m with scene := m.scene.putRunner (x.afterEnd node) ch } := by
  have touches := afterEnd_touches found node ch
  refine ⟨?_, kept.origin_of_touches touches rfl grown (jump_endNews x node) (fun _ _ _ => id) ?_⟩
  · intro r n executing once
    rw [touches.repeats] at once
    have unbroken := kept.active r n executing once
    by_cases same : (r, n) = (x.id, node)
    · obtain ⟨rfl, rfl⟩ := Prod.mk.inj same
      obtain ⟨returns, board, target, jump⟩ := back executing
      have past := kept.origin _ _ board target (List.mem_append_left _ jump) (once returns)
      exact absurd executing past.inactive
    · exact unbroken.mono ((touches.status r n same).trans unbroken.status) grown.journal.toTells
        (completes_endNews same)
  · intro past once
    exact past.afterEnd once found node ch

/-- The active node is in progress when it branches, so that it is past from then on. -/
private theorem branched (kept : m.Kept returning) {runner : RunnerId} {node target : NodeId}
    {board : StoryboardName} {i : Interpreter} {ch : Channel} {triggers : List StoryEvent}
    (active : m.scene.active = some (runner, node)) (topics : ∀ event ∈ triggers, event.topic = .triggerRequested)
    (grown : m.scene.channel.Grows (triggers ++ [.jumpRequested runner node board target]) [] ch) :
    Moment.Kept returning { m with scene := { m.scene with interpreter := i, channel := ch, active := none } } := by
  refine ⟨nofun, ?_⟩
  intro r n board' target' member once
  have sources : StoryEvent.jumpRequested r n board' target' ∈
      (m.due ++ m.scene.channel.bus.queue) ++ triggers ++ [.jumpRequested runner node board target] := by
    rw [List.append_assoc, List.append_assoc, ← grown.queue]
    exact member
  rcases List.mem_append.mp sources with earlier | new
  · rcases List.mem_append.mp earlier with old | trigger
    · exact ⟨(kept.origin r n board' target' old once).status, nofun⟩
    · cases topics _ trigger
  · cases List.mem_singleton.mp new
    exact ⟨⟨.inProgress, (kept.active _ _ active fun _ => once).status, nofun⟩, nofun⟩

private theorem joined (kept : m.Kept returning) {y : Runner} (fresh : m.scene.runner? y.id = none) {ch : Channel}
    (rewired : m.scene.channel.Rewired ch) :
    Moment.Kept returning
      { m with scene := { m.scene with runners := insertRunner y m.scene.runners, channel := ch } } := by
  have looked := runner?_insertRunner fresh ch
  refine kept.mono rfl ?_ ?_ rewired.journal.toTells (List.forall_mem_nil _) ?_
  · intro r n status known
    have other : r ≠ y.id := by
      intro same
      rw [same, statusOf?, fresh] at known
      cases known
    unfold statusOf?
    rw [looked r, if_neg other]
    exact known
  · intro r n once
    by_cases same : r = y.id
    · rw [Scene.repeats, same, fresh]
      rfl
    · unfold Scene.repeats at once
      rw [looked r, if_neg same] at once
      exact once
  · intro event _ member
    dsimp only at member
    rw [rewired.queue] at member
    exact member

end Moment.Kept

theorem Step.kept {op : Operation} {returning : Prop} {t t' : Turn} (step : Step op returning False t t')
    (plays : op.Plays) (kept : t.Kept returning) : t'.Kept returning := by
  have nothing : ∀ event ∈ ([] : List StoryEvent), Plain event := List.forall_mem_nil _
  cases step with
  | quiet grown => exact kept.quietly rfl rfl rfl grown
  | kickstarted => exact kept.quietly rfl rfl rfl (.refl _)
  | directed program emitted grown => exact kept.quietly rfl rfl rfl grown
  | called target known => exact kept
  | queued held => exact kept.quietly rfl rfl rfl (Channel.note_quiet rfl _)
  | reordered same => exact kept.quietly rfl rfl rfl (.refl _)
  | releases => exact kept.quietly rfl rfl rfl (.refl _)
  | taken releasing free first =>
      exact kept.mono rfl (fun _ _ _ => id) (fun _ _ => id) (Journal.releasing_tells _ _ _ _) nothing
        fun _ _ => id
  | released done => exact kept.quietly rfl rfl rfl (.refl _)
  | unknown free missing => exact kept.quietly rfl rfl rfl (Channel.note_quiet rfl _)
  | refused free found unready => exact kept.quietly rfl rfl rfl (Channel.note_quiet (Runner.refusal_isPlain _ _) _)
  | started free found waiting known program emitted grown opens =>
      obtain rfl := id_of_runner? found
      exact kept.started found waiting grown
  | passed free found waiting grown opens =>
      obtain rfl := id_of_runner? found
      exact kept.passed rfl found waiting rfl rfl grown (by simp [StoryEvent.topic])
  | jammed free busy found waiting grown =>
      obtain rfl := id_of_runner? found
      exact kept.passed (free.resolve_right id) found waiting rfl rfl grown (by simp [StoryEvent.topic])
  | resumed program emitted topics grown =>
      exact kept.grows rfl (fun _ _ _ => id) (fun _ _ => id) rfl grown fun event member =>
        plain_of_trigger (topics event member)
  | finished active found program emitted topics grown =>
      obtain rfl := id_of_runner? found
      exact kept.finished active found topics grown
  | branched active program emitted topics grown => exact kept.branched active topics grown
  | orphaned free busy program emitted topics grown =>
      exact kept.grows rfl (fun _ _ _ => id) (fun _ _ => id) rfl grown fun event member =>
        plain_of_trigger (topics event member)
  | @batch m =>
      refine kept.mono rfl (fun _ _ _ => id) (fun _ _ => id) (.refl _) nothing ?_
      intro event _ member
      have whole : event ∈ (m.due ++ m.scene.channel.bus.queue) ++ [] := member
      rwa [List.append_nil] at whole
  | delivered first found made =>
      obtain ⟨alike, statuses, quiet⟩ := Runner.deliver_made made
      refine kept.grows rfl ?_ ?_ rfl (Channel.journal_quiet _ quiet) nothing
      · intro r n status known
        exact (statusOf?_putRunner_of_statuses (found_self found) alike statuses _ r n).trans known
      · intro r n once
        exact (repeats_putRunner (found_self found) alike _ r n).symm.trans once
  | cleared found inactive grown => exact kept.ended found grown fun active => absurd active inactive
  | @originEnded m runner node target board rest x ch jump back found grown =>
      obtain rfl := id_of_runner? found
      refine kept.ended found grown fun active => ⟨back active, board, target, ?_⟩
      dsimp only
      rw [jump]
      exact List.mem_cons_self
  | settled first other heard =>
      refine kept.mono rfl (fun _ _ _ => id) (fun _ _ => id) (.refl _) nothing ?_
      intro event _ member
      dsimp only
      rw [first]
      exact List.mem_cons_of_mem _ member
  | jumpSettled jump ended =>
      refine kept.mono rfl (fun _ _ _ => id) (fun _ _ => id) (.refl _) nothing ?_
      intro event _ member
      dsimp only
      rw [jump]
      exact List.mem_cons_of_mem _ member
  | published asked grown =>
      subst asked
      refine kept.grows rfl (fun _ _ _ => id) (fun _ _ => id) rfl grown ?_
      intro event member
      rw [List.mem_singleton.mp member]
      exact plain_of_world plays
  | requested asked => exact kept.quietly rfl rfl rfl (Channel.note_quiet rfl _)
  | joined asked fresh made => exact kept.joined fresh ((Runner.setUp_made made).2.2.2.note rfl)
  | observes asked =>
      subst asked
      exact False.elim plays
  | stopsObserving asked =>
      subst asked
      exact False.elim plays
  | parted asked found idle =>
      subst asked
      exact False.elim plays
  | restored asked member found made =>
      subst asked
      exact False.elim plays
  | forgotten asked =>
      subst asked
      exact False.elim plays

end Plotline.Scene
