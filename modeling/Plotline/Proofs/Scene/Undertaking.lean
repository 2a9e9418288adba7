import Plotline.Proofs.Runner.Status
import Plotline.Proofs.Scene.Perform

/-!
What a scene undertakes when nodes are requested and waiting requests are released, seen from the scene before: the nodes
that have begun since had not started, every other one is as it was, and a node that held the gate holds it still.
-/

namespace Plotline.Scene

variable {b s s' : Scene} {runner : RunnerId} {node : NodeId}

/-- What the scene has published since it was `b`. -/
def since (b s : Scene) : List StoryEvent :=
  s.channel.journal.published.drop b.channel.journal.published.length

/-- The node has begun since the scene was `b`. -/
def HasBegun (b s : Scene) (runner : RunnerId) (node : NodeId) : Prop :=
  ∃ board, .nodeStarted runner board node ∈ b.since s

/-- Since the scene was `b`, nodes have been requested and begun, and nothing else has happened. -/
structure Undertakes (b s : Scene) : Prop where
  grown : ∃ events, s.channel.journal.published = b.channel.journal.published ++ events
  held : b.isEventRunning = true → s.active = b.active
  untouched : ∀ runner node, ¬ b.HasBegun s runner node → s.statusOf? runner node = b.statusOf? runner node
  waited : ∀ runner node, b.HasBegun s runner node → b.statusOf? runner node = some .notStarted
  running : ∀ runner node, b.HasBegun s runner node →
    (s.statusOf? runner node = some .inProgress ↔ s.active = some (runner, node))
  asked : ∀ request ∈ s.pending, b.statusOf? request.runner request.node = some .notStarted

theorem not_begun_self (b : Scene) (runner : RunnerId) (node : NodeId) : ¬ b.HasBegun b runner node := by
  rintro ⟨board, member⟩
  rw [since, List.drop_length] at member
  cases member

theorem Undertakes.refl (asked : ∀ request ∈ b.pending, b.statusOf? request.runner request.node = some .notStarted) :
    Undertakes b b where
  grown := ⟨[], (List.append_nil _).symm⟩
  held _ := rfl
  untouched _ _ _ := rfl
  waited runner node begun := absurd begun (b.not_begun_self runner node)
  running runner node begun := absurd begun (b.not_begun_self runner node)
  asked := asked

namespace Undertakes

variable {events : List StoryEvent}

private theorem begun_iff (undertakes : Undertakes b s)
    (published : s'.channel.journal.published = s.channel.journal.published ++ events) (runner : RunnerId)
    (node : NodeId) :
    b.HasBegun s' runner node ↔ b.HasBegun s runner node ∨ ∃ board, .nodeStarted runner board node ∈ events := by
  obtain ⟨earlier, grown⟩ := undertakes.grown
  have first : b.since s = earlier := by
    unfold since
    rw [grown, List.drop_left]
  have both : b.since s' = earlier ++ events := by
    unfold since
    rw [published, grown, List.append_assoc, List.drop_left]
  unfold HasBegun
  rw [first, both]
  simp only [List.mem_append]
  exact exists_or

private theorem grownOn (undertakes : Undertakes b s)
    (published : s'.channel.journal.published = s.channel.journal.published ++ events) :
    ∃ events, s'.channel.journal.published = b.channel.journal.published ++ events := by
  obtain ⟨earlier, grown⟩ := undertakes.grown
  refine ⟨earlier ++ events, ?_⟩
  rw [published, grown, List.append_assoc]

private theorem published_note {n : Note} (plain : n.isPlain = true) (ch : Channel) :
    (ch.note n).journal.published = ch.journal.published := by
  simpa using (Channel.note_quiet plain ch).journal.published

/-- Only requests and the log have changed. -/
private theorem quietly (undertakes : Undertakes b s)
    (published : s'.channel.journal.published = s.channel.journal.published) (active : s'.active = s.active)
    (runners : s'.runners = s.runners)
    (asked : ∀ request ∈ s'.pending, b.statusOf? request.runner request.node = some .notStarted) :
    Undertakes b s' := by
  have same : ∀ runner node, b.HasBegun s' runner node ↔ b.HasBegun s runner node := by
    intro runner node
    rw [undertakes.begun_iff (published.trans (List.append_nil _).symm)]
    simp
  have status : ∀ runner node, s'.statusOf? runner node = s.statusOf? runner node := by
    intro runner node
    unfold statusOf? runner?
    rw [runners]
  refine ⟨undertakes.grownOn (published.trans (List.append_nil _).symm), ?_, ?_, ?_, ?_, asked⟩
  · intro held
    exact active.trans (undertakes.held held)
  · intro runner node idle
    rw [status]
    exact undertakes.untouched runner node (mt (same runner node).mpr idle)
  · intro runner node begun
    exact undertakes.waited runner node ((same runner node).mp begun)
  · intro runner node begun
    rw [status, active]
    exact undertakes.running runner node ((same runner node).mp begun)

/-- One node begins while none is active; it holds the gate exactly if it is in progress then. -/
private theorem begins (undertakes : Undertakes b s) (free : s.active = none)
    (waiting : s.statusOf? runner node = some .notStarted)
    (published : s'.channel.journal.published = s.channel.journal.published ++ events)
    (starts : ∀ r n, (∃ board, .nodeStarted r board n ∈ events) ↔ (r, n) = (runner, node)) {status : NodeStatus}
    (statuses : ∀ r n, s'.statusOf? r n = if (r, n) = (runner, node) then some status else s.statusOf? r n)
    (gate : ∀ r n, s'.active = some (r, n) ↔ (r, n) = (runner, node) ∧ status = .inProgress)
    (pending : s'.pending = s.pending) : Undertakes b s' := by
  have begun := undertakes.begun_iff published
  refine ⟨undertakes.grownOn published, ?_, ?_, ?_, ?_, ?_⟩
  · intro held
    have same := undertakes.held held
    rw [isEventRunning, ← same, free] at held
    cases held
  · intro r n idle
    obtain ⟨before, now⟩ := not_or.mp (mt (begun r n).mpr idle)
    rw [statuses, if_neg (mt (starts r n).mpr now)]
    exact undertakes.untouched r n before
  · intro r n hasBegun
    rcases Classical.em (b.HasBegun s r n) with before | new
    · exact undertakes.waited r n before
    · cases (starts r n).mp (((begun r n).mp hasBegun).resolve_left new)
      rw [← undertakes.untouched runner node new]
      exact waiting
  · intro r n hasBegun
    rw [statuses, gate]
    by_cases here : (r, n) = (runner, node)
    · rw [if_pos here]
      exact ⟨fun same => ⟨here, Option.some.inj same⟩, fun both => congrArg some both.2⟩
    · rw [if_neg here]
      have before := ((begun r n).mp hasBegun).resolve_right (mt (starts r n).mp here)
      refine ⟨fun running => ?_, fun both => absurd both.1 here⟩
      cases free.symm.trans ((undertakes.running r n before).mp running)
  · rw [pending]
    exact undertakes.asked

/-- Only one node of a runner has changed its status. -/
private theorem statusOf?_of_touch {x y : Runner} (found : s.runner? x.id = some x) (alike : x.Alike y)
    {status : NodeStatus}
    (touched : ∀ other, y.statusOf? other = if other = node then some status else x.statusOf? other)
    (runners : s'.runners = (s.putRunner y s.channel).runners) (r : RunnerId) (n : NodeId) :
    s'.statusOf? r n = if (r, n) = (x.id, node) then some status else s.statusOf? r n := by
  rw [statusOf?_of_put found alike runners]
  by_cases here : r = x.id
  · subst here
    rw [if_pos rfl, touched, ← statusOf?_of_runner? found]
    by_cases same : n = node <;> simp [same]
  · rw [if_neg here, if_neg fun same => here (Prod.mk.inj same).1]

/-- A node ends at once where it could not go on: its status is that of a node that has come to its end. -/
private theorem passes (undertakes : Undertakes b s) {x : Runner} (free : s.active = none)
    (found : s.runner? x.id = some x) (waiting : x.statusOf? node = some .notStarted)
    (published : s'.channel.journal.published = s.channel.journal.published ++ events)
    (starts : ∀ r n, (∃ board, .nodeStarted r board n ∈ events) ↔ (r, n) = (x.id, node))
    (runners : s'.runners = (s.putRunner ((x.setStatus node .inProgress).afterEnd node) s.channel).runners)
    (active : s'.active = none) (pending : s'.pending = s.pending) : Undertakes b s' := by
  refine undertakes.begins free ((statusOf?_of_runner? found node).trans waiting) published starts
    (statusOf?_of_touch found (passed_alike waiting) (Runner.statusOf?_passed waiting) runners) ?_ pending
  intro r n
  rw [active]
  exact ⟨nofun, fun both => absurd both.2 (x.endStatus_ne_inProgress node)⟩

theorem beginNode (undertakes : Undertakes b s) (coherent : s.Coherent) (free : s.active = none) (runner : RunnerId)
    (node : NodeId) : (s.beginNode runner node).2.Coherent ∧ Undertakes b (s.beginNode runner node).2 := by
  obtain ⟨begun, s', result, step⟩ : ∃ begun s', s.beginNode runner node = (begun, s') ∧
      Step .release False False ⟨⟨s, [], false⟩, some (runner, node)⟩
        ⟨⟨s', [], decide (begun = .ended) || false⟩, none⟩ :=
    beginNode_step coherent (Or.inl free) runner node
  rw [result]
  refine ⟨step.coherent coherent, ?_⟩
  generalize (decide (begun = .ended) || false) = releasing at step
  cases step with
  | queued held =>
      dsimp only at held
      rw [isEventRunning, free] at held
      cases held
  | unknown _ missing =>
      exact undertakes.quietly (published_note rfl s.channel) rfl rfl undertakes.asked
  | refused _ found unready =>
      exact undertakes.quietly (published_note (Runner.refusal_isPlain _ node) s.channel) rfl rfl undertakes.asked
  | @started _ _ _ x d i ch _ found waiting known program emitted grown opens =>
      obtain rfl := id_of_runner? found
      have alike := Runner.alike_setStatus (Runner.contains_of_status waiting) .inProgress
      refine undertakes.begins free ((statusOf?_of_runner? found node).trans waiting) grown.journal.published ?_
        (statusOf?_of_touch found alike (fun other => Runner.statusOf?_setStatus node other .inProgress x) rfl) ?_ rfl
      · simp
      · intro r n
        dsimp only
        simp [eq_comm]
  | passed _ found waiting grown opens =>
      obtain rfl := id_of_runner? found
      exact undertakes.passes free found waiting grown.journal.published (by simp) rfl rfl rfl
  | jammed _ busy found waiting grown =>
      obtain rfl := id_of_runner? found
      exact undertakes.passes free found waiting grown.journal.published (by simp) rfl free rfl

/-! ### Requests -/

theorem note (undertakes : Undertakes b s) {n : Note} (plain : n.isPlain = true) : Undertakes b (s.note n) :=
  undertakes.quietly (published_note plain s.channel) rfl rfl undertakes.asked

private theorem releaseAll (requests : List Request) (undertakes : Undertakes b s) (coherent : s.Coherent)
    (waiting : s.pending = requests) :
    (releaseAll requests s).Coherent ∧ Undertakes b (releaseAll requests s) := by
  induction requests generalizing s with
  | nil =>
      have same : { s with pending := [] } = s := by rw [← waiting]
      rw [Scene.releaseAll, same]
      exact ⟨coherent, undertakes⟩
  | cons request requests ih =>
      rw [Scene.releaseAll]
      by_cases running : s.isEventRunning = true
      · have same : { s with pending := request :: requests } = s := by rw [← waiting]
        rw [if_pos running, same]
        exact ⟨coherent, undertakes⟩
      · rw [if_neg running]
        have free : s.active = none := by simpa [isEventRunning] using running
        have taken : Undertakes b
            ({ s with pending := requests }.note (.releasing request.runner request.node request.sequence)) := by
          have told := (Journal.releasing_tells request.runner request.node request.sequence
            s.channel.journal).published
          rw [List.append_nil] at told
          refine undertakes.quietly told rfl rfl ?_
          intro other member
          exact undertakes.asked other (waiting ▸ List.mem_cons_of_mem request member)
        have coherentTaken : Coherent
            ({ s with pending := requests }.note (.releasing request.runner request.node request.sequence)) :=
          coherent.of_same coherent.attached coherent.emitted rfl rfl rfl
        obtain ⟨coherentNext, next⟩ := taken.beginNode coherentTaken free request.runner request.node
        exact ih next coherentNext (beginNode_pending _ _ _)

theorem release (undertakes : Undertakes b s) (coherent : s.Coherent) :
    s.release.Coherent ∧ Undertakes b s.release := by
  unfold Scene.release
  by_cases running : s.isEventRunning = true
  · rw [if_pos running]
    exact ⟨coherent, undertakes⟩
  · rw [if_neg running, ← releaseAll_pending s.releaseOrder s s.releaseOrder]
    refine releaseAll s.releaseOrder (undertakes.quietly rfl rfl rfl ?_)
      (coherent.of_same coherent.attached coherent.emitted rfl rfl rfl) rfl
    intro request member
    exact undertakes.asked request (s.releaseOrder_perm.mem_iff.mpr member)

/-- A node that had not started is requested. -/
theorem tryStart (undertakes : Undertakes b s) (coherent : s.Coherent)
    (waiting : b.statusOf? runner node = some .notStarted) :
    (s.tryStart runner node).Coherent ∧ Undertakes b (s.tryStart runner node) := by
  unfold Scene.tryStart
  by_cases running : s.isEventRunning = true
  · rw [if_pos running]
    refine ⟨coherent.of_same coherent.attached coherent.emitted rfl rfl rfl,
      undertakes.quietly (published_note rfl s.channel) rfl rfl ?_⟩
    intro request member
    rcases List.mem_append.mp member with before | new
    · exact undertakes.asked request before
    · obtain rfl := List.mem_singleton.mp new
      exact waiting
  · rw [if_neg running]
    have free : s.active = none := by simpa [isEventRunning] using running
    have begun := undertakes.beginNode coherent free runner node
    unfold startNode
    revert begun
    generalize s.beginNode runner node = result
    obtain ⟨begun, s'⟩ := result
    rintro ⟨coherentNext, next⟩
    cases begun with
    | refused => exact ⟨coherentNext, next⟩
    | running => exact ⟨coherentNext, next⟩
    | ended => exact next.release coherentNext

end Undertakes

end Plotline.Scene
