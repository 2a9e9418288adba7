import Plotline.Proofs.Interpreter.Resume
import Plotline.Proofs.Scene.Frame

/-!
Scheduling as a sequence of steps: beginning a node, releasing the requests that wait, and the requests that a
runner makes for its own nodes.
-/

namespace Plotline.Scene

variable {op : Operation} {returning past : Prop} {due : List StoryEvent} {releasing : Bool} {s : Scene}

theorem note_steps {n : Note} (plain : n.isPlain = true) :
    Steps op returning past ⟨s, due, releasing⟩ ⟨s.note n, due, releasing⟩ :=
  .single (.quiet (Channel.note_quiet plain s.channel))

/-- If each element leads on by steps, so do all of them in turn. The scene is what `view` shows of the state. -/
theorem foldl_steps {α β : Type} (view : β → Scene) {f : β → α → β} (elements : List α) (state : β)
    (coherent : (view state).Coherent) (step : ∀ state, ∀ element ∈ elements, (view state).Coherent →
      Steps op returning past ⟨view state, due, releasing⟩ ⟨view (f state element), due, releasing⟩) :
    Steps op returning past ⟨view state, due, releasing⟩ ⟨view (elements.foldl f state), due, releasing⟩ := by
  induction elements generalizing state with
  | nil => exact .refl
  | cons element elements ih =>
      have head := step state element List.mem_cons_self coherent
      have rest := ih (f state element) (Turns.coherent head coherent) fun state other member =>
        step state other (List.mem_cons_of_mem element member)
      exact head.trans rest

/-! ### Ending and beginning a node -/

theorem completeNode_found {runner : RunnerId} {x : Runner} (found : s.runner? runner = some x) (node : NodeId) :
    s.completeNode runner node = s.putRunner (x.afterEnd node) (x.completeNode node s.channel).2.2 := by
  have completed : s.completeNode runner node =
      s.putRunner (x.completeNode node s.channel).2.1 (x.completeNode node s.channel).2.2 := by
    unfold completeNode
    rw [found]
  rw [completed, Runner.completeNode_runner]

theorem close_found {runner : RunnerId} {x : Runner} (found : s.runner? runner = some x)
    (attached : s.channel.bus.attached = true) (node : NodeId) (rewards : List Reward) :
    ∃ ch, s.close runner node rewards = { s.putRunner (x.afterEnd node) ch with active := none } ∧
      s.channel.Grows (x.endNews node ++ [.programFinished runner node rewards])
        (if rewards.isEmpty then [] else [rewards]) ch := by
  have completed := completeNode_found (s := { s with active := none }) found node
  have grown := x.completeNode_grows node s.channel attached
  unfold close
  rw [completed]
  cases rewards with
  | nil =>
      have published := Channel.publish_grows (.programFinished runner node []) _ (grown.attached.trans attached)
      exact ⟨_, rfl, grown.trans published⟩
  | cons reward rewards =>
      have rewarded := Channel.rewards_grows (reward :: rewards) (x.completeNode node s.channel).2.2
      have published := Channel.publish_grows (.programFinished runner node (reward :: rewards)) _
        ((grown.trans rewarded).attached.trans attached)
      exact ⟨_, rfl, grown.trans (rewarded.trans published)⟩

private theorem endNews_begun (x : Runner) (node : NodeId) :
    (x.setStatus node .inProgress).endNews node = [.nodeCompleted x.id x.storyboard.name node] := by
  unfold Runner.endNews
  rw [Runner.statusOf?_setStatus, if_pos rfl, if_pos rfl]
  rfl

private theorem putRunner_begun (s : Scene) (x : Runner) (node : NodeId) (n : Note) (ch ch' : Channel) :
    ((s.putRunner (x.setStatus node .inProgress) ch).note n).putRunner
        ((x.setStatus node .inProgress).afterEnd node) ch' =
      s.putRunner ((x.setStatus node .inProgress).afterEnd node) ch' :=
  putRunner_putRunner (Runner.afterEnd_alike node _).id ch ch' s

/-- A node whose program is empty ends as soon as it has begun. -/
private theorem close_begun {x : Runner} (found : s.runner? x.id = some x) (node : NodeId) {ch : Channel}
    (attached : ch.bus.attached = true) :
    ∃ ch', ((s.putRunner (x.setStatus node .inProgress) ch).note (.emptyProgram x.id node)).close x.id node [] =
        { s.putRunner ((x.setStatus node .inProgress).afterEnd node) ch' with active := none } ∧
      ch.Grows [.nodeCompleted x.id x.storyboard.name node, .programFinished x.id node []] [] ch' := by
  have begun : ((s.putRunner (x.setStatus node .inProgress) ch).note (.emptyProgram x.id node)).runner? x.id =
      some (x.setStatus node .inProgress) := runner?_putRunner_self (y := x.setStatus node .inProgress) found rfl ch
  have noted := Channel.note_quiet (n := .emptyProgram x.id node) rfl ch
  obtain ⟨ch', closed, ended⟩ := close_found begun (noted.attached.trans attached) node []
  rw [endNews_begun] at ended
  refine ⟨ch', ?_, noted.trans ended⟩
  rw [closed]
  exact congrArg (fun s : Scene => { s with active := none }) (putRunner_begun s x node _ ch ch')

/-- A node that cannot run because another program is loaded is completed at once. -/
private theorem completeNode_begun {x : Runner} (found : s.runner? x.id = some x) (node : NodeId) {ch : Channel}
    (attached : ch.bus.attached = true) :
    ∃ ch', ((s.putRunner (x.setStatus node .inProgress) ch).note
        (.couldNotStart x.id node .interpreterBusy)).completeNode x.id node =
        s.putRunner ((x.setStatus node .inProgress).afterEnd node) ch' ∧
      ch.Grows [.nodeCompleted x.id x.storyboard.name node] [] ch' := by
  have begun : ((s.putRunner (x.setStatus node .inProgress) ch).note
      (.couldNotStart x.id node .interpreterBusy)).runner? x.id = some (x.setStatus node .inProgress) :=
    runner?_putRunner_self (y := x.setStatus node .inProgress) found rfl ch
  have noted := Channel.note_quiet (n := .couldNotStart x.id node .interpreterBusy) rfl ch
  have ended := (x.setStatus node .inProgress).completeNode_grows node _ (noted.attached.trans attached)
  rw [endNews_begun] at ended
  refine ⟨_, ?_, noted.trans ended⟩
  rw [completeNode_found begun]
  exact putRunner_begun s x node _ ch _

/-- What comes of beginning a node, whatever is active. -/
inductive Begins (s : Scene) (runner : RunnerId) (node : NodeId) : Begun → Scene → Prop
  | unknown (missing : s.runner? runner = none) :
      Begins s runner node .refused (s.note (.startForUnknownRunner runner node))
  | refused {x : Runner} (found : s.runner? runner = some x) (unready : x.statusOf? node ≠ some .notStarted) :
      Begins s runner node .refused (s.note (x.refusal node))
  | started {x : Runner} {d : Node} {ch : Channel} (found : s.runner? runner = some x)
      (waiting : x.statusOf? node = some .notStarted) (known : x.node? node = some d)
      (filled : d.program.isEmpty = false) (idle : s.interpreter.program = none)
      (grown : s.channel.Grows [.nodeStarted runner x.storyboard.name node] [] ch)
      (opens : Journal.Opens (.note (.published (.nodeStarted runner x.storyboard.name node)))
        s.channel.journal ch.journal) :
      Begins s runner node .running
        { s.putRunner (x.setStatus node .inProgress) ch with
          interpreter := s.interpreter.load d.program
          active := some (runner, node) }
  | passed {x : Runner} {d : Node} {ch : Channel} (found : s.runner? runner = some x)
      (waiting : x.statusOf? node = some .notStarted) (known : x.node? node = some d)
      (empty : d.program.isEmpty = true)
      (grown : s.channel.Grows
        [.nodeStarted runner x.storyboard.name node, .nodeCompleted runner x.storyboard.name node,
          .programFinished runner node []] [] ch)
      (opens : Journal.Opens (.note (.published (.nodeStarted runner x.storyboard.name node)))
        s.channel.journal ch.journal) :
      Begins s runner node .ended
        { s.putRunner ((x.setStatus node .inProgress).afterEnd node) ch with active := none }
  | jammed {x : Runner} {d : Node} {ch : Channel} (found : s.runner? runner = some x)
      (waiting : x.statusOf? node = some .notStarted) (known : x.node? node = some d)
      (filled : d.program.isEmpty = false) (busy : s.interpreter.program ≠ none)
      (grown : s.channel.Grows
        [.nodeStarted runner x.storyboard.name node, .nodeCompleted runner x.storyboard.name node] [] ch) :
      Begins s runner node .refused (s.putRunner ((x.setStatus node .inProgress).afterEnd node) ch)

theorem beginNode_begins (coherent : s.Coherent) (runner : RunnerId) (node : NodeId) :
    s.Begins runner node (s.beginNode runner node).1 (s.beginNode runner node).2 := by
  unfold beginNode
  cases found : s.runner? runner with
  | none => exact .unknown found
  | some x =>
      obtain rfl := id_of_runner? found
      dsimp only
      rcases x.beginNode_cases node (coherent.listed_of_found found) s.channel with
        ⟨refused, unready⟩ | ⟨d, begun, waiting, known⟩
      · rw [refused]
        dsimp only
        rw [putRunner_self coherent.owned found]
        exact .refused found unready
      · rw [begun]
        dsimp only
        -- what is published first is that the node starts
        have published := s.channel.publish_grows (.nodeStarted x.id x.storyboard.name node) coherent.attached
        have grown := published.thenQuiet (Channel.note_quiet (n := .nodeStarted x.id node) rfl _)
        have opens : Journal.Opens (.note (.published (.nodeStarted x.id x.storyboard.name node))) s.channel.journal
            ((s.channel.publish (.nodeStarted x.id x.storyboard.name node)).note (.nodeStarted x.id node)).journal := by
          rw [Channel.publish_attached _ coherent.attached]
          exact ⟨[.note (.nodeStarted x.id node)], rfl⟩
        revert grown opens
        generalize (s.channel.publish (.nodeStarted x.id x.storyboard.name node)).note (.nodeStarted x.id node) = ch
        intro grown opens
        have attached := grown.attached.trans coherent.attached
        cases empty : d.program.isEmpty with
        | true =>
            obtain ⟨ch', closed, ended⟩ := close_begun found node attached
            rw [if_pos rfl, closed]
            exact .passed found waiting known empty (grown.trans ended) (opens.grows ended.journal)
        | false =>
            rw [if_neg Bool.false_ne_true]
            by_cases idle : s.interpreter.program = none
            · obtain ⟨j, started, quiet⟩ := s.interpreter.start_idle idle empty ch.journal
              have same : (s.putRunner (x.setStatus node .inProgress) ch).interpreter.start d.program
                  (s.putRunner (x.setStatus node .inProgress) ch).channel.journal =
                    (.ok (), s.interpreter.load d.program, j) := started
              rw [same]
              exact .started found waiting known empty idle (grown.thenQuiet (ch.journal_quiet quiet)) (opens.grows quiet)
            · have same : (s.putRunner (x.setStatus node .inProgress) ch).interpreter.start d.program
                  (s.putRunner (x.setStatus node .inProgress) ch).channel.journal =
                    (.error .interpreterBusy, s.interpreter, ch.journal.note .startWhileRunning) :=
                Interpreter.start_busy idle d.program ch.journal
              rw [same]
              dsimp only
              have noted := Channel.note_quiet (n := .startWhileRunning) rfl ch
              obtain ⟨ch', completed, ended⟩ := completeNode_begun found node (noted.attached.trans attached)
              exact completed ▸ .jammed found waiting known empty idle ((grown.thenQuiet noted).trans ended)

/-- A node that begins runs from then on, or has ended on the spot; then waiting requests may go on. -/
theorem beginNode_step (coherent : s.Coherent) (free : s.active = none ∨ past) (runner : RunnerId) (node : NodeId) :
    ∃ begun s', s.beginNode runner node = (begun, s') ∧
      Step op returning past ⟨⟨s, due, releasing⟩, some (runner, node)⟩
        ⟨⟨s', due, decide (begun = .ended) || releasing⟩, none⟩ := by
  have begins := beginNode_begins coherent runner node
  cases result : s.beginNode runner node with
  | mk begun s' =>
      rw [result] at begins
      refine ⟨begun, s', rfl, ?_⟩
      cases begins with
      | unknown missing => exact .unknown (m := ⟨s, due, releasing⟩) free missing
      | refused found unready => exact .refused (m := ⟨s, due, releasing⟩) free found unready
      | started found waiting known filled idle grown opens =>
          exact .started (m := ⟨s, due, releasing⟩) free found waiting known rfl rfl grown opens
      | passed found waiting known empty grown opens =>
          exact .passed (m := ⟨s, due, releasing⟩) free found waiting grown opens
      | jammed found waiting known filled busy grown =>
          exact .jammed (m := ⟨s, due, releasing⟩) free busy found waiting grown

theorem beginNode_turns (coherent : s.Coherent) (free : s.active = none ∨ past) (runner : RunnerId) (node : NodeId) :
    ∃ begun s', s.beginNode runner node = (begun, s') ∧
      Turns op returning past ⟨⟨s, due, releasing⟩, some (runner, node)⟩
        ⟨⟨s', due, decide (begun = .ended) || releasing⟩, none⟩ := by
  obtain ⟨begun, s', result, step⟩ := beginNode_step coherent free runner node
  exact ⟨begun, s', result, .single step⟩

theorem beginNode_coherent (coherent : s.Coherent) (runner : RunnerId) (node : NodeId) :
    (s.beginNode runner node).2.Coherent := by
  obtain ⟨begun, s', result, turns⟩ : ∃ begun s', s.beginNode runner node = (begun, s') ∧
      Turns .release False True ⟨⟨s, [], false⟩, some (runner, node)⟩
        ⟨⟨s', [], decide (begun = .ended) || false⟩, none⟩ := beginNode_turns coherent (.inr trivial) runner node
  rw [result]
  exact Turns.coherent turns coherent

/-! ### Releasing -/

theorem insertRequest_perm (s : Scene) (request : Request) (requests : List Request) :
    (s.insertRequest request requests).Perm (request :: requests) := by
  induction requests with
  | nil => exact .refl _
  | cons other requests ih =>
      unfold insertRequest
      split
      · exact .refl _
      · exact (ih.cons other).trans (.swap request other requests)

theorem releaseOrder_perm (s : Scene) : s.pending.Perm s.releaseOrder := by
  unfold releaseOrder
  induction s.pending with
  | nil => exact .refl _
  | cons request requests ih => exact (ih.cons request).trans (s.insertRequest_perm request _).symm

theorem completeNode_pending (runner : RunnerId) (node : NodeId) (s : Scene) :
    (s.completeNode runner node).pending = s.pending := by
  unfold completeNode
  split <;> rfl

theorem close_pending (runner : RunnerId) (node : NodeId) (rewards : List Reward) (s : Scene) :
    (s.close runner node rewards).pending = s.pending :=
  completeNode_pending runner node { s with active := none }

/-- Beginning a node leaves the waiting requests alone. -/
theorem beginNode_pending (runner : RunnerId) (node : NodeId) (s : Scene) :
    (s.beginNode runner node).2.pending = s.pending := by
  unfold beginNode
  split
  · rfl
  · dsimp only
    split
    · rfl
    · split
      · exact close_pending _ _ _ _
      · split
        · rfl
        · exact completeNode_pending _ _ _

theorem releaseAll_attended (requests : List Request) (s : Scene) : (releaseAll requests s).Attended := by
  induction requests generalizing s with
  | nil => exact Or.inr rfl
  | cons request requests ih =>
      unfold releaseAll
      split
      · rename_i running
        exact Or.inl running
      · exact ih _

theorem releaseAll_steps (requests : List Request) (coherent : s.Coherent) (waiting : s.pending = requests) :
    Steps op returning past ⟨s, due, true⟩ ⟨releaseAll requests s, due, true⟩ := by
  induction requests generalizing s with
  | nil =>
      have same : { s with pending := [] } = s := by rw [← waiting]
      rw [releaseAll, same]
  | cons request requests ih =>
      rw [releaseAll]
      by_cases running : s.isEventRunning = true
      · have same : { s with pending := request :: requests } = s := by rw [← waiting]
        rw [if_pos running, same]
      · rw [if_neg running]
        have free : s.active = none := by simpa [isEventRunning] using running
        have taken : Step op returning past ⟨⟨s, due, true⟩, none⟩
            ⟨⟨{ s with pending := requests }.note (.releasing request.runner request.node request.sequence), due, true⟩,
              some (request.runner, request.node)⟩ := .taken rfl free waiting
        obtain ⟨begun, s', result, begins⟩ :=
          beginNode_turns (taken.coherent coherent) (Or.inl free) request.runner request.node
        have pending := beginNode_pending request.runner request.node
          ({ s with pending := requests }.note (.releasing request.runner request.node request.sequence))
        dsimp only
        rw [result] at pending ⊢
        have begun : Steps op returning past ⟨s, due, true⟩ ⟨s', due, true⟩ := by
          simpa using Relation.ReflTransGen.head taken begins
        exact begun.trans (ih (Turns.coherent begun coherent) pending)

theorem releaseAll_pending (requests : List Request) (s : Scene) (pending : List Request) :
    releaseAll requests { s with pending } = releaseAll requests s := by
  cases requests <;> rfl

/-- After releasing no request waits in vain. -/
theorem release_attended (s : Scene) : s.release.Attended := by
  unfold release
  by_cases running : s.isEventRunning = true
  · rw [if_pos running]
    exact Or.inl running
  · rw [if_neg running]
    exact releaseAll_attended s.releaseOrder s

theorem release_steps (coherent : s.Coherent) :
    Steps op returning past ⟨s, due, releasing⟩ ⟨s.release, due, false⟩ := by
  unfold release
  by_cases running : s.isEventRunning = true
  · rw [if_pos running]
    exact .single (.released (Or.inl running))
  · rw [if_neg running]
    have ordered : Steps op returning past ⟨s, due, releasing⟩ ⟨{ s with pending := s.releaseOrder }, due, true⟩ :=
      .tail (.single .releases) (.reordered s.releaseOrder_perm)
    have released : Steps op returning past ⟨{ s with pending := s.releaseOrder }, due, true⟩
        ⟨releaseAll s.releaseOrder { s with pending := s.releaseOrder }, due, true⟩ :=
      releaseAll_steps s.releaseOrder (Turns.coherent ordered coherent) rfl
    rw [releaseAll_pending] at released
    exact (ordered.trans released).tail (.released (releaseAll_attended s.releaseOrder s))

theorem finishActive_of_active {runner : RunnerId} {node : NodeId} (active : s.active = some (runner, node))
    (rewards : List Reward) : s.finishActive rewards = (s.close runner node rewards).release := by
  unfold finishActive
  rw [active]

theorem finishActive_of_free (free : s.active = none) (rewards : List Reward) : s.finishActive rewards = s := by
  unfold finishActive
  rw [free]

/-! ### Starting -/

/-- A node that is over at once lets the waiting requests have their turn. -/
theorem startNode_of_ended {runner : RunnerId} {node : NodeId} (ended : (s.beginNode runner node).1 = .ended) :
    (s.startNode runner node).2 = (s.beginNode runner node).2.release := by
  unfold startNode
  revert ended
  rcases s.beginNode runner node with ⟨begun, s'⟩
  rintro rfl
  rfl

theorem startNode_of_not_ended {runner : RunnerId} {node : NodeId} (remains : (s.beginNode runner node).1 ≠ .ended) :
    (s.startNode runner node).2 = (s.beginNode runner node).2 := by
  unfold startNode
  revert remains
  rcases s.beginNode runner node with ⟨begun, s'⟩
  intro remains
  cases begun with
  | ended => exact absurd rfl remains
  | refused | running => rfl

theorem startNode_turns (coherent : s.Coherent) (free : s.active = none ∨ past) (runner : RunnerId) (node : NodeId) :
    Turns op returning past ⟨⟨s, due, false⟩, some (runner, node)⟩
      ⟨⟨(s.startNode runner node).2, due, false⟩, none⟩ := by
  obtain ⟨begun, s', result, begins⟩ := beginNode_turns coherent free runner node
  unfold startNode
  rw [result]
  cases begun with
  | refused => exact begins
  | running => exact begins
  | ended => exact begins.trans (release_steps (begins.coherent coherent))

/-- A node that was called for starts, or a request for it waits. -/
theorem tryStart_turns (coherent : s.Coherent) (runner : RunnerId) (node : NodeId) :
    Turns op returning past ⟨⟨s, due, false⟩, some (runner, node)⟩ ⟨⟨s.tryStart runner node, due, false⟩, none⟩ := by
  unfold tryStart
  by_cases running : s.isEventRunning = true
  · rw [if_pos running]
    exact .single (.queued running)
  · rw [if_neg running]
    exact startNode_turns coherent (Or.inl (by simpa [isEventRunning] using running)) runner node

theorem tryStart_steps (coherent : s.Coherent) (runner : RunnerId) (node : NodeId)
    (known : op.Plays → (s.statusOf? runner node).isSome = true) :
    Steps op returning past ⟨s, due, false⟩ ⟨s.tryStart runner node, due, false⟩ :=
  .head (.called (runner, node) known) (tryStart_turns coherent runner node)

/-! ### Beginning the story -/

private theorem kickstartRunner_steps (coherent : s.Coherent) {r x : Runner} (found : s.runner? r.id = some x)
    (alike : r.Alike x) (listed : r.Listed) :
    Steps op returning past ⟨s, due, false⟩ ⟨s.kickstartRunner r, due, false⟩ := by
  unfold kickstartRunner
  cases start : r.startNode? with
  | none => exact note_steps rfl
  | some node =>
      have known : (s.statusOf? r.id node).isSome = true := by
        obtain ⟨d, first, rfl⟩ := Option.map_eq_some_iff.mp start
        rw [knows_iff found, alike.known, listed d.id]
        exact List.find?_isSome.mpr ⟨d, List.mem_of_find?_eq_some first, by simp⟩
      have noted : Steps op returning past ⟨s, due, false⟩ ⟨s.note (.kickstarted r.id node), due, false⟩ :=
        note_steps rfl
      exact noted.trans (tryStart_steps (Turns.coherent noted coherent) r.id node fun _ => known)

private theorem mem_of_mem_openers {r : Runner} (member : r ∈ s.openers) : r ∈ s.runners := by
  unfold openers at member
  split at member
  · cases member
  · dsimp only at member
    split at member
    · exact (List.mem_filter.mp member).1
    · exact (List.mem_filter.mp ((List.take_sublist 1 _).subset member)).1

private theorem kickstartAll_steps (stays : ∀ id, op ≠ .unregister id) (runners : List Runner) (coherent : s.Coherent)
    (known : ∀ r ∈ runners, r.Listed ∧ ∃ x, s.runner? r.id = some x ∧ r.Alike x) :
    Steps op returning past ⟨s, due, false⟩ ⟨runners.foldl kickstartRunner s, due, false⟩ := by
  induction runners generalizing s with
  | nil => exact .refl
  | cons r runners ih =>
      obtain ⟨listed, x, found, alike⟩ := known r List.mem_cons_self
      have head : Steps op returning past ⟨s, due, false⟩ ⟨s.kickstartRunner r, due, false⟩ :=
        kickstartRunner_steps coherent found alike listed
      refine head.trans (ih (Turns.coherent head coherent) ?_)
      intro other member
      obtain ⟨listedOther, y, foundOther, alikeOther⟩ := known other (List.mem_cons_of_mem r member)
      obtain ⟨z, foundStill, alikeStill⟩ := Turns.alike head (stays other.id) foundOther
      exact ⟨listedOther, z, foundStill, alikeOther.trans alikeStill⟩

theorem kickstart_steps (stays : ∀ id, op ≠ .unregister id) (coherent : s.Coherent) :
    Steps op returning past ⟨s, due, false⟩ ⟨s.kickstart, due, false⟩ := by
  unfold kickstart
  by_cases already : s.kickstarted = true
  · rw [if_pos already]
  · rw [if_neg already]
    have begun : Steps op returning past ⟨s, due, false⟩ ⟨{ s with kickstarted := true }, due, false⟩ :=
      .single .kickstarted
    refine begun.trans (kickstartAll_steps stays _ (Turns.coherent begun coherent) ?_)
    intro r member
    have among : r ∈ s.runners := mem_of_mem_openers (s := { s with kickstarted := true }) member
    exact ⟨coherent.listed r among, r, coherent.owned r among, .refl r⟩

end Plotline.Scene
