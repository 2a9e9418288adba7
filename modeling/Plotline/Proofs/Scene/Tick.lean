import Plotline.Proofs.Scene.Schedule

/-!
A tick as a sequence of steps: the delivery of the queued events, one after the other, and the programs that go on.
-/

namespace Plotline.Scene

variable {op : Operation} {returning past : Prop} {due rest : List StoryEvent} {event : StoryEvent} {s : Scene}

/-! ### Delivery to one subscription -/

theorem deliverCondition_steps (coherent : s.Coherent) (key : ConditionKey) :
    Steps op returning past ⟨s, event :: rest, false⟩ ⟨s.deliverCondition key event, event :: rest, false⟩ := by
  unfold deliverCondition
  cases found : s.runner? key.runner with
  | none => exact .refl
  | some x =>
      dsimp only
      cases made : x.deliver key event s.channel.journal with
      | mk ready made' =>
          obtain ⟨y, j⟩ := made'
          have delivered : Step op returning past ⟨⟨s, event :: rest, false⟩, none⟩ _ := .delivered rfl found made
          cases ready with
          | none => exact .single delivered
          | some node => exact .head delivered (tryStart_turns (delivered.coherent coherent) key.runner node)

theorem startKnownNode_steps (coherent : s.Coherent) (runner : RunnerId) (node : NodeId) :
    Steps op returning past ⟨s, due, false⟩ ⟨s.startKnownNode runner node, due, false⟩ := by
  unfold startKnownNode
  split
  · rename_i contained
    apply tryStart_steps coherent runner node
    intro _
    cases found : s.runner? runner with
    | none =>
        rw [found] at contained
        cases contained
    | some x =>
        rw [found] at contained
        exact (knows_iff found node).trans contained
  · exact note_steps rfl

private theorem completeAll_id (nodes : List NodeId) (r : Runner) (ch : Channel) :
    (r.completeAll nodes ch).1.id = r.id := by
  induction nodes generalizing r ch with
  | nil => rfl
  | cons node nodes ih =>
      have head : (r.completeNode node ch).2.1.id = r.id := by
        rw [Runner.completeNode_runner]
        exact (Runner.afterEnd_alike node r).id
      exact (ih _ _).trans head

private theorem completeAll_steps (nodes : List NodeId) (coherent : s.Coherent) {x : Runner}
    (found : s.runner? x.id = some x) (inactive : ∀ node ∈ nodes, s.active ≠ some (x.id, node)) :
    Steps op returning past ⟨s, due, false⟩
      ⟨s.putRunner (x.completeAll nodes s.channel).1 (x.completeAll nodes s.channel).2, due, false⟩ := by
  induction nodes generalizing s x with
  | nil =>
      have same : s.putRunner x s.channel = s := putRunner_self coherent.owned found s.channel
      exact same.symm ▸ .refl
  | cons node nodes ih =>
      have grown := x.completeNode_grows node s.channel coherent.attached
      have cleared : Step op returning past ⟨⟨s, due, false⟩, none⟩ _ :=
        .cleared found (inactive node List.mem_cons_self) grown
      have id := (Runner.afterEnd_alike node x).id
      have again := runner?_putRunner_self found id (x.completeNode node s.channel).2.2
      have rest := ih (cleared.coherent coherent) (id.symm ▸ again) fun other member =>
        id.symm ▸ inactive other (List.mem_cons_of_mem node member)
      have same : x.completeAll (node :: nodes) s.channel =
          (x.afterEnd node).completeAll nodes (x.completeNode node s.channel).2.2 := by
        rw [← Runner.completeNode_runner]
        rfl
      rw [same]
      rw [putRunner_putRunner (completeAll_id nodes _ _)] at rest
      exact .head cleared rest

theorem deliverRunner_steps (coherent : s.Coherent) (id : RunnerId) (event : StoryEvent) :
    Steps op returning past ⟨s, due, false⟩ ⟨(s.deliverRunner id event).2, due, false⟩ := by
  unfold deliverRunner
  cases event with
  | triggerRequested target node =>
      dsimp only
      split
      · exact startKnownNode_steps coherent id node
      · exact .refl
  | jumpRequested origin node board target =>
      dsimp only
      cases found : s.runner? id with
      | none => exact .refl
      | some x =>
          obtain rfl := id_of_runner? found
          unfold Runner.receiveJump
          dsimp only
          by_cases enters : board = x.storyboard.name
          · rw [if_pos enters]
            -- the node that is executing is kept out of the list
            have inactive : ∀ node ∈ x.inProgress.filter fun node =>
                decide (some node ≠ (s.active.filter (·.1 = x.id)).map (·.2)), s.active ≠ some (x.id, node) := by
              intro node member active
              exact of_decide_eq_true (List.mem_filter.mp member).2 (activeNode_eq active).symm
            have ended : Steps op returning past ⟨s, due, false⟩ _ := completeAll_steps _ coherent found inactive
            have noted : Steps op returning past ⟨s, due, false⟩ _ :=
              ended.trans (note_steps (n := .enteredStoryboard board target) rfl)
            exact noted.trans (startKnownNode_steps (Turns.coherent noted coherent) x.id target)
          · rw [if_neg enters]
            have same : s.putRunner x s.channel = s := putRunner_self coherent.owned found s.channel
            dsimp only
            rw [same]
  | _ => exact .refl

theorem deliverTo_steps (state : Bool × Scene) (id : SubscriptionId) (coherent : state.2.Coherent) :
    Steps op returning past ⟨state.2, event :: rest, false⟩
      ⟨(deliverTo event state id).2, event :: rest, false⟩ := by
  obtain ⟨claimed, s⟩ := state
  have routed : Step op returning past ⟨⟨s, event :: rest, false⟩, none⟩ _ := .quiet (s.channel.route_quiet id event)
  unfold deliverTo
  dsimp only at coherent ⊢
  cases found : s.channel.route id event with
  | mk route ch =>
      rw [found] at routed
      cases route with
      | none => exact .single routed
      | some route =>
          cases route with
          | condition key => exact .head routed (deliverCondition_steps (routed.coherent coherent) key)
          | runner runner => exact .head routed (deliverRunner_steps (routed.coherent coherent) runner event)

theorem served_steps (coherent : s.Coherent) (event : StoryEvent) (rest : List StoryEvent) :
    Steps op returning past ⟨s, event :: rest, false⟩ ⟨(s.served event).2, event :: rest, false⟩ :=
  foldl_steps Prod.snd _ (false, s) coherent fun state id _ coherent => deliverTo_steps state id coherent

/-! ### Who has heard the event -/

private theorem deliverCondition_hears (coherent : s.Coherent) (world : op.FromWorld) (key : ConditionKey) :
    (s.deliverCondition key event).Hears key event := by
  cases found : s.runner? key.runner with
  | none =>
      have same : s.deliverCondition key event = s := by rw [deliverCondition, found]
      intro c slot
      rw [same, condition?, found] at slot
      cases slot
  | some x =>
      cases made : x.deliver key event s.channel.journal with
      | mk ready made' =>
          obtain ⟨y, j⟩ := made'
          have alike := (Runner.deliver_made made).1
          have latched : (s.putRunner y { s.channel with journal := j }).Hears key event := by
            intro c slot _ matched
            have looked := runner?_putRunner_self (found_self found) alike.id { s.channel with journal := j }
            rw [id_of_runner? found] at looked
            rw [condition?, looked] at slot
            obtain ⟨d, before, kind, _⟩ := alike.slot slot
            exact (Runner.deliver_holds made before (kind ▸ matched)).condition slot
          cases ready with
          | none =>
              have same : s.deliverCondition key event = s.putRunner y { s.channel with journal := j } := by
                rw [deliverCondition, found]
                dsimp only
                rw [made]
              rw [same]
              exact latched
          | some node =>
              have same : s.deliverCondition key event =
                  (s.putRunner y { s.channel with journal := j }).tryStart key.runner node := by
                rw [deliverCondition, found]
                dsimp only
                rw [made]
              have put : (s.putRunner y { s.channel with journal := j }).Coherent :=
                coherent.putRunner (found_self found) alike coherent.attached
              have turns : Turns op False False ⟨⟨_, [], false⟩, some (key.runner, node)⟩ ⟨⟨_, [], false⟩, none⟩ :=
                tryStart_turns put key.runner node
              rw [same]
              exact turns.hears world latched

private theorem deliverTo_hears (coherent : s.Coherent) (world : op.FromWorld) (claimed : Bool) {key : ConditionKey}
    {id : SubscriptionId} (listens : s.channel.bus.find? id = some ⟨id, event.topic, .condition key⟩) :
    (deliverTo event (claimed, s) id).2.Hears key event := by
  have routed : s.channel.route id event = (some (.condition key), s.channel) := by
    rw [Channel.route, listens]
    rfl
  have same : (deliverTo event (claimed, s) id).2 = s.deliverCondition key event := by
    unfold deliverTo
    dsimp only
    rw [routed]
  rw [same]
  exact deliverCondition_hears coherent world key

private theorem delivered_hears (world : op.FromWorld) (ids : List SubscriptionId) (state : Bool × Scene)
    (coherent : state.2.Coherent) {key : ConditionKey} (id : SubscriptionId) (member : id ∈ ids)
    (listens : state.2.channel.bus.find? id = some ⟨id, event.topic, .condition key⟩) :
    (ids.foldl (deliverTo event) state).2.Hears key event := by
  induction ids generalizing state with
  | nil => cases member
  | cons other ids ih =>
      have head : Steps op False False ⟨state.2, [event], false⟩ ⟨(deliverTo event state other).2, [event], false⟩ :=
        deliverTo_steps state other coherent
      have coherentHead := Turns.coherent head coherent
      rcases List.mem_cons.mp member with rfl | later
      · have tail : Steps op False False ⟨(deliverTo event state id).2, [event], false⟩
            ⟨(ids.foldl (deliverTo event) (deliverTo event state id)).2, [event], false⟩ :=
          foldl_steps Prod.snd ids _ coherentHead fun state id _ coherent => deliverTo_steps state id coherent
        exact Turns.hears tail world (deliverTo_hears coherent world state.1 listens)
      · refine ih (deliverTo event state other) coherentHead later ?_
        unfold Bus.find?
        rw [Turns.subscriptions head world]
        exact listens

/-- Once every subscriber has seen the event, each condition that listens to its topic has heard it. -/
theorem served_hears (coherent : s.Coherent) (world : op.FromWorld) {key : ConditionKey} (id : SubscriptionId)
    (listens : s.channel.bus.find? id = some ⟨id, event.topic, .condition key⟩) :
    (s.served event).2.Hears key event := by
  refine delivered_hears world _ (false, s) coherent id ?_ listens
  unfold Bus.subscribersOf
  refine List.mem_map.mpr ⟨⟨id, event.topic, .condition key⟩, List.mem_filter.mpr ⟨?_, by simp⟩, rfl⟩
  exact List.mem_of_find?_eq_some listens

/-! ### Delivery of a batch -/

private theorem claimed_steps (claimed : Bool) {n : Note} (plain : n.isPlain = true) :
    Steps op returning past ⟨s, due, false⟩ ⟨if claimed then s else s.note n, due, false⟩ := by
  cases claimed with
  | true => exact .refl
  | false => exact note_steps plain

/-- Every condition that listens to the topic of the event has heard it. -/
private def HeardAll (s : Scene) (event : StoryEvent) : Prop :=
  ∀ key id, s.channel.bus.find? id = some ⟨id, event.topic, .condition key⟩ → s.Hears key event

private theorem settle_steps (coherent : s.Coherent) (event : StoryEvent) (rest : List StoryEvent) (claimed : Bool)
    (heard : op.FromWorld → s.HeardAll event)
    (back : ∀ runner node board target, event = .jumpRequested runner node board target →
      s.active = some (runner, node) → returning) :
    Steps op returning past ⟨s, event :: rest, false⟩ ⟨s.settle event claimed, rest, false⟩ := by
  unfold settle
  cases event with
  | triggerRequested runner node =>
      have noted : Steps op returning past ⟨s, .triggerRequested runner node :: rest, false⟩ _ :=
        claimed_steps claimed (n := .triggerUnclaimed runner) rfl
      refine noted.tail (.settled rfl nofun ?_)
      cases claimed <;> exact heard
  | jumpRequested runner node board target =>
      have noted : Steps op returning past ⟨s, .jumpRequested runner node board target :: rest, false⟩ _ :=
        claimed_steps claimed (n := .dataError (.unknownStoryboard board)) rfl
      have sameActive : (if claimed then s else s.note (.dataError (.unknownStoryboard board))).active = s.active := by
        split <;> rfl
      dsimp only
      revert noted sameActive
      generalize (if claimed then s else s.note (.dataError (.unknownStoryboard board))) = noticed
      intro noted sameActive
      have coherentNoticed := Turns.coherent noted coherent
      have settled : Steps op returning past ⟨s, .jumpRequested runner node board target :: rest, false⟩
          ⟨if noticed.statusOf? runner node = some .inProgress then noticed.completeNode runner node else noticed,
            rest, true⟩ := by
        by_cases running : noticed.statusOf? runner node = some .inProgress
        · rw [if_pos running]
          obtain ⟨x, found, status⟩ := Option.bind_eq_some_iff.mp running
          obtain rfl := id_of_runner? found
          rw [completeNode_found found]
          have grown := x.completeNode_grows node noticed.channel coherentNoticed.attached
          have ended := noted.tail
            (.originEnded rfl (fun active => back _ _ _ _ rfl (sameActive ▸ active)) found grown)
          refine ended.tail (.jumpSettled rfl ?_)
          dsimp only
          rw [statusOf?_putRunner found (x.afterEnd_alike node).id, if_pos rfl, Runner.statusOf?_afterEnd status]
          split <;> nofun
        · rw [if_neg running]
          exact noted.tail (.jumpSettled rfl running)
      exact settled.trans (release_steps (Turns.coherent settled coherent))
  | _ => exact .single (.settled rfl nofun heard)

theorem deliverEvent_steps (coherent : s.Coherent) (event : StoryEvent) (rest : List StoryEvent)
    (back : s.ComesBack event → returning) :
    Steps op returning past ⟨s, event :: rest, false⟩ ⟨s.deliverEvent event, rest, false⟩ := by
  have served : Steps op returning past ⟨s, event :: rest, false⟩ _ := served_steps coherent event rest
  rw [deliverEvent_eq]
  refine served.trans (settle_steps (Turns.coherent served coherent) event rest (s.served event).1 ?_ ?_)
  · intro world key id listens
    apply served_hears coherent world id
    unfold Bus.find? at listens ⊢
    rw [← Turns.subscriptions served world]
    exact listens
  · rintro runner node board target rfl active
    exact back active

/-- Each event of a batch is reached by steps, and so is the end of the batch. -/
theorem deliveries_steps (events : List StoryEvent) (coherent : s.Coherent)
    (back : ∀ delivery ∈ deliveries events s, delivery.1.ComesBack delivery.2 → returning) :
    (∀ delivery ∈ deliveries events s, ∃ rest,
      Steps op returning past ⟨s, events, false⟩ ⟨delivery.1, delivery.2 :: rest, false⟩) ∧
      Steps op returning past ⟨s, events, false⟩ ⟨events.foldl deliverEvent s, [], false⟩ := by
  induction events generalizing s with
  | nil => exact ⟨List.forall_mem_nil _, .refl⟩
  | cons event events ih =>
      have first : Steps op returning past ⟨s, event :: events, false⟩ ⟨s.deliverEvent event, events, false⟩ :=
        deliverEvent_steps coherent event events (back (s, event) List.mem_cons_self)
      obtain ⟨each, all⟩ := ih (Turns.coherent first coherent) fun delivery member =>
        back delivery (List.mem_cons_of_mem _ member)
      refine ⟨?_, first.trans all⟩
      intro delivery member
      rcases List.mem_cons.mp member with rfl | later
      · exact ⟨events, .refl⟩
      · obtain ⟨rest, reached⟩ := each delivery later
        exact ⟨rest, first.trans reached⟩

/-! ### Running programs -/

/-- What the running program does until it waits or comes to something. -/
private theorem resume_outcome (coherent : s.Coherent) (elapsed : Duration) :
    ∃ outcome i ch triggers, s.resume elapsed = (outcome, { s with interpreter := i, channel := ch }) ∧
      i.program = s.interpreter.programAfter outcome ∧ i.emitted = [] ∧
      (∀ event ∈ triggers, event.topic = .triggerRequested) ∧ s.channel.Grows triggers [] ch := by
  have yields := s.interpreter.resume_yields s.stage elapsed s.channel.journal
  unfold resume
  revert yields
  generalize s.interpreter.resume s.stage elapsed s.channel.journal = result
  obtain ⟨outcome, i, j⟩ := result
  intro yields
  refine ⟨outcome, _, _, i.emitted.reverse, rfl, yields.program, rfl, ?_, ?_⟩
  · intro event member
    rcases yields.advances.emitted event (List.mem_reverse.mp member) with earlier | trigger
    · rw [coherent.emitted] at earlier
      cases earlier
    · exact trigger
  · have quiet := s.channel.journal_quiet yields.advances.journal.toGrows
    exact quiet.trans (Channel.publishAll_grows _ _ coherent.attached)

private theorem branchActive_none {i : Interpreter} {ch : Channel} (free : s.active = none) (target : NodeId)
    (storyboard : Option StoryboardName) :
    ({ s with interpreter := i, channel := ch } : Scene).branchActive target storyboard =
      { s with interpreter := i, channel := ch } := by
  unfold branchActive
  dsimp only
  rw [free]

private theorem finishActive_steps (coherent : s.Coherent) {runner : RunnerId} {node : NodeId}
    (active : s.active = some (runner, node)) (rewards : List Reward) {i : Interpreter} {ch : Channel}
    {triggers : List StoryEvent} (program : i.program = none) (emitted : i.emitted = [])
    (topics : ∀ event ∈ triggers, event.topic = .triggerRequested) (grown : s.channel.Grows triggers [] ch) :
    Steps op returning past ⟨s, due, false⟩
      ⟨({ s with interpreter := i, channel := ch } : Scene).finishActive rewards, due, false⟩ := by
  obtain ⟨x, found⟩ := coherent.found active
  obtain ⟨ch', closed, ended⟩ := close_found (s := { s with interpreter := i, channel := ch }) found
    (grown.attached.trans coherent.attached) node rewards
  have told := grown.trans ended
  rw [← List.append_assoc, List.nil_append] at told
  have finished : Step op returning past ⟨⟨s, due, false⟩, none⟩ _ := .finished active found program emitted topics told
  rw [finishActive_of_active (s := { s with interpreter := i, channel := ch }) active, closed]
  exact .head finished (release_steps (finished.coherent coherent))

private theorem branchActive_steps (coherent : s.Coherent) {runner : RunnerId} {node : NodeId}
    (active : s.active = some (runner, node)) (target : NodeId) (storyboard : Option StoryboardName)
    {i : Interpreter} {ch : Channel} {triggers : List StoryEvent} (program : i.program = none)
    (emitted : i.emitted = []) (topics : ∀ event ∈ triggers, event.topic = .triggerRequested)
    (grown : s.channel.Grows triggers [] ch) :
    Steps op returning past ⟨s, due, false⟩
      ⟨({ s with interpreter := i, channel := ch } : Scene).branchActive target storyboard, due, false⟩ := by
  obtain ⟨x, found⟩ := coherent.found active
  obtain ⟨board, named⟩ : ∃ board, storyboard.or (some x.storyboard.name) = some board := by
    cases storyboard <;> exact ⟨_, rfl⟩
  have noted := grown.thenQuiet (Channel.note_quiet (n := .branched runner node board target) rfl ch)
  have told := noted.trans (Channel.publish_grows (.jumpRequested runner node board target) _
    (noted.attached.trans coherent.attached))
  have branched : Step op returning past ⟨⟨s, due, false⟩, none⟩ _ := .branched active program emitted topics told
  have branch : ({ s with interpreter := i, channel := ch } : Scene).branchActive target storyboard =
      { s with
        interpreter := i
        channel := (ch.note (.branched runner node board target)).publish (.jumpRequested runner node board target)
        active := none } := by
    have owner : ({ s with interpreter := i, channel := ch, active := none } : Scene).runner? runner = some x := found
    unfold branchActive
    dsimp only
    rw [active]
    dsimp only
    rw [owner, Option.map_some, named]
    rfl
  rw [branch]
  exact .single branched

theorem pumpWithin_steps (rounds : Nat) (elapsed : Duration) (coherent : s.Coherent) :
    Steps op returning past ⟨s, due, false⟩ ⟨s.pumpWithin rounds elapsed, due, false⟩ := by
  induction rounds generalizing s elapsed with
  | zero => exact .refl
  | succ rounds ih =>
      unfold pumpWithin
      by_cases running : s.interpreter.isRunning = true
      · rw [if_pos running]
        have busy : s.interpreter.program ≠ none := Option.isSome_iff_ne_none.mp running
        obtain ⟨outcome, i, ch, triggers, result, program, emitted, topics, grown⟩ := resume_outcome coherent elapsed
        rw [result]
        rcases outcome with _ | ⟨rewards⟩ | ⟨target, storyboard⟩
        · exact .single (.resumed program emitted topics grown)
        · have finished : Steps op returning past ⟨s, due, false⟩
              ⟨({ s with interpreter := i, channel := ch } : Scene).finishActive rewards, due, false⟩ := by
            rcases Option.eq_none_or_eq_some s.active with free | ⟨_, active⟩
            · rw [finishActive_of_free (s := { s with interpreter := i, channel := ch }) free]
              exact .single (.orphaned free busy program emitted topics grown)
            · exact finishActive_steps coherent active rewards program emitted topics grown
          exact finished.trans (ih 0 (Turns.coherent finished coherent))
        · dsimp only
          rcases Option.eq_none_or_eq_some s.active with free | ⟨_, active⟩
          · rw [branchActive_none free]
            exact .single (.orphaned free busy program emitted topics grown)
          · exact branchActive_steps coherent active target storyboard program emitted topics grown
      · rw [if_neg running]

/-! ### The tick -/

variable {elapsed : Duration}

theorem batch_steps (coherent : s.Coherent) :
    Steps (.tick elapsed) returning past ⟨s, [], false⟩
      ⟨{ s.kickstart with channel := s.kickstart.channel.takeBatch.2 }, s.kickstart.channel.takeBatch.1, false⟩ := by
  have kicked : Steps (.tick elapsed) returning past ⟨s, [], false⟩ ⟨s.kickstart, [], false⟩ :=
    kickstart_steps nofun coherent
  exact kicked.tail (.batch ⟨elapsed, rfl⟩)

theorem tick_deliveries (coherent : s.Coherent) (back : (Operation.tick elapsed).BringsBack s → returning) :
    ∀ delivery ∈ (Operation.tick elapsed).deliveries s, ∃ rest,
      Steps (.tick elapsed) returning past ⟨s, [], false⟩ ⟨delivery.1, delivery.2 :: rest, false⟩ := by
  have begun : Steps (.tick elapsed) returning past ⟨s, [], false⟩ _ := batch_steps coherent
  obtain ⟨each, _⟩ := deliveries_steps s.kickstart.channel.takeBatch.1 (Turns.coherent begun coherent)
    fun delivery member comes => back ⟨delivery, member, comes⟩
  intro delivery member
  obtain ⟨rest, reached⟩ := each delivery member
  exact ⟨rest, begun.trans reached⟩

/-- The events of the queue are delivered before the program goes on. -/
theorem drained_steps (coherent : s.Coherent) (back : (Operation.tick elapsed).BringsBack s → returning) :
    Steps (.tick elapsed) returning past ⟨s, [], false⟩ ⟨s.kickstart.drain, [], false⟩ := by
  have begun : Steps (.tick elapsed) returning past ⟨s, [], false⟩ _ := batch_steps coherent
  obtain ⟨_, all⟩ := deliveries_steps s.kickstart.channel.takeBatch.1 (Turns.coherent begun coherent)
    fun delivery member comes => back ⟨delivery, member, comes⟩
  exact begun.trans all

theorem tick_steps (coherent : s.Coherent) (back : (Operation.tick elapsed).BringsBack s → returning) :
    Steps (.tick elapsed) returning past ⟨s, [], false⟩ ⟨s.tick elapsed, [], false⟩ := by
  have drained : Steps (.tick elapsed) returning past ⟨s, [], false⟩ ⟨s.kickstart.drain, [], false⟩ :=
    drained_steps coherent back
  exact drained.trans (pumpWithin_steps _ elapsed (Turns.coherent drained coherent))

end Plotline.Scene
