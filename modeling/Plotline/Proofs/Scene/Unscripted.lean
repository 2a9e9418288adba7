import Plotline.Proofs.Runner.Primed
import Plotline.Proofs.Scene.Operation

/-!
What a scene does besides running programs. Scheduling and delivery keep the log, publish events of their own and hand
out rewards. But no trigger is among the events, the stage gets no other cue, and the interpreter is touched only to load
a program where none is loaded. Observers hear of an event when it is delivered, and only then.
-/

namespace Plotline

/-- Only a program leaves such an entry: a cue, rewards apart, or the event of a trigger. -/
def Entry.isScripted : Entry → Bool
  | .cue (.rewards _) => false
  | .cue _ => true
  | .note (.published event) => event.topic = .triggerRequested
  | _ => false

namespace Journal

/-- The journal has grown by entries that are not due to a program. -/
def Unscripted (j j' : Journal) : Prop := ∃ entries, j' = entries ++ j ∧ ∀ entry ∈ entries, entry.isScripted = false

theorem Unscripted.refl (j : Journal) : j.Unscripted j := ⟨[], rfl, List.forall_mem_nil _⟩

theorem Unscripted.trans {j j' j'' : Journal} (first : j.Unscripted j') (last : j'.Unscripted j'') :
    j.Unscripted j'' := by
  obtain ⟨early, rfl, earlyPlain⟩ := first
  obtain ⟨late, rfl, latePlain⟩ := last
  exact ⟨late ++ early, (List.append_assoc _ _ _).symm, List.forall_mem_append.mpr ⟨latePlain, earlyPlain⟩⟩

/-- And in the meantime the observers have heard this. -/
structure Informs (heard : List (SubscriptionId × StoryEvent)) (j j' : Journal) : Prop where
  unscripted : j.Unscripted j'
  observations : j'.observations = j.observations ++ heard

abbrev Silent : Journal → Journal → Prop := Informs []

theorem Informs.refl (j : Journal) : j.Silent j := ⟨.refl j, (List.append_nil _).symm⟩

theorem Informs.trans {heard more : List (SubscriptionId × StoryEvent)} {j j' j'' : Journal}
    (first : j.Informs heard j') (last : j'.Informs more j'') : j.Informs (heard ++ more) j'' := by
  refine ⟨first.unscripted.trans last.unscripted, ?_⟩
  rw [last.observations, first.observations, List.append_assoc]

theorem informs_cons (entry : Entry) (plain : entry.isScripted = false) (j : Journal) :
    j.Informs (observations [entry]) (entry :: j) := by
  refine ⟨⟨[entry], rfl, by simpa using plain⟩, ?_⟩
  simp [observations, List.filterMap_append]

theorem silent_notes {ns : List Note} (plain : ∀ n ∈ ns, (Entry.note n).isScripted = false) (j : Journal) :
    j.Silent (j.notes ns) := by
  induction ns generalizing j with
  | nil => exact .refl j
  | cons n ns ih =>
      have head : j.Silent (j.note n) := informs_cons (.note n) (plain n List.mem_cons_self) j
      exact head.trans (ih (fun other member => plain other (List.mem_cons_of_mem n member)) (j.note n))

end Journal

/-- The handle is that of an observer. -/
def Bus.observes (bus : Bus) (id : SubscriptionId) : Bool := (bus.find? id).any (·.listener = .observer)

/-- The observers of a topic, in the order of their subscriptions. -/
def Bus.observersOf (bus : Bus) (topic : Topic) : List SubscriptionId :=
  (bus.subscriptions.filter fun x => x.listener = .observer ∧ x.topic = topic).map (·.id)

/-- The observers of a topic are the observers among its subscribers. -/
theorem Bus.filter_subscribersOf {bus : Bus} (distinct : (bus.subscriptions.map (·.id)).Nodup) (topic : Topic) :
    (bus.subscribersOf topic).filter bus.observes = bus.observersOf topic := by
  unfold Bus.subscribersOf Bus.observersOf
  rw [List.filter_map, List.filter_filter]
  congr 1
  refine List.filter_congr fun x member => ?_
  have found : bus.find? x.id = some x := find?_of_nodup distinct member
  simp [Bus.observes, found]

namespace Channel

theorem publish_silent (event : StoryEvent) (other : event.topic ≠ .triggerRequested) (ch : Channel) :
    ch.journal.Silent (ch.publish event).journal := by
  unfold publish tryPublish
  by_cases attached : ch.bus.attached = true
  · rw [if_pos attached]
    exact Journal.informs_cons (.note (.published event)) (decide_eq_false other) ch.journal
  · rw [if_neg attached]
    exact Journal.informs_cons (.note (.dropped event.topic)) rfl ch.journal

theorem route_informs (id : SubscriptionId) (event : StoryEvent) (ch : Channel) :
    ch.journal.Informs (if ch.bus.observes id then [(id, event)] else []) (ch.route id event).2.journal := by
  unfold route Bus.observes
  cases ch.bus.find? id with
  | none => exact .refl _
  | some x =>
      rcases x with ⟨_, _, key | runner | _⟩
      · exact .refl _
      · exact .refl _
      · exact Journal.informs_cons (.observed id event) rfl ch.journal

end Channel

namespace Runner

theorem deliver_silent (key : ConditionKey) (event : StoryEvent) (r : Runner) (j : Journal) :
    j.Silent (r.deliver key event j).2.2 := by
  unfold deliver
  split
  · exact .refl j
  · rename_i condition _
    split
    · have satisfied : j.Silent (j.note (.satisfied condition.kind)) :=
        Journal.informs_cons (.note (.satisfied condition.kind)) rfl j
      dsimp only
      split
      · split <;> exact satisfied
      · exact satisfied.trans (Journal.informs_cons (.note (.conditionIgnored ..)) rfl _)
    · exact .refl j

theorem beginNode_silent (node : NodeId) (r : Runner) (ch : Channel) :
    ch.journal.Silent (r.beginNode node ch).2.2.journal := by
  unfold beginNode
  split
  · exact Journal.informs_cons (.note (.startOfUnknownNode r.id node)) rfl ch.journal
  · split
    · exact .refl _
    · have published := Channel.publish_silent (.nodeStarted r.id r.storyboard.name node) nofun ch
      exact published.trans (Journal.informs_cons (.note (.nodeStarted r.id node)) rfl _)
  · exact Journal.informs_cons (.note (.startIgnored ..)) rfl ch.journal

private theorem rearm_silent (node : NodeId) (r : Runner) (ch : Channel) :
    ch.journal.Silent (r.rearm node ch).2.journal := by
  unfold rearm
  split
  · split
    · exact Journal.informs_cons (.note (.nodeRearmed r.id node)) rfl ch.journal
    · exact .refl _
  · exact .refl _

theorem completeNode_silent (node : NodeId) (r : Runner) (ch : Channel) :
    ch.journal.Silent (r.completeNode node ch).2.2.journal := by
  unfold completeNode
  split
  · have published := Channel.publish_silent (.nodeCompleted r.id r.storyboard.name node) nofun ch
    have noted := published.trans (Journal.informs_cons (.note (.nodeCompleted r.id node)) rfl _)
    exact noted.trans (rearm_silent node (r.setStatus node .completed) (Channel.note _ (Channel.publish _ ch)))
  · exact Journal.informs_cons (.note (.notInProgress r.id node)) rfl ch.journal

private theorem completeAll_silent (nodes : List NodeId) (r : Runner) (ch : Channel) :
    ch.journal.Silent (r.completeAll nodes ch).2.journal := by
  induction nodes generalizing r ch with
  | nil => exact .refl _
  | cons node nodes ih => exact (completeNode_silent node r ch).trans (ih _ _)

theorem receiveJump_silent {storyboard : StoryboardName} {keep : Option NodeId} {r r' : Runner} {ch ch' : Channel}
    {mine : Bool} (received : r.receiveJump storyboard keep ch = (mine, r', ch')) :
    ch.journal.Silent ch'.journal := by
  have result : ch' = (r.receiveJump storyboard keep ch).2.2 := by rw [received]
  rw [result]
  unfold receiveJump
  split
  · exact completeAll_silent _ r ch
  · exact .refl _

end Runner

namespace Interpreter

/-- The interpreter is as it was; or it was idle, and a program has been loaded. -/
inductive Takes (i : Interpreter) : Interpreter → Prop
  | same : Takes i i
  | loaded (idle : i.program = none) (program : Program) :
      Takes i
        { i with
          program := some program
          cursor := 0
          waitingForInput := false
          skipRequested := false
          suspension := none }

theorem Takes.trans {i i' i'' : Interpreter} (first : i.Takes i') (last : i'.Takes i'') : i.Takes i'' := by
  cases first with
  | same => exact last
  | loaded idle program =>
      cases last with
      | same => exact .loaded idle program
      | loaded idle' _ => cases idle'

/-- A loaded program is let alone. -/
theorem Takes.of_loaded {i i' : Interpreter} (takes : i.Takes i') (loaded : i.program ≠ none) : i' = i := by
  cases takes with
  | same => rfl
  | loaded idle program => exact absurd idle loaded

theorem start_silent (program : Program) (i : Interpreter) (j : Journal) :
    i.Takes (i.start program j).2.1 ∧ j.Silent (i.start program j).2.2 := by
  unfold start
  split
  · exact ⟨.same, Journal.informs_cons (.note .startWhileRunning) rfl j⟩
  · rename_i stopped
    have idle : i.program = none := by simpa [isRunning] using stopped
    split
    · exact ⟨.same, Journal.informs_cons (.note .startOfEmptyProgram) rfl j⟩
    · refine ⟨.loaded idle program, ?_⟩
      have repeated : j.Silent (j.notes (program.labels.repeated.map fun entry =>
          .repeatedLabel entry.1 entry.2)) := by
        apply Journal.silent_notes
        intro n member
        obtain ⟨entry, -, rfl⟩ := List.mem_map.mp member
        rfl
      exact repeated.trans (Journal.informs_cons (.note (.programStarted ..)) rfl _)

end Interpreter

namespace Scene

/-- No program has gone on between the two scenes. -/
structure Unscripted (s s' : Scene) : Prop where
  stage : s'.stage = s.stage
  interpreter : s.interpreter.Takes s'.interpreter
  journal : s.channel.journal.Unscripted s'.channel.journal

/-- And in the meantime the observers have heard this. -/
structure Informs (heard : List (SubscriptionId × StoryEvent)) (s s' : Scene) : Prop where
  stage : s'.stage = s.stage
  interpreter : s.interpreter.Takes s'.interpreter
  journal : s.channel.journal.Informs heard s'.channel.journal

abbrev Silent : Scene → Scene → Prop := Informs []

variable {s s' s'' : Scene}

theorem Unscripted.refl (s : Scene) : s.Unscripted s := ⟨rfl, .same, .refl _⟩

theorem Unscripted.trans (first : s.Unscripted s') (last : s'.Unscripted s'') : s.Unscripted s'' :=
  ⟨last.stage.trans first.stage, first.interpreter.trans last.interpreter, first.journal.trans last.journal⟩

namespace Informs

variable {heard more : List (SubscriptionId × StoryEvent)}

theorem refl (s : Scene) : s.Silent s := ⟨rfl, .same, .refl _⟩

theorem trans (first : s.Informs heard s') (last : s'.Informs more s'') : s.Informs (heard ++ more) s'' :=
  ⟨last.stage.trans first.stage, first.interpreter.trans last.interpreter, first.journal.trans last.journal⟩

theorem thenSilent (first : s.Informs heard s') (last : s'.Silent s'') : s.Informs heard s'' := by
  simpa using first.trans last

theorem unscripted (informs : s.Informs heard s') : s.Unscripted s' :=
  ⟨informs.stage, informs.interpreter, informs.journal.unscripted⟩

end Informs

/-- Only the log has grown, apart from what programs and the stage have no part in. -/
private theorem silent_of_journal (stage : s'.stage = s.stage) (interpreter : s'.interpreter = s.interpreter)
    (journal : s.channel.journal.Silent s'.channel.journal) : s.Silent s' :=
  ⟨stage, interpreter ▸ .same, journal⟩

private theorem note_silent {n : Note} (plain : (Entry.note n).isScripted = false) (s : Scene) : s.Silent (s.note n) :=
  silent_of_journal rfl rfl (Journal.informs_cons (.note n) plain _)

theorem foldl_silent {α : Type} {f : Scene → α → Scene} (each : ∀ s a, Silent s (f s a)) (list : List α) (s : Scene) :
    s.Silent (list.foldl f s) := by
  induction list generalizing s with
  | nil => exact .refl s
  | cons a list ih => exact (each s a).trans (ih (f s a))

/-! ### Scheduling -/

theorem enqueue_silent (runner : RunnerId) (node : NodeId) (s : Scene) : s.Silent (s.enqueue runner node) :=
  silent_of_journal rfl rfl (Journal.informs_cons (.note (.queued ..)) rfl _)

theorem completeNode_silent (runner : RunnerId) (node : NodeId) (s : Scene) :
    s.Silent (s.completeNode runner node) := by
  unfold completeNode
  split
  · exact .refl s
  · exact silent_of_journal rfl rfl (Runner.completeNode_silent node _ s.channel)

theorem close_silent (runner : RunnerId) (node : NodeId) (rewards : List Reward) (s : Scene) :
    s.Silent (s.close runner node rewards) := by
  have freed : s.Silent { s with active := none } := silent_of_journal rfl rfl (.refl _)
  have completed := freed.trans (completeNode_silent runner node _)
  have published := fun ch : Channel =>
    Channel.publish_silent (.programFinished runner node rewards) nofun ch
  unfold close
  cases rewards with
  | nil => exact completed.trans (silent_of_journal rfl rfl (published _))
  | cons reward rewards =>
      have granted := fun ch : Channel => Journal.informs_cons (.cue (.rewards (reward :: rewards))) rfl ch.journal
      exact completed.trans (silent_of_journal rfl rfl ((granted _).trans (published (Channel.cue _ _))))

theorem beginNode_silent (runner : RunnerId) (node : NodeId) (s : Scene) :
    s.Silent (s.beginNode runner node).2 := by
  unfold beginNode
  split
  · exact note_silent rfl s
  · rename_i x _
    have begun := x.beginNode_silent node s.channel
    revert begun
    rcases x.beginNode node s.channel with ⟨program, y, ch⟩
    intro begun
    have put : s.Silent (s.putRunner y ch) := silent_of_journal rfl rfl begun
    cases program with
    | none => exact put
    | some program =>
        dsimp only
        split
        · exact (put.trans (note_silent rfl _)).trans (close_silent _ _ _ _)
        · have started := (s.putRunner y ch).interpreter.start_silent program (s.putRunner y ch).channel.journal
          revert started
          rcases (s.putRunner y ch).interpreter.start program (s.putRunner y ch).channel.journal with
            ⟨result, interpreter, journal⟩
          rintro ⟨takes, grown⟩
          have loaded : (s.putRunner y ch).Silent
              { s.putRunner y ch with interpreter, channel := { (s.putRunner y ch).channel with journal } } :=
            ⟨rfl, takes, grown⟩
          cases result with
          | ok _ => exact put.trans ⟨rfl, takes, grown⟩
          | error error =>
              exact ((put.trans loaded).trans (note_silent rfl _)).trans (completeNode_silent _ _ _)

theorem releaseAll_silent (requests : List Request) (s : Scene) : s.Silent (releaseAll requests s) := by
  induction requests generalizing s with
  | nil => exact silent_of_journal rfl rfl (.refl _)
  | cons request requests ih =>
      unfold releaseAll
      split
      · exact silent_of_journal rfl rfl (.refl _)
      · have taken : s.Silent ({ s with pending := requests }.note
            (.releasing request.runner request.node request.sequence)) :=
          silent_of_journal rfl rfl (Journal.informs_cons (.note (.releasing ..)) rfl _)
        exact (taken.trans (beginNode_silent _ _ _)).trans (ih _)

theorem release_silent (s : Scene) : s.Silent s.release := by
  unfold release
  split
  · exact .refl s
  · exact releaseAll_silent _ s

theorem startNode_silent (runner : RunnerId) (node : NodeId) (s : Scene) :
    s.Silent (s.startNode runner node).2 := by
  have begun := beginNode_silent runner node s
  unfold startNode
  revert begun
  rcases s.beginNode runner node with ⟨begun, s'⟩
  intro silent
  cases begun with
  | ended => exact silent.trans (release_silent s')
  | _ => exact silent

theorem tryStart_silent (runner : RunnerId) (node : NodeId) (s : Scene) :
    s.Silent (s.tryStart runner node) := by
  unfold tryStart
  split
  · exact enqueue_silent runner node s
  · exact startNode_silent runner node s

theorem finishActive_silent (rewards : List Reward) (s : Scene) : s.Silent (s.finishActive rewards) := by
  unfold finishActive
  split
  · exact .refl s
  · exact (close_silent _ _ rewards s).trans (release_silent _)

theorem kickstart_silent (s : Scene) : s.Silent s.kickstart := by
  have each : ∀ (s : Scene) r, s.Silent (s.kickstartRunner r) := by
    intro s r
    unfold kickstartRunner
    split
    · exact (note_silent rfl s).trans (tryStart_silent _ _ _)
    · exact note_silent rfl s
  unfold kickstart
  split
  · exact .refl s
  · have begun : s.Silent { s with kickstarted := true } := silent_of_journal rfl rfl (.refl _)
    exact begun.trans (foldl_silent each _ _)

theorem startUnlessWaiting_silent (s : Scene) (target : RunnerId × NodeId) :
    s.Silent (s.startUnlessWaiting target) := by
  unfold startUnlessWaiting
  split
  · exact .refl s
  · exact tryStart_silent _ _ s

/-! ### Delivery -/

theorem deliverCondition_silent (key : ConditionKey) (event : StoryEvent) (s : Scene) :
    s.Silent (s.deliverCondition key event) := by
  unfold deliverCondition
  split
  · exact .refl s
  · rename_i x _
    have delivered := x.deliver_silent key event s.channel.journal
    revert delivered
    rcases x.deliver key event s.channel.journal with ⟨ready, y, journal⟩
    intro delivered
    have put : s.Silent (s.putRunner y { s.channel with journal }) := silent_of_journal rfl rfl delivered
    cases ready with
    | none => exact put
    | some node => exact put.trans (tryStart_silent _ _ _)

theorem startKnownNode_silent (runner : RunnerId) (node : NodeId) (s : Scene) :
    s.Silent (s.startKnownNode runner node) := by
  unfold startKnownNode
  split
  · exact tryStart_silent runner node s
  · exact note_silent rfl s

theorem deliverRunner_silent (id : RunnerId) (event : StoryEvent) (s : Scene) :
    s.Silent (s.deliverRunner id event).2 := by
  unfold deliverRunner
  split
  · split
    · exact startKnownNode_silent _ _ s
    · exact .refl s
  · rename_i storyboard node
    split
    · exact .refl s
    · rename_i x _
      dsimp only
      split
      · rename_i y ch other
        exact silent_of_journal rfl rfl (Runner.receiveJump_silent other)
      · rename_i y ch mine
        have put : s.Silent (s.putRunner y ch) :=
          silent_of_journal rfl rfl (Runner.receiveJump_silent mine)
        exact (put.trans (note_silent rfl _)).trans (startKnownNode_silent _ _ _)
  · exact .refl s

theorem deliverTo_informs (event : StoryEvent) (claimed : Bool) (s : Scene) (id : SubscriptionId) :
    s.Informs (if s.channel.bus.observes id then [(id, event)] else []) (deliverTo event (claimed, s) id).2 := by
  have routed := s.channel.route_informs id event
  unfold deliverTo
  dsimp only
  revert routed
  rcases s.channel.route id event with ⟨route, ch⟩
  intro routed
  have told : s.Informs _ { s with channel := ch } := ⟨rfl, .same, routed⟩
  cases route with
  | none => exact told
  | some route =>
      cases route with
      | condition key => exact told.thenSilent (deliverCondition_silent key event _)
      | runner runner => exact told.thenSilent (deliverRunner_silent runner event _)

theorem settle_silent (event : StoryEvent) (claimed : Bool) (s : Scene) : s.Silent (s.settle event claimed) := by
  unfold settle
  split
  · split
    · exact .refl s
    · exact note_silent rfl s
  · dsimp only
    refine Informs.thenSilent ?_ (release_silent _)
    split <;> split <;>
      first
        | exact .refl s
        | exact note_silent rfl s
        | exact completeNode_silent _ _ s
        | exact (note_silent rfl s).trans (completeNode_silent _ _ _)
  · exact .refl s

theorem deliverEvent_unscripted (s : Scene) (event : StoryEvent) : s.Unscripted (s.deliverEvent event) := by
  have served : ∀ (ids : List SubscriptionId) (state : Bool × Scene),
      state.2.Unscripted (ids.foldl (deliverTo event) state).2 := by
    intro ids
    induction ids with
    | nil => exact fun state => .refl state.2
    | cons id ids ih => exact fun state => (deliverTo_informs event state.1 state.2 id).unscripted.trans (ih _)
  exact (served _ (false, s)).trans (settle_silent event _ _).unscripted

/-- What scheduling and delivery have come to before the program goes on. -/
theorem tick_unscripted (s : Scene) : s.Unscripted s.kickstart.drain := by
  have delivered : ∀ (events : List StoryEvent) (s : Scene), s.Unscripted (events.foldl deliverEvent s) := by
    intro events
    induction events with
    | nil => exact fun s => .refl s
    | cons event events ih => exact fun s => (deliverEvent_unscripted s event).trans (ih _)
  have taken : s.kickstart.Silent { s.kickstart with channel := s.kickstart.channel.takeBatch.2 } :=
    silent_of_journal rfl rfl (.refl _)
  exact ((kickstart_silent s).trans taken).unscripted.trans (delivered _ _)

/-! ### What a host does -/

private theorem restore_takes (entries : List SnapshotEntry) (s : Scene) :
    s.interpreter.Takes (s.restore entries).interpreter := by
  have read : ∀ (entries : List SnapshotEntry) (state : List (RunnerId × NodeId) × Scene),
      (entries.foldl restoreEntry state).2.interpreter = state.2.interpreter := by
    intro entries
    induction entries with
    | nil => exact fun _ => rfl
    | cons entry entries ih =>
        intro state
        refine (ih _).trans ?_
        unfold restoreEntry
        split
        split <;> rfl
  have same := read entries ([], s)
  unfold restore
  revert same
  rcases entries.foldl restoreEntry ([], s) with ⟨ready, t⟩
  intro same
  have started := foldl_silent startUnlessWaiting_silent ready
    { t with pending := t.pending.filter fun q => t.statusOf? q.runner q.node = some .notStarted }
  have takes := (started.trans (release_silent _)).interpreter
  rw [show s.interpreter = t.interpreter from same.symm]
  exact takes

namespace Operation

/-- No program goes on, and the player gives it no input. -/
def IsBeside : Operation → Prop
  | tick _ | continueInput | selectChoice _ | requestSkip => False
  | _ => True

theorem beside_or (op : Operation) :
    op.IsBeside ∨ (∃ elapsed, op = tick elapsed) ∨ op = continueInput ∨ (∃ index, op = selectChoice index) ∨
      op = requestSkip := by
  cases op <;> simp [IsBeside]

theorem perform_takes {op : Operation} (beside : op.IsBeside) (s : Scene) :
    s.interpreter.Takes (op.perform s).interpreter := by
  cases op with
  | register r =>
      change s.interpreter.Takes (s.register r).2.interpreter
      unfold Scene.register
      split
      · exact .same
      · cases made : r.setUp s.channel with
        | mk ready made' =>
            obtain ⟨rfl, -⟩ := Runner.setUp_made made
            exact .same
  | unregister id =>
      change s.interpreter.Takes (s.unregister id).2.interpreter
      unfold Scene.unregister
      split
      · exact .same
      · split <;> exact .same
  | tick elapsed => exact False.elim beside
  | continueInput => exact False.elim beside
  | selectChoice index => exact False.elim beside
  | requestSkip => exact False.elim beside
  | publish event => exact .same
  | trigger runner node =>
      change s.interpreter.Takes ((s.trigger runner node).toOption.getD s).interpreter
      unfold Scene.trigger
      split
      · exact .same
      · split
        · exact (tryStart_silent runner node s).interpreter
        · exact .same
  | enqueue runner node => exact .same
  | tryStart runner node => exact (tryStart_silent runner node s).interpreter
  | start runner node => exact (startNode_silent runner node s).interpreter
  | release => exact (release_silent s).interpreter
  | kickstart => exact (kickstart_silent s).interpreter
  | observe topic => exact .same
  | stopObserving id => exact .same
  | restore entries => exact restore_takes entries s

theorem continueInput_interpreter (s : Scene) :
    (continueInput.perform s).interpreter = s.interpreter ∨
      (continueInput.perform s).interpreter = { s.interpreter with waitingForInput := false } := by
  change (s.continueInput.toOption.getD s).interpreter = _ ∨ (s.continueInput.toOption.getD s).interpreter = _
  unfold Scene.continueInput Interpreter.continueInput
  split
  · exact .inr rfl
  · exact .inl rfl

/-- Options are chosen only where the program has come to some. -/
theorem selectChoice_interpreter (index : Nat) (s : Scene) :
    (selectChoice index |>.perform s).interpreter = s.interpreter ∨
      s.interpreter.options? ≠ none ∧ ∃ cursor,
        (selectChoice index |>.perform s).interpreter = { s.interpreter with cursor, suspension := none } := by
  change ((s.selectChoice index).toOption.getD s).interpreter = _ ∨
    _ ∧ ∃ cursor, ((s.selectChoice index).toOption.getD s).interpreter = _
  unfold Scene.selectChoice Interpreter.selectChoice
  split
  · exact .inl rfl
  · rename_i options waiting
    split
    · exact .inl rfl
    · exact .inr ⟨by simp [waiting], _, rfl⟩

end Operation

end Scene

end Plotline
