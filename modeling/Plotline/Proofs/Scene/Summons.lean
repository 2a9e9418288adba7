import Plotline.Proofs.Scene.Announcement
import Plotline.Proofs.Scene.Subscriptions

/-!
What becomes of a trigger when it is delivered. Of all that listen to triggers only the runner that is named answers,
and it listens once; so its node is requested once, whoever else is there. It listens as long as the host leaves it the
handle for that.
-/

namespace Plotline

theorem ConditionKind.topic_ne_triggerRequested (kind : ConditionKind) : kind.topic ≠ .triggerRequested := by
  cases kind <;> nofun

namespace Scene

variable {s : Scene} {o : Observing} {runner : RunnerId} {node : NodeId} {event : StoryEvent}

/-- The observers hear of the event, one after the other. -/
def overhear (ids : List SubscriptionId) (event : StoryEvent) (s : Scene) : Scene :=
  { s with channel := { s.channel with journal := (ids.map (Entry.observed · event)).reverse ++ s.channel.journal } }

theorem overhear_append (first later : List SubscriptionId) (event : StoryEvent) (s : Scene) :
    s.overhear (first ++ later) event = (s.overhear first event).overhear later event := by
  simp [overhear]

theorem Coherent.overhear (coherent : s.Coherent) (ids : List SubscriptionId) (event : StoryEvent) :
    (s.overhear ids event).Coherent :=
  ⟨coherent.attached, coherent.emitted, coherent.owned, coherent.listed, coherent.loaded⟩

/-- The runner is subscribed to triggers. -/
def Heeds (runner : RunnerId) (s : Scene) : Prop :=
  ∃ x ∈ s.channel.bus.subscriptions, x.topic = .triggerRequested ∧ x.listener = .runner runner

instance : Decidable (s.Heeds runner) := by
  unfold Heeds
  infer_instance

/-- What a trigger comes to: its node is requested, if there is such a node and its runner is told. -/
def answerTrigger (runner : RunnerId) (node : NodeId) (s : Scene) : Scene :=
  match s.runner? runner with
  | none => s.note (.triggerUnclaimed runner)
  | some x =>
      if ¬ s.Heeds runner then s.note (.triggerUnclaimed runner)
      else if x.contains node then s.tryStart runner node
      else s.note (.dataError (.unknownNode runner node))

theorem answerTrigger_of_heeds {x : Runner} (found : s.runner? runner = some x) (heeds : s.Heeds runner) :
    s.answerTrigger runner node = s.startKnownNode runner node := by
  unfold answerTrigger startKnownNode
  rw [found]
  exact if_neg (not_not.mpr heeds)

theorem answerTrigger_of_not_heeds (deaf : ¬ s.Heeds runner) :
    s.answerTrigger runner node = s.note (.triggerUnclaimed runner) := by
  unfold answerTrigger
  split
  · rfl
  · exact if_pos deaf

/-- The subscription has no part in what the runner is told. -/
def Bystands (runner : RunnerId) (x : Subscription) : Prop :=
  x.listener = .observer ∨ ∃ other, other ≠ runner ∧ x.listener = .runner other

/-! ### Delivery to one subscription -/

theorem deliverTo_of_bystands {x : Subscription} (listed : s.channel.bus.find? x.id = some x)
    (bystands : Bystands runner x) (claimed : Bool) :
    deliverTo (.triggerRequested runner node) (claimed, s) x.id =
      (claimed, s.overhear (([x].filter (·.listener = .observer)).map (·.id)) (.triggerRequested runner node)) := by
  rcases bystands with observes | ⟨other, different, listens⟩
  · have routed : s.channel.route x.id (.triggerRequested runner node) =
        (none, (s.overhear [x.id] (.triggerRequested runner node)).channel) := by
      rw [Channel.route, listed]
      dsimp only
      rw [observes]
      rfl
    unfold deliverTo
    dsimp only
    rw [routed, List.filter_cons_of_pos (by simpa using observes)]
    rfl
  · have routed : s.channel.route x.id (.triggerRequested runner node) = (some (.runner other), s.channel) := by
      rw [Channel.route, listed]
      dsimp only
      rw [listens]
      rfl
    unfold deliverTo
    dsimp only
    rw [routed, List.filter_cons_of_neg (by simp [listens])]
    dsimp only [deliverRunner]
    rw [if_neg different.symm, Bool.or_false]
    rfl

/-- Those who have no part in a trigger hear of it, and nothing else happens. -/
theorem foldl_bystands (list : List Subscription) (s : Scene)
    (listed : ∀ x ∈ list, s.channel.bus.find? x.id = some x) (bystand : ∀ x ∈ list, Bystands runner x) (claimed : Bool) :
    list.foldl (fun state x => deliverTo (.triggerRequested runner node) state x.id) (claimed, s) =
      (claimed, s.overhear ((list.filter (·.listener = .observer)).map (·.id)) (.triggerRequested runner node)) := by
  induction list generalizing s with
  | nil => rfl
  | cons x list ih =>
      rw [List.foldl_cons, deliverTo_of_bystands (listed x List.mem_cons_self) (bystand x List.mem_cons_self)]
      have rest := ih (s.overhear (([x].filter (·.listener = .observer)).map (·.id)) (.triggerRequested runner node))
        (fun y member => listed y (List.mem_cons_of_mem x member))
        (fun y member => bystand y (List.mem_cons_of_mem x member))
      rw [rest, ← overhear_append, ← List.map_append, ← List.filter_append]
      rfl

theorem deliverTo_of_own {x : Subscription} (listed : s.channel.bus.find? x.id = some x)
    (own : x.listener = .runner runner) (claimed : Bool) :
    deliverTo (.triggerRequested runner node) (claimed, s) x.id = (true, s.startKnownNode runner node) := by
  have routed : s.channel.route x.id (.triggerRequested runner node) = (some (.runner runner), s.channel) := by
    rw [Channel.route, listed]
    dsimp only
    rw [own]
    rfl
  unfold deliverTo
  dsimp only
  rw [routed]
  dsimp only [deliverRunner]
  rw [if_pos rfl, Bool.or_true]

theorem startKnownNode_subscriptions (coherent : s.Coherent) (runner : RunnerId) (node : NodeId) :
    (s.startKnownNode runner node).channel.bus.subscriptions = s.channel.bus.subscriptions := by
  have steps : Steps (.tick 0) False False ⟨s, [], false⟩ ⟨s.startKnownNode runner node, [], false⟩ :=
    startKnownNode_steps coherent runner node
  exact Turns.subscriptions steps trivial

/-- Among those who have no part in a trigger its runner is told once. -/
theorem foldl_own (node : NodeId) (coherent : s.Coherent) {before after : List Subscription} {own : Subscription}
    (listens : own.listener = .runner runner)
    (listed : ∀ x ∈ before ++ own :: after, s.channel.bus.find? x.id = some x)
    (bystand : ∀ x ∈ before ++ after, Bystands runner x) :
    (before ++ own :: after).foldl (fun state x => deliverTo (.triggerRequested runner node) state x.id) (false, s) =
      (true, ((s.overhear ((before.filter (·.listener = .observer)).map (·.id))
        (.triggerRequested runner node)).startKnownNode runner node).overhear
          ((after.filter (·.listener = .observer)).map (·.id)) (.triggerRequested runner node)) := by
  obtain ⟨early, late⟩ := List.forall_mem_append.mp bystand
  obtain ⟨listedBefore, rest⟩ := List.forall_mem_append.mp listed
  obtain ⟨listedOwn, listedAfter⟩ := List.forall_mem_cons.mp rest
  have heard := coherent.overhear ((before.filter (·.listener = .observer)).map (·.id)) (.triggerRequested runner node)
  rw [List.foldl_append, List.foldl_cons, foldl_bystands before s listedBefore early]
  rw [deliverTo_of_own (s := s.overhear _ _) listedOwn listens, foldl_bystands after _ ?_ late]
  intro x member
  unfold Bus.find?
  rw [startKnownNode_subscriptions heard]
  exact listedAfter x member

/-! ### Who listens to triggers -/

/-- Whoever observes is an observer. -/
theorem observing_made (ops : List Operation) (s : Scene) (observers : ∀ x ∈ o.made, x.listener = .observer) :
    ∀ x ∈ (observing ops s o).made, x.listener = .observer := by
  induction ops generalizing s o with
  | nil => exact observers
  | cons op ops ih =>
      refine ih (op.perform s) ?_
      unfold Observing.after
      split
      · refine List.forall_mem_append.mpr ⟨observers, ?_⟩
        simp
      · split <;> exact observers
      · exact observers

/-- A runner that is there and does not listen to triggers has lost a handle to the host, which was never given that
handle for an observer. -/
theorem Ledger.heeds (ledger : Ledger o s) {r : Runner} (found : s.runner? runner = some r) :
    s.Heeds runner ∨ ∃ id ∈ r.subscriptions, id ∈ o.stopped ∧ id ∉ o.made.map (·.id) := by
  obtain ⟨there, rfl⟩ := And.intro (List.mem_of_find?_eq_some found) (id_of_runner? found)
  obtain ⟨jumps, triggers, own⟩ := (ledger.wired r there).own
  have wires : r.Wires ⟨triggers, .triggerRequested, .runner r.id⟩ := .own (by simp [own, Runner.ownTopics])
  by_cases stopped : triggers ∈ o.stopped
  · refine Or.inr ⟨triggers, by simp [own], stopped, fun made => ?_⟩
    obtain ⟨v, made, same⟩ := List.mem_map.mp made
    exact ledger.apart there made wires same
  · exact Or.inl ⟨_, (ledger.accounted.exact _).mpr ⟨Or.inr ⟨r, there, wires⟩, stopped⟩, rfl, rfl⟩

/-- The subscriptions to triggers. -/
def heeding (s : Scene) : List Subscription := s.channel.bus.subscriptions.filter (·.topic = .triggerRequested)

theorem mem_heeding {x : Subscription} :
    x ∈ s.heeding ↔ x ∈ s.channel.bus.subscriptions ∧ x.topic = .triggerRequested := by
  simp [heeding]

/-- Only observers and runners are subscribed to triggers, and a runner is with the second of its handles. -/
private theorem Accounted.who (accounted : Accounted o s) (observers : ∀ x ∈ o.made, x.listener = .observer)
    {x : Subscription} (member : x ∈ s.heeding) :
    x.listener = .observer ∨
      ∃ r ∈ s.runners, ∃ jumps, r.subscriptions = [jumps, x.id] ∧ x.listener = .runner r.id := by
  obtain ⟨member, topic⟩ := mem_heeding.mp member
  rcases ((accounted.exact x).mp member).1 with made | ⟨r, there, wires⟩
  · exact Or.inl (observers x made)
  · cases wires with
    | condition first slot held => exact absurd topic (ConditionKind.topic_ne_triggerRequested _)
    | own held =>
        dsimp only at topic
        subst topic
        obtain ⟨jumps, triggers, own⟩ := accounted.own r there
        refine Or.inr ⟨r, there, jumps, ?_, rfl⟩
        rw [own] at held ⊢
        simpa [Runner.ownTopics, eq_comm] using held

theorem Accounted.bystands (accounted : Accounted o s) (observers : ∀ x ∈ o.made, x.listener = .observer)
    {x : Subscription} (member : x ∈ s.heeding) (other : x.listener ≠ .runner runner) : Bystands runner x := by
  rcases accounted.who observers member with observes | ⟨r, -, -, -, listens⟩
  · exact Or.inl observes
  · exact Or.inr ⟨r.id, fun same => other (same ▸ listens), listens⟩

/-- The handle with which a runner listens to triggers is its own. -/
theorem Accounted.registered (accounted : Accounted o s) (owned : s.Owned)
    (observers : ∀ x ∈ o.made, x.listener = .observer) {x : Subscription} (member : x ∈ s.heeding)
    (listens : x.listener = .runner runner) :
    ∃ r jumps, s.runner? runner = some r ∧ r.subscriptions = [jumps, x.id] := by
  rcases accounted.who observers member with observes | ⟨r, there, jumps, own, told⟩
  · cases listens.symm.trans observes
  · cases listens.symm.trans told
    exact ⟨r, jumps, owned r there, own⟩

/-- A runner listens to triggers once. -/
theorem Accounted.others_bystand (accounted : Accounted o s) (owned : s.Owned)
    (observers : ∀ x ∈ o.made, x.listener = .observer) {before after : List Subscription} {x : Subscription}
    (whole : s.heeding = before ++ x :: after) (listens : x.listener = .runner runner) :
    ∀ y ∈ before ++ after, Bystands runner y := by
  have once : ((before ++ x :: after).map (·.id)).Nodup :=
    whole ▸ accounted.distinct.sublist (List.filter_sublist.map _)
  have member : x ∈ s.heeding := by
    rw [whole]
    simp
  intro y among
  have there : y ∈ s.heeding := by
    rw [whole, List.mem_append]
    exact (List.mem_append.mp among).imp_right (List.mem_cons_of_mem _)
  refine accounted.bystands observers there fun told => ?_
  obtain ⟨r, jumps, found, own⟩ := accounted.registered owned observers member listens
  obtain ⟨r', jumps', same, own'⟩ := accounted.registered owned observers there told
  cases found.symm.trans same
  -- both are the second handle of the runner, and no handle occurs twice
  obtain ⟨-, twice⟩ : jumps = jumps' ∧ x.id = y.id := by simpa using own.symm.trans own'
  rw [List.map_append, List.map_cons, List.nodup_middle, ← List.map_append, twice] at once
  exact (List.nodup_cons.mp once).1 (List.mem_map_of_mem among)

/-! ### Delivery to everyone -/

/-- A trigger that is delivered is answered once, amid the observers that hear of it. -/
theorem deliverEvent_trigger (accounted : Accounted o s) (coherent : s.Coherent)
    (observers : ∀ x ∈ o.made, x.listener = .observer) (runner : RunnerId) (node : NodeId) :
    ∃ before after, before ++ after = s.channel.bus.observersOf .triggerRequested ∧
      s.deliverEvent (.triggerRequested runner node) =
        ((s.overhear before (.triggerRequested runner node)).answerTrigger runner node).overhear after
          (.triggerRequested runner node) := by
  have served : s.served (.triggerRequested runner node) =
      s.heeding.foldl (fun state x => deliverTo (.triggerRequested runner node) state x.id) (false, s) :=
    List.foldl_map
  have hearers : s.channel.bus.observersOf .triggerRequested =
      (s.heeding.filter (·.listener = .observer)).map (·.id) := by
    unfold Bus.observersOf heeding
    rw [List.filter_filter]
    simp only [Bool.decide_and]
  have listed : ∀ x ∈ s.heeding, s.channel.bus.find? x.id = some x :=
    fun x member => find?_of_nodup accounted.distinct (mem_heeding.mp member).1
  rw [deliverEvent_eq, served, hearers]
  by_cases heeds : s.Heeds runner
  · obtain ⟨x, subscribed, topic, listens⟩ := heeds
    have member := mem_heeding.mpr ⟨subscribed, topic⟩
    obtain ⟨r, -, found, -⟩ := accounted.registered coherent.owned observers member listens
    obtain ⟨before, after, whole⟩ := List.append_of_mem member
    have bystand := accounted.others_bystand coherent.owned observers whole listens
    rw [whole] at listed ⊢
    rw [foldl_own node coherent listens listed bystand]
    rw [List.filter_append, List.filter_cons_of_neg (by simp [listens]), List.map_append]
    refine ⟨_, _, rfl, ?_⟩
    rw [answerTrigger_of_heeds (s := s.overhear _ _) found ⟨x, subscribed, topic, listens⟩]
    rfl
  · have bystand : ∀ x ∈ s.heeding, Bystands runner x := by
      intro x member
      obtain ⟨subscribed, topic⟩ := mem_heeding.mp member
      exact accounted.bystands observers member fun listens => heeds ⟨x, subscribed, topic, listens⟩
    rw [foldl_bystands s.heeding s listed bystand]
    refine ⟨_, [], List.append_nil _, ?_⟩
    rw [answerTrigger_of_not_heeds (s := s.overhear _ _) heeds]
    rfl

/-! ### Whole runs -/

/-- The subscriptions stay accounted for up to each event that a tick delivers. -/
private theorem ledger_of_delivery (ledger : Ledger o s) (coherent : s.Coherent) {elapsed : Duration}
    {delivery : Scene × StoryEvent} (member : delivery ∈ (Operation.tick elapsed).deliveries s) :
    delivery.1.Coherent ∧ Ledger o delivery.1 := by
  obtain ⟨rest, steps⟩ : ∃ rest,
      Steps (.tick elapsed) True False ⟨s, [], false⟩ ⟨delivery.1, delivery.2 :: rest, false⟩ :=
    tick_deliveries coherent (fun _ => trivial) delivery member
  have each : ∀ t t', Step (.tick elapsed) True False t t' → t.scene.Coherent → Ledger o t.scene → Ledger o t'.scene :=
    fun _ _ step coherent ledger => step.ledger coherent trivial nofun nofun ledger
  exact steps.keeps each coherent ledger

/-- What programs carry out in a tick is published in the tick: round for round the triggers, each once and in order, and
then what the end of the program has for a consequence; no other trigger is among the events. And a trigger that is
delivered is answered once, whoever else is there: by a request for its node if the runner that it names has the node and
listens, and else by none. A runner that is there listens, unless the host has given back a handle of the runner instead
of one of its own observers. -/
theorem triggers_answered_once (settings : Settings) (stage : Stage) (earlier : List Operation) (elapsed : Duration)
    (new : ∀ op ∈ earlier, op.RegistersNew) :
    let s := run earlier (empty settings stage)
    let o := observing earlier (empty settings stage) {}
    s.tick elapsed = ((s.rounds elapsed).map Round.result).getLast?.getD s.kickstart.drain ∧
      (∃ (others : List StoryEvent) (told : List (Round × List StoryEvent)),
        (∀ event ∈ others, event.topic ≠ .triggerRequested) ∧ told.map Prod.fst = s.rounds elapsed ∧
        (∀ entry ∈ told, entry.1.Announces entry.2) ∧
        (s.tick elapsed).channel.journal.published =
          s.channel.journal.published ++ others ++ told.flatMap fun entry => entry.1.summons ++ entry.2) ∧
      ∀ delivery ∈ (Operation.tick elapsed).deliveries s, ∀ runner,
        (∀ r, delivery.1.runner? runner = some r →
          delivery.1.Heeds runner ∨ ∃ id ∈ r.subscriptions, id ∈ o.stopped ∧ id ∉ o.made.map (·.id)) ∧
          ∀ node, delivery.2 = .triggerRequested runner node →
            ∃ before after, before ++ after = delivery.1.channel.bus.observersOf .triggerRequested ∧
              delivery.1.deliverEvent delivery.2 =
                ((delivery.1.overhear before delivery.2).answerTrigger runner node).overhear after delivery.2 := by
  intro s o
  have sound := empty_sound settings stage
  have each : ∀ (op : Operation) (s : Scene), True → s.Coherent ∧ s.interpreter.table = .standard →
      (op.perform s).Coherent ∧ (op.perform s).interpreter.table = .standard :=
    fun op s _ kept => ⟨perform_coherent op s kept.1, perform_standard op s kept.1 kept.2⟩
  obtain ⟨coherent, standard⟩ : s.Coherent ∧ s.interpreter.table = .standard :=
    run_keeps each earlier _ (obeys_of_forall earlier _ fun _ _ => trivial) ⟨sound.toCoherent, rfl⟩
  have ledger : Ledger o s := run_ledger earlier sound.toCoherent new (empty_ledger settings stage)
  have observers := observing_made (o := {}) earlier (empty settings stage) (List.forall_mem_nil _)
  obtain ⟨-, last, published⟩ := tick_announces elapsed coherent standard
  refine ⟨last, published, ?_⟩
  rintro ⟨t, event⟩ member runner
  obtain ⟨coherentThen, ledgerThen⟩ := ledger_of_delivery ledger coherent member
  refine ⟨fun r found => ledgerThen.heeds found, ?_⟩
  rintro node rfl
  exact deliverEvent_trigger ledgerThen.accounted coherentThen observers runner node

/-- A herald who calls the cook and a ghost, and calls nobody a third time. -/
private def herald : RunnerDefinition :=
  { id := ⟨"herald"⟩
    storyboard :=
      { name := ⟨"tower"⟩
        nodes :=
          [{ id := ⟨"call"⟩
             isStart := true
             program :=
               { instructions :=
                   [.trigger ⟨"cook"⟩ ⟨"meal"⟩, .trigger ⟨"ghost"⟩ ⟨"walk"⟩, .trigger ⟨""⟩ ⟨"walk"⟩] } }] } }

private def cook : RunnerDefinition :=
  { id := ⟨"cook"⟩
    storyboard :=
      { name := ⟨"kitchen"⟩
        nodes := [{ id := ⟨"meal"⟩, program := { instructions := [.dialogue "C" "Soup!" none] } }] } }

/-- Somebody listens while the cook is asked for a meal, and for what he cannot do. -/
private def atNoon : List Operation :=
  [.register (.ofDefinition herald), .register (.ofDefinition cook), .observe .triggerRequested,
    .publish (.triggerRequested ⟨"cook"⟩ ⟨"meal"⟩), .publish (.triggerRequested ⟨"cook"⟩ ⟨"dance"⟩)]

/-- The two calls of the herald are published, and the two requests of the host are answered. -/
theorem herald_answered :
    let s := run atNoon (empty {} .instant)
    (∀ op ∈ atNoon, op.RegistersNew) ∧
      (∃ round ∈ s.rounds 0, ∃ consequences, round.Announces consequences ∧
        round.summons = [.triggerRequested ⟨"cook"⟩ ⟨"meal"⟩, .triggerRequested ⟨"ghost"⟩ ⟨"walk"⟩]) ∧
      ∀ node ∈ [⟨"meal"⟩, ⟨"dance"⟩], ∃ delivery ∈ (Operation.tick 0).deliveries s,
        delivery.2 = .triggerRequested ⟨"cook"⟩ node ∧ delivery.1.Heeds ⟨"cook"⟩ ∧
          ∃ before after, before ++ after = delivery.1.channel.bus.observersOf .triggerRequested ∧
            delivery.1.deliverEvent delivery.2 =
              ((delivery.1.overhear before delivery.2).answerTrigger ⟨"cook"⟩ node).overhear after delivery.2 := by
  intro s
  have new : ∀ op ∈ atNoon, op.RegistersNew := by
    simp [atNoon, Operation.RegistersNew, Runner.ofDefinition, Runner.Unsubscribed, herald, cook]
  obtain ⟨-, ⟨others, told, -, places, announced, -⟩, answered⟩ :=
    triggers_answered_once {} .instant atNoon 0 new
  have summoned : (s.rounds 0).map Round.summons =
      [[.triggerRequested ⟨"cook"⟩ ⟨"meal"⟩, .triggerRequested ⟨"ghost"⟩ ⟨"walk"⟩], []] := by
    decide +kernel
  have delivered : ((Operation.tick 0).deliveries s).map Prod.snd =
      [.triggerRequested ⟨"cook"⟩ ⟨"meal"⟩, .triggerRequested ⟨"cook"⟩ ⟨"dance"⟩,
        .nodeStarted ⟨"herald"⟩ ⟨"tower"⟩ ⟨"call"⟩] := by
    decide +kernel
  have heeding : ∀ delivery ∈ (Operation.tick 0).deliveries s, delivery.1.Heeds ⟨"cook"⟩ := by decide +kernel
  refine ⟨new, ?_, ?_⟩
  · obtain ⟨round, there, summons⟩ := List.mem_map.mp (summoned ▸ List.mem_cons_self)
    obtain ⟨entry, member, rfl⟩ := List.mem_map.mp (places ▸ there)
    exact ⟨entry.1, there, entry.2, announced entry member, summons⟩
  · intro node asked
    have among : .triggerRequested ⟨"cook"⟩ node ∈ ((Operation.tick 0).deliveries s).map Prod.snd := by
      rw [delivered]
      simpa using asked
    obtain ⟨delivery, member, is⟩ := List.mem_map.mp among
    exact ⟨delivery, member, is, heeding delivery member, (answered delivery member ⟨"cook"⟩).2 node is⟩

/-- The cook is there and has the meal, but the host has given back the handle with which he listens to triggers. -/
theorem silenced_cook_idle :
    ¬ ∀ settings stage earlier elapsed, (∀ op ∈ earlier, op.RegistersNew) →
      ∀ delivery ∈ (Operation.tick elapsed).deliveries (run earlier (empty settings stage)), ∀ runner x node,
        delivery.2 = .triggerRequested runner node → delivery.1.runner? runner = some x → x.contains node = true →
          ∃ before after, before ++ after = delivery.1.channel.bus.observersOf .triggerRequested ∧
            delivery.1.deliverEvent delivery.2 =
              ((delivery.1.overhear before delivery.2).tryStart runner node).overhear after delivery.2 := by
  intro answered
  let earlier := silencing (.ofDefinition cook) ++ [.publish (.triggerRequested ⟨"cook"⟩ ⟨"meal"⟩)]
  let deliveries := (Operation.tick 0).deliveries (run earlier (empty {} .instant))
  have new : ∀ op ∈ earlier, op.RegistersNew := by
    have unsubscribed : Runner.Unsubscribed (Runner.ofDefinition cook).storyboard.nodes := by
      simp [Runner.ofDefinition, Runner.Unsubscribed, cook]
    exact List.forall_mem_append.mpr ⟨silencing_new rfl unsubscribed, List.forall_mem_singleton.mpr trivial⟩
  have asked : deliveries.map Prod.snd = [.triggerRequested ⟨"cook"⟩ ⟨"meal"⟩] := by decide +kernel
  have known : ∀ delivery ∈ deliveries, (delivery.1.runner? ⟨"cook"⟩).any (·.contains ⟨"meal"⟩) := by decide +kernel
  have unobserved : ∀ delivery ∈ deliveries, delivery.1.channel.bus.observersOf .triggerRequested = [] := by
    decide +kernel
  have idle : ∀ delivery ∈ deliveries, (delivery.1.deliverEvent delivery.2).active = none := by decide +kernel
  have begun : ∀ delivery ∈ deliveries, (delivery.1.tryStart ⟨"cook"⟩ ⟨"meal"⟩).active ≠ none := by decide +kernel
  obtain ⟨delivery, member, is⟩ := List.mem_map.mp (asked ▸ List.mem_singleton_self _)
  obtain ⟨x, found, contains⟩ := (Option.any_eq_true _ _).mp (known delivery member)
  obtain ⟨before, after, whole, answer⟩ :=
    answered {} .instant earlier 0 new delivery member ⟨"cook"⟩ x ⟨"meal"⟩ is found contains
  rw [unobserved delivery member, List.append_eq_nil_iff] at whole
  obtain ⟨rfl, rfl⟩ := whole
  exact begun delivery member ((congrArg Scene.active answer).symm.trans (idle delivery member))

end Scene

end Plotline
