import Plotline.Proofs.Runner.Wiring
import Plotline.Proofs.Scene.Enrolment
import Plotline.Proofs.Scene.Frame
import Plotline.Proofs.Scene.Package
import Plotline.Proofs.Scene.Perform

/-!
Who can take a subscription away. A runner that is registered first gives back all the handles that it holds, whoever they
were handed out to; nothing else about it concerns the others. So those subscriptions go whose handles it brings along, as
it does if its storyboard is a copy of one that is in use. All others stay, and their events are brought to them as if it
had not come.
-/

namespace Plotline.Scene

variable {op : Operation} {returning past : Prop} {s s' : Scene} {runner : RunnerId}

/-- Each runner has been there under its id, with the same handles. -/
def Retained (s s' : Scene) : Prop := ∀ z ∈ s'.runners, ∃ x ∈ s.runners, z.id = x.id ∧ z.handles = x.handles

/-- What becomes of the subscriptions, and of the handles that runners hold, in one step. -/
inductive Handover (op : Operation) (s s' : Scene) : Prop
  | kept (subscriptions : s'.channel.bus.subscriptions = s.channel.bus.subscriptions)
      (nextId : s'.channel.bus.nextId = s.channel.bus.nextId) (runners : Retained s s')
  | observed {x : Subscription} (asked : ∃ topic, op = .observe topic) (listens : x.listener = .observer)
      (extension : Bus.Extends [x] s.channel.bus s'.channel.bus) (runners : Retained s s')
  | stopped {id : SubscriptionId} (asked : op = .stopObserving id) (sheds : Channel.Sheds [id] s.channel s'.channel)
      (runners : Retained s s')
  | joined {x y : Runner} {ch : Channel} (asked : op = .register x) (fresh : s.runner? y.id = none)
      (sheds : Channel.Sheds x.handles s.channel ch) (extension : Bus.Extends y.wires ch.bus s'.channel.bus)
      (wired : y.Wired) (runners : s'.runners = insertRunner y s.runners)
  | parted {id : RunnerId} {x : Runner} (asked : op = .unregister id) (found : s.runner? id = some x)
      (sheds : Channel.Sheds x.handles s.channel s'.channel) (runners : Retained s s')

private theorem retained_of_same (runners : s'.runners = s.runners) : Retained s s' := by
  intro z member
  exact ⟨z, runners ▸ member, rfl, rfl⟩

private theorem handover_of_quiet (subscriptions : s'.channel.bus.subscriptions = s.channel.bus.subscriptions)
    (nextId : s'.channel.bus.nextId = s.channel.bus.nextId) (runners : s'.runners = s.runners) : Handover op s s' :=
  .kept subscriptions nextId (retained_of_same runners)

private theorem handover_of_put {id : RunnerId} {x y : Runner} (found : s.runner? id = some x) (retains : x.Retains y)
    (subscriptions : s'.channel.bus.subscriptions = s.channel.bus.subscriptions)
    (nextId : s'.channel.bus.nextId = s.channel.bus.nextId)
    (runners : s'.runners = (s.putRunner y s.channel).runners) : Handover op s s' := by
  refine .kept subscriptions nextId ?_
  intro z member
  rw [runners] at member
  rcases mem_putRunner retains.id member with rfl | ⟨old, -⟩
  · exact ⟨x, List.mem_of_find?_eq_some found, retains.id, retains.handles⟩
  · exact ⟨z, old, rfl, rfl⟩

theorem Step.handover {t t' : Turn} (step : Step op returning past t t') : Handover op t.scene t'.scene := by
  cases step with
  | quiet grown => exact handover_of_quiet grown.subscriptions grown.nextId rfl
  | directed program emitted grown => exact handover_of_quiet grown.subscriptions grown.nextId rfl
  | started free found waiting known program emitted grown opens =>
      exact handover_of_put found (Runner.setStatus_retains (Runner.contains_of_status waiting) _) grown.subscriptions
        grown.nextId rfl
  | passed free found waiting grown opens =>
      have begun := Runner.setStatus_retains (Runner.contains_of_status waiting) .inProgress
      exact handover_of_put found (begun.trans (Runner.afterEnd_retains _ _)) grown.subscriptions grown.nextId rfl
  | jammed free busy found waiting grown =>
      have begun := Runner.setStatus_retains (Runner.contains_of_status waiting) .inProgress
      exact handover_of_put found (begun.trans (Runner.afterEnd_retains _ _)) grown.subscriptions grown.nextId rfl
  | resumed program emitted topics grown => exact handover_of_quiet grown.subscriptions grown.nextId rfl
  | finished active found program emitted topics grown =>
      exact handover_of_put found (Runner.afterEnd_retains _ _) grown.subscriptions grown.nextId rfl
  | branched active program emitted topics grown => exact handover_of_quiet grown.subscriptions grown.nextId rfl
  | orphaned free busy program emitted topics grown => exact handover_of_quiet grown.subscriptions grown.nextId rfl
  | delivered first found made => exact handover_of_put found (Runner.deliver_retains made) rfl rfl rfl
  | cleared found inactive grown =>
      exact handover_of_put found (Runner.afterEnd_retains _ _) grown.subscriptions grown.nextId rfl
  | originEnded jump back found grown =>
      exact handover_of_put found (Runner.afterEnd_retains _ _) grown.subscriptions grown.nextId rfl
  | published asked grown => exact handover_of_quiet grown.subscriptions grown.nextId rfl
  | observes asked =>
      exact .observed ⟨_, asked⟩ rfl (Channel.subscribe_extends _ _ _) (retained_of_same rfl)
  | stopsObserving asked => exact .stopped asked (Channel.unsubscribe_sheds _ _) (retained_of_same rfl)
  | @joined m x y ready ch asked fresh made =>
      obtain ⟨extension, wired⟩ := Runner.setUp_rewires made
      exact .joined asked fresh (x.takeDown_sheds m.scene.channel)
        ⟨extension.subscriptions, extension.handles, extension.nextId⟩ wired rfl
  | @parted m id x asked found idle =>
      have sheds := x.takeDown_sheds m.scene.channel
      refine .parted asked found ⟨sheds.subscriptions, sheds.nextId⟩ fun z member => ?_
      exact ⟨z, List.mem_of_mem_filter member, rfl, rfl⟩
  | restored asked member found made => exact handover_of_put found (Runner.restore_retains made) rfl rfl rfl
  | _ => exact handover_of_quiet rfl rfl rfl

/-! ### Whose handle it is -/

/-- No handle is handed out twice, and a runner holds no handle but of its own subscriptions. -/
structure Moored (s : Scene) : Prop where
  numbered : s.channel.bus.Numbered
  distinct : (s.channel.bus.subscriptions.map (·.id)).Nodup
  handed : ∀ x ∈ s.runners, ∀ id ∈ x.handles, id.number < s.channel.bus.nextId
  own : ∀ x ∈ s.runners, ∀ w ∈ s.channel.bus.subscriptions, w.id ∈ x.handles → w.listener.owner? = some x.id

namespace Moored

/-- Subscriptions go away. -/
theorem part (moored : s.Moored) (fewer : s'.channel.bus.subscriptions.Sublist s.channel.bus.subscriptions)
    (nextId : s'.channel.bus.nextId = s.channel.bus.nextId) (runners : Retained s s') : s'.Moored where
  numbered w member := nextId ▸ moored.numbered w (fewer.subset member)
  distinct := moored.distinct.sublist (fewer.map _)
  handed := by
    intro z member id held
    obtain ⟨x, there, -, same⟩ := runners z member
    exact nextId ▸ moored.handed x there id (same ▸ held)
  own := by
    intro z member w listed held
    obtain ⟨x, there, sameId, same⟩ := runners z member
    rw [sameId]
    exact moored.own x there w (fewer.subset listed) (same ▸ held)

theorem shed (moored : s.Moored) {ids : List SubscriptionId} (sheds : Channel.Sheds ids s.channel s'.channel)
    (runners : Retained s s') : s'.Moored :=
  moored.part (sheds.subscriptions ▸ List.filter_sublist) sheds.nextId runners

/-- Subscriptions are added under new handles; who holds one of these holds no others, and they are its own. -/
theorem extend (moored : s.Moored) {added : List Subscription}
    (extension : Bus.Extends added s.channel.bus s'.channel.bus)
    (runners : ∀ z ∈ s'.runners, (∃ x ∈ s.runners, z.id = x.id ∧ z.handles = x.handles) ∨
      (∀ id ∈ z.handles, id ∈ added.map (·.id)) ∧ ∀ w ∈ added, w.listener.owner? = some z.id) : s'.Moored := by
  have later : s.channel.bus.nextId ≤ s'.channel.bus.nextId := extension.nextId ▸ Nat.le_add_right _ _
  have above : ∀ id ∈ added.map (·.id), s.channel.bus.nextId ≤ id.number ∧ id.number < s'.channel.bus.nextId := by
    intro id member
    obtain ⟨w, there, rfl⟩ := List.mem_map.mp member
    exact extension.range there
  refine ⟨?_, ?_, ?_, ?_⟩
  · intro w member
    rw [extension.subscriptions] at member
    rcases List.mem_append.mp member with old | new
    · exact Nat.lt_of_lt_of_le (moored.numbered w old) later
    · exact (extension.range new).2
  · rw [extension.subscriptions, List.map_append, List.nodup_append]
    refine ⟨moored.distinct, extension.nodup, ?_⟩
    rintro _ old id new rfl
    obtain ⟨w, there, rfl⟩ := List.mem_map.mp old
    exact Nat.lt_irrefl _ (Nat.lt_of_lt_of_le (moored.numbered w there) (above _ new).1)
  · intro z member id held
    rcases runners z member with ⟨x, there, -, same⟩ | ⟨handles, -⟩
    · exact Nat.lt_of_lt_of_le (moored.handed x there id (same ▸ held)) later
    · exact (above id (handles id held)).2
  · intro z member w listed held
    rw [extension.subscriptions] at listed
    rcases runners z member with ⟨x, there, sameId, same⟩ | ⟨handles, owned⟩ <;>
      rcases List.mem_append.mp listed with old | new
    · exact sameId ▸ moored.own x there w old (same ▸ held)
    · have small := moored.handed x there w.id (same ▸ held)
      exact absurd small (Nat.not_lt.mpr (extension.range new).1)
    · have large := (above w.id (handles w.id held)).1
      exact absurd (moored.numbered w old) (Nat.not_lt.mpr large)
    · exact owned w new

end Moored

theorem Handover.moored (handover : Handover op s s') (moored : s.Moored) : s'.Moored := by
  cases handover with
  | kept subscriptions nextId runners => exact moored.part (subscriptions ▸ List.Sublist.refl _) nextId runners
  | observed asked listens extension runners => exact moored.extend extension fun z member => .inl (runners z member)
  | stopped asked sheds runners => exact moored.shed sheds runners
  | @joined x y ch asked fresh sheds extension wired runners =>
      have without : Moored { s with channel := ch } := moored.shed sheds (retained_of_same rfl)
      refine without.extend extension fun z member => ?_
      rw [runners] at member
      rcases mem_insertRunner member with rfl | old
      · refine .inr ⟨fun id held => (wired.mem_handles id).mp held, ?_⟩
        exact fun w wires => (Runner.mem_wires.mp wires).owner
      · exact .inl ⟨z, old, rfl, rfl⟩
  | parted asked found sheds runners => exact moored.shed sheds runners

theorem Turns.moored {t t' : Turn} (turns : Turns op returning past t t') (moored : t.scene.Moored) :
    t'.scene.Moored := by
  induction turns with
  | refl => exact moored
  | tail _ last ih => exact last.handover.moored ih

theorem empty_moored (settings : Settings) (stage : Stage) : (empty settings stage).Moored :=
  ⟨nofun, List.nodup_nil, nofun, nofun⟩

/-! ### What a runner listens with -/

/-- The subscriptions that work for the runner, in order. -/
def listeningFor (s : Scene) (runner : RunnerId) : List Subscription :=
  s.channel.bus.subscriptions.filter (·.listener.owner? = some runner)

/-- The operation neither takes the runner out nor gives back a handle of these subscriptions. -/
def Operation.Respects (runner : RunnerId) (listening : List Subscription) : Operation → Prop
  | register r => ∀ x ∈ listening, x.id ∉ r.handles
  | unregister id => id ≠ runner
  | stopObserving id => ∀ x ∈ listening, x.id ≠ id
  | _ => True

theorem Operation.Respects.stays {listening : List Subscription} (respects : op.Respects runner listening) :
    op ≠ .unregister runner := by
  rintro rfl
  exact respects rfl

private theorem listeningFor_of_sheds {ids : List SubscriptionId} {ch : Channel}
    (sheds : Channel.Sheds ids s.channel ch) (runner : RunnerId) :
    ch.bus.subscriptions.filter (·.listener.owner? = some runner) =
      (s.listeningFor runner).filter (·.id ∉ ids) := by
  rw [sheds.subscriptions, listeningFor, List.filter_comm]

/-- Of subscriptions of others that are added the runner has nothing. -/
private theorem listeningFor_of_extends {added : List Subscription} {bus : Bus}
    (extension : Bus.Extends added bus s.channel.bus) (others : ∀ w ∈ added, w.listener.owner? ≠ some runner) :
    s.listeningFor runner = bus.subscriptions.filter (·.listener.owner? = some runner) := by
  have none : added.filter (·.listener.owner? = some runner) = [] := by
    rw [List.filter_eq_nil_iff]
    exact fun w member => by simpa using others w member
  rw [listeningFor, extension.subscriptions, List.filter_append, none, List.append_nil]

private theorem filter_of_spared {ids : List SubscriptionId} {listening : List Subscription}
    (spared : ∀ w ∈ listening, w.id ∉ ids) : listening.filter (·.id ∉ ids) = listening := by
  rw [List.filter_eq_self]
  exact fun w member => decide_eq_true (spared w member)

/-- What a runner that joins brings along as its own is no other's. -/
private theorem wires_of_other {x y : Runner} (found : s.runner? runner = some x) (fresh : s.runner? y.id = none) :
    ∀ w ∈ y.wires, w.listener.owner? ≠ some runner := by
  intro w wires same
  have owner : some y.id = some runner := (Runner.mem_wires.mp wires).owner.symm.trans same
  rw [Option.some.inj owner, found] at fresh
  cases fresh

/-- As long as the runner is not taken out, what is not given back stays. -/
theorem Handover.listeningFor_eq (handover : Handover op s s') (moored : s.Moored) {x : Runner}
    (found : s.runner? runner = some x) (respects : op.Respects runner (s.listeningFor runner)) :
    s'.listeningFor runner = s.listeningFor runner := by
  cases handover with
  | kept subscriptions nextId runners =>
      unfold listeningFor
      rw [subscriptions]
  | observed asked listens extension runners =>
      refine listeningFor_of_extends extension fun w member => ?_
      rw [List.mem_singleton.mp member, listens]
      nofun
  | stopped asked sheds runners =>
      subst asked
      have spared : ∀ w ∈ s.listeningFor runner, w.id ∉ [_] :=
        fun w member => List.mem_singleton.not.mpr (respects w member)
      exact (listeningFor_of_sheds sheds runner).trans (filter_of_spared spared)
  | joined asked fresh sheds extension wired runners =>
      subst asked
      have kept := (listeningFor_of_sheds sheds runner).trans (filter_of_spared respects)
      exact (listeningFor_of_extends extension (wires_of_other found fresh)).trans kept
  | @parted id z asked there sheds runners =>
      subst asked
      -- Whoever leaves gives back what it holds, and that is its own: had this runner lost one, it would be the one to go.
      refine (listeningFor_of_sheds sheds runner).trans (filter_of_spared fun w member held => respects ?_)
      obtain ⟨listed, owner⟩ := List.mem_filter.mp member
      have owned := moored.own z (List.mem_of_find?_eq_some there) w listed held
      rw [id_of_runner? there] at owned
      exact Option.some.inj (owned.symm.trans (of_decide_eq_true owner))

/-- The runner is there, and these subscriptions work for it. -/
structure Equipped (runner : RunnerId) (listening : List Subscription) (s : Scene) : Prop where
  moored : s.Moored
  there : ∃ x, s.runner? runner = some x
  listening : s.listeningFor runner = listening

variable {listening : List Subscription}

theorem Step.equipped {t t' : Turn} (step : Step op returning past t t') (respects : op.Respects runner listening)
    (equipped : t.scene.Equipped runner listening) : t'.scene.Equipped runner listening := by
  obtain ⟨moored, ⟨x, found⟩, rfl⟩ := equipped
  obtain ⟨y, found', -⟩ := step.alike respects.stays found
  exact ⟨step.handover.moored moored, ⟨y, found'⟩, step.handover.listeningFor_eq moored found respects⟩

theorem Turns.equipped {t t' : Turn} (turns : Turns op returning past t t') (respects : op.Respects runner listening)
    (equipped : t.scene.Equipped runner listening) : t'.scene.Equipped runner listening := by
  induction turns with
  | refl => exact equipped
  | tail _ last ih => exact last.equipped respects ih

/-! ### Whole runs -/

theorem perform_moored (op : Operation) (coherent : s.Coherent) (moored : s.Moored) : (op.perform s).Moored := by
  have steps : Steps op True True ⟨s, [], false⟩ ⟨op.perform s, [], false⟩ :=
    perform_steps op coherent (fun _ => trivial) fun _ => trivial
  exact Turns.moored steps moored

theorem perform_equipped (op : Operation) (coherent : s.Coherent) (respects : op.Respects runner listening)
    (equipped : s.Equipped runner listening) : (op.perform s).Equipped runner listening := by
  have steps : Steps op True True ⟨s, [], false⟩ ⟨op.perform s, [], false⟩ :=
    perform_steps op coherent (fun _ => trivial) fun _ => trivial
  exact Turns.equipped steps respects equipped

theorem Reached.moored {rule : Operation → Scene → Prop} (reached : Reached rule s) : s.Moored := by
  have each : ∀ (op : Operation) (s : Scene), rule op s → s.Coherent ∧ s.Moored →
      (op.perform s).Coherent ∧ (op.perform s).Moored :=
    fun op s _ kept => ⟨perform_coherent op s kept.1, perform_moored op kept.1 kept.2⟩
  have start (settings : Settings) (stage : Stage) : (empty settings stage).Coherent ∧ (empty settings stage).Moored :=
    ⟨(empty_sound settings stage).toCoherent, empty_moored settings stage⟩
  exact (reached.keeps start each).2

/-! ### Where events are brought -/

/-- Delivering the event brings it to the condition. -/
def Brings (s : Scene) (event : StoryEvent) (key : ConditionKey) : Prop :=
  ∃ id ∈ s.channel.bus.subscribersOf event.topic, (s.channel.route id event).1 = some (.condition key)

theorem Moored.brings_iff (moored : s.Moored) (event : StoryEvent) (key : ConditionKey) :
    s.Brings event key ↔
      ∃ x ∈ s.listeningFor key.runner, x.topic = event.topic ∧ x.listener = .condition key := by
  have routed : ∀ x ∈ s.channel.bus.subscriptions,
      ((s.channel.route x.id event).1 = some (.condition key) ↔ x.listener = .condition key) := by
    intro x member
    have found : s.channel.bus.find? x.id = some x := find?_of_nodup moored.distinct member
    unfold Channel.route
    rw [found]
    dsimp only
    cases x.listener <;> simp [Listener.route?]
  unfold Brings Bus.subscribersOf
  constructor
  · rintro ⟨_, listed, brought⟩
    obtain ⟨x, member, rfl⟩ := List.mem_map.mp listed
    obtain ⟨there, topic⟩ := List.mem_filter.mp member
    have listens := (routed x there).mp brought
    refine ⟨x, List.mem_filter.mpr ⟨there, ?_⟩, of_decide_eq_true topic, listens⟩
    rw [listens]
    exact decide_eq_true rfl
  · rintro ⟨x, member, topic, listens⟩
    have there := List.mem_of_mem_filter member
    exact ⟨x.id, List.mem_map_of_mem (List.mem_filter.mpr ⟨there, decide_eq_true topic⟩), (routed x there).mpr listens⟩

/-- What has been brought to a condition is heard. -/
theorem Moored.hears_of_brings (moored : s.Moored) (coherent : s.Coherent) {event : StoryEvent} {key : ConditionKey}
    (brings : s.Brings event key) : (s.served event).2.Hears key event := by
  obtain ⟨⟨id, topic, listener⟩, member, rfl, rfl⟩ := (moored.brings_iff event key).mp brings
  have listed : s.channel.bus.find? id = some ⟨id, event.topic, .condition key⟩ :=
    find?_of_nodup moored.distinct (List.mem_of_mem_filter member)
  have world : (Operation.tick 0).FromWorld := trivial
  exact served_hears coherent world id listed

/-- Whatever is done later that spares these subscriptions, an event that is delivered then is brought to just those
conditions of the runner that one of them listens for, and they hear it. -/
def Attends (s : Scene) (runner : RunnerId) (listening : List Subscription) : Prop :=
  ∀ later elapsed, (∀ op ∈ later, Operation.Respects runner listening op) →
    ∀ delivery ∈ (Operation.tick elapsed).deliveries (run later s), ∀ key, key.runner = runner →
      (delivery.1.Brings delivery.2 key ↔ ∃ x ∈ listening, x.topic = delivery.2.topic ∧ x.listener = .condition key) ∧
        (delivery.1.Brings delivery.2 key → (delivery.1.served delivery.2).2.Hears key delivery.2)

theorem run_equipped (later : List Operation) (coherent : s.Coherent)
    (respects : ∀ op ∈ later, Operation.Respects runner listening op) (equipped : s.Equipped runner listening) :
    (run later s).Coherent ∧ (run later s).Equipped runner listening := by
  induction later generalizing s with
  | nil => exact ⟨coherent, equipped⟩
  | cons op later ih =>
      have next := perform_equipped op coherent (respects op List.mem_cons_self) equipped
      exact ih (perform_coherent op s coherent) (fun other member => respects other (List.mem_cons_of_mem op member)) next

theorem Equipped.attends (equipped : s.Equipped runner listening) (coherent : s.Coherent) :
    s.Attends runner listening := by
  intro later elapsed respects delivery member key same
  obtain ⟨coherentThen, equippedThen⟩ := run_equipped later coherent respects equipped
  obtain ⟨rest, steps⟩ : ∃ rest, Steps (.tick elapsed) True False ⟨run later s, [], false⟩
      ⟨delivery.1, delivery.2 :: rest, false⟩ :=
    tick_deliveries coherentThen (fun _ => trivial) delivery member
  have delivered : delivery.1.Equipped runner listening := Turns.equipped steps trivial equippedThen
  refine ⟨?_, delivered.moored.hears_of_brings (Turns.coherent steps coherentThen)⟩
  rw [delivered.moored.brings_iff, same, delivered.listening]

/-! ### Registering -/

private theorem register_sheds {r : Runner} (fresh : s.runner? r.id = none) :
    Channel.Sheds r.handles s.channel (r.takeDown s.channel).2 ∧
      Bus.Extends (r.setUp s.channel).2.1.wires (r.takeDown s.channel).2.bus (s.register r).2.channel.bus := by
  have made : r.setUp s.channel = ((r.setUp s.channel).1, (r.setUp s.channel).2) := rfl
  obtain ⟨extension, -⟩ := Runner.setUp_rewires made
  refine ⟨r.takeDown_sheds s.channel, ?_⟩
  rw [register_fresh fresh]
  exact ⟨extension.subscriptions, extension.handles, extension.nextId⟩

/-- A runner under a new id is registered, whatever handles it holds. Of the subscriptions that were there just those go
whose handles it holds. As long as nobody else interferes, events are brought to the other runners' conditions as if the
new one had not been registered, apart from the conditions that have lost their subscriptions so. -/
theorem register_takes_held (settings : Settings) (stage : Stage) (earlier : List Operation) {r : Runner}
    (fresh : (run earlier (empty settings stage)).runner? r.id = none) :
    let s := run earlier (empty settings stage)
    let s' := (s.register r).2
    (s.register r).1 = .ok () ∧
      (∀ x ∈ s.channel.bus.subscriptions, x ∈ s'.channel.bus.subscriptions ↔ x.id ∉ r.handles) ∧
      ∀ runner x, s.runner? runner = some x → s.Attends runner (s.listeningFor runner) ∧
        s'.Attends runner ((s.listeningFor runner).filter (·.id ∉ r.handles)) := by
  intro s s'
  have reached : Reached (fun _ _ => True) s := reached_run earlier settings stage
  have moored : s.Moored := reached.moored
  obtain ⟨sheds, extension⟩ := register_sheds fresh
  refine ⟨?_, ?_, ?_⟩
  · exact congrArg Prod.fst (register_new fresh rfl)
  · intro x member
    rw [extension.subscriptions, sheds.subscriptions, List.mem_append, List.mem_filter, decide_eq_true_eq]
    constructor
    · rintro (⟨-, kept⟩ | new)
      · exact kept
      · have large := (extension.range new).1
        rw [sheds.nextId] at large
        exact absurd (moored.numbered x member) (Nat.not_lt.mpr large)
    · exact fun kept => .inl ⟨member, kept⟩
  · intro runner x found
    have before : s.Equipped runner (s.listeningFor runner) := ⟨moored, ⟨x, found⟩, rfl⟩
    have new : (r.setUp s.channel).2.1.id = r.id := (Runner.setUp_made rfl).2.1
    have after : s'.Equipped runner ((s.listeningFor runner).filter (·.id ∉ r.handles)) := by
      refine ⟨perform_moored (.register r) reached.coherent moored, ⟨x, ?_⟩, ?_⟩
      · rw [runner?_register fresh, if_neg]
        · exact found
        · rintro rfl
          cases fresh.symm.trans found
      · exact (listeningFor_of_extends extension (wires_of_other found (new ▸ fresh))).trans
          (listeningFor_of_sheds sheds runner)
    exact ⟨before.attends reached.coherent, after.attends (perform_coherent (.register r) s reached.coherent)⟩

/-- A village with a feast for whoever comes to the square. -/
private def village : RunnerDefinition :=
  { id := ⟨"village"⟩
    storyboard :=
      { name := ⟨"green"⟩
        nodes :=
          [{ id := ⟨"feast"⟩
             conditions := [{ kind := .areaEntered "square" }]
             program := { instructions := [.dialogue "V" "Welcome!" none] } }] } }

private def settled : Scene := run [.register (.ofDefinition village)] (empty {} .instant)

/-- A hamlet that is made from the definition of the village, and so holds nothing. -/
private def hamlet : Runner := { Runner.ofDefinition village with id := ⟨"hamlet"⟩ }

/-- A hamlet that is made from the storyboard which the village has in use. -/
private def copied : Runner :=
  { id := ⟨"hamlet"⟩
    priority := 0
    storyboard := ((settled.runner? ⟨"village"⟩).map (·.storyboard)).getD village.storyboard }

/-- Somebody comes to the square when the hamlet is there too, and the feast of the village hears of it. -/
theorem hamlet_takes_nothing :
    settled.runner? hamlet.id = none ∧ (settled.register hamlet).1 = .ok () ∧
      (∀ x ∈ settled.channel.bus.subscriptions, x ∈ (settled.register hamlet).2.channel.bus.subscriptions) ∧
      ∃ delivery ∈ (Operation.tick 0).deliveries (run [.publish (.areaEntered "square")] (settled.register hamlet).2),
        delivery.2 = .areaEntered "square" ∧ delivery.1.Brings delivery.2 ⟨⟨"village"⟩, ⟨"feast"⟩, 0⟩ := by
  have fresh : settled.runner? hamlet.id = none := by decide +kernel
  obtain ⟨registered, kept, others⟩ :=
    register_takes_held {} .instant [.register (.ofDefinition village)] fresh
  have nothing : hamlet.handles = [] := by decide +kernel
  have found : ∃ x, settled.runner? ⟨"village"⟩ = some x := Option.isSome_iff_exists.mp (by decide +kernel)
  obtain ⟨x, found⟩ := found
  obtain ⟨-, attends⟩ := others ⟨"village"⟩ x found
  have delivered : ((Operation.tick 0).deliveries
      (run [.publish (.areaEntered "square")] (settled.register hamlet).2)).map Prod.snd = [.areaEntered "square"] := by
    decide +kernel
  obtain ⟨delivery, member, is⟩ := List.mem_map.mp (delivered ▸ List.mem_singleton.mpr rfl)
  refine ⟨fresh, registered, fun x member => (kept x member).mpr (nothing ▸ List.not_mem_nil), delivery, member, is, ?_⟩
  have respects : ∀ op ∈ [Operation.publish (.areaEntered "square")], op.Respects ⟨"village"⟩
      ((settled.listeningFor ⟨"village"⟩).filter (·.id ∉ hamlet.handles)) := by simp [Operation.Respects]
  refine (attends _ 0 respects delivery member ⟨⟨"village"⟩, ⟨"feast"⟩, 0⟩ rfl).1.mpr ?_
  rw [is]
  decide +kernel

/-- The copy takes the subscription of the village away: when somebody comes to the square, the feast of the hamlet begins
and that of the village does not. -/
theorem copied_takes_subscription :
    let visit : List Operation := [.publish (.areaEntered "square"), .tick 0]
    settled.runner? copied.id = none ∧ (settled.register copied).1 = .ok () ∧
      ⟨⟨0⟩, .areaEntered, .condition ⟨⟨"village"⟩, ⟨"feast"⟩, 0⟩⟩ ∈ settled.channel.bus.subscriptions ∧
      ⟨⟨0⟩, .areaEntered, .condition ⟨⟨"village"⟩, ⟨"feast"⟩, 0⟩⟩ ∉
        (settled.register copied).2.channel.bus.subscriptions ∧
      ((run visit settled).condition? ⟨⟨"village"⟩, ⟨"feast"⟩, 0⟩).map (·.satisfied) = some true ∧
      ((run visit (settled.register copied).2).condition? ⟨⟨"village"⟩, ⟨"feast"⟩, 0⟩).map (·.satisfied) = some false := by
  decide +kernel

end Plotline.Scene
