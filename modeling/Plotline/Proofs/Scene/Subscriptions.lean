import Plotline.Proofs.Runner.Wiring
import Plotline.Proofs.Scene.Package
import Plotline.Proofs.Scene.Perform

/-!
Every subscription on the bus of a scene is accounted for: it belongs to an observer, or to a runner that is there and
holds its handle.
-/

namespace Plotline.Scene

/-- The subscriptions that a host was given for observers, and the handles that it gave back while they were in use.
Nothing keeps it from giving back a handle that belongs to a runner. -/
structure Observing where
  made : List Subscription := []
  stopped : List SubscriptionId := []

namespace Observing

def after (op : Operation) (s : Scene) (o : Observing) : Observing :=
  match op with
  | .observe topic => { o with made := o.made ++ [⟨(s.observe topic).1, topic, .observer⟩] }
  | .stopObserving id => if (s.stopObserving id).1 then { o with stopped := o.stopped ++ [id] } else o
  | _ => o

/-- All subscriptions that there would be if none were stopped. -/
def account (o : Observing) (s : Scene) : List Subscription := o.made ++ s.runners.flatMap Runner.wires

theorem mem_account {o : Observing} {s : Scene} {x : Subscription} :
    x ∈ o.account s ↔ x ∈ o.made ∨ ∃ r ∈ s.runners, r.Wires x := by
  simp only [account, List.mem_append, List.mem_flatMap, Runner.mem_wires]

end Observing

/-- What is observed in the course of a run. -/
def observing : List Operation → Scene → Observing → Observing
  | [], _, o => o
  | op :: ops, s, o => observing ops (op.perform s) (o.after op s)

/-- A runner that is registered holds no handle yet, as it is with one that is made from a definition. -/
def Operation.RegistersNew : Operation → Prop
  | register r => r.subscriptions = [] ∧ Runner.Unsubscribed r.storyboard.nodes
  | _ => True

/-- The subscriptions on the bus are those of the account that were not stopped. -/
structure Ledger (o : Observing) (s : Scene) : Prop where
  exact : s.channel.bus.subscriptions.Perm ((o.account s).filter (·.id ∉ o.stopped))
  distinct : ((o.account s).map (·.id)).Nodup
  numbered : ∀ x ∈ o.account s, x.id.number < s.channel.bus.nextId
  stopped : ∀ id ∈ o.stopped, id.number < s.channel.bus.nextId
  wired : ∀ r ∈ s.runners, r.Wired

namespace Ledger

variable {o o' : Observing} {s s' : Scene}

/-- Subscriptions are added under new handles, to the bus and to the account. -/
theorem extend (ledger : Ledger o s) {added : List Subscription}
    (extension : Bus.Extends added s.channel.bus s'.channel.bus) (grown : (o'.account s').Perm (o.account s ++ added))
    (same : o'.stopped = o.stopped) (wired : ∀ r ∈ s'.runners, r.Wired) : Ledger o' s' := by
  have later : s.channel.bus.nextId ≤ s'.channel.bus.nextId := extension.nextId ▸ Nat.le_add_right _ _
  refine ⟨?_, ?_, ?_, ?_, wired⟩
  · have unstopped : added.filter (·.id ∉ o.stopped) = added := by
      rw [List.filter_eq_self]
      intro x member
      refine decide_eq_true fun stopped => ?_
      exact Nat.lt_irrefl _ (Nat.lt_of_le_of_lt (extension.range member).1 (ledger.stopped _ stopped))
    have before := ledger.exact.append_right added
    have after := grown.filter (·.id ∉ o.stopped)
    rw [List.filter_append, unstopped] at after
    rw [extension.subscriptions, same]
    exact before.trans after.symm
  · rw [(grown.map _).nodup_iff, List.map_append, List.nodup_append]
    refine ⟨ledger.distinct, extension.nodup, ?_⟩
    rintro _ old _ new rfl
    obtain ⟨x, memberX, same⟩ := List.mem_map.mp old
    obtain ⟨y, memberY, rfl⟩ := List.mem_map.mp new
    have small := ledger.numbered x memberX
    rw [same] at small
    exact Nat.lt_irrefl _ (Nat.lt_of_le_of_lt (extension.range memberY).1 small)
  · intro x member
    rcases List.mem_append.mp (grown.mem_iff.mp member) with old | new
    · exact Nat.lt_of_lt_of_le (ledger.numbered x old) later
    · exact (extension.range new).2
  · rw [same]
    exact fun id stopped => Nat.lt_of_lt_of_le (ledger.stopped id stopped) later

/-- Neither the bus nor the handles that anyone holds have changed. -/
theorem of_same (ledger : Ledger o s) (subscriptions : s'.channel.bus.subscriptions = s.channel.bus.subscriptions)
    (nextId : s'.channel.bus.nextId = s.channel.bus.nextId)
    (wires : s'.runners.flatMap Runner.wires = s.runners.flatMap Runner.wires) (wired : ∀ r ∈ s'.runners, r.Wired) :
    Ledger o s' := by
  have extension : Bus.Extends [] s.channel.bus s'.channel.bus := by
    refine ⟨?_, rfl, nextId⟩
    rw [subscriptions, List.append_nil]
  refine ledger.extend extension ?_ rfl wired
  unfold Observing.account
  rw [wires, List.append_nil]

theorem put (ledger : Ledger o s) (owned : s.Owned) {id : RunnerId} {x y : Runner} (found : s.runner? id = some x)
    (retains : x.Retains y) (runners : s'.runners = (s.putRunner y s.channel).runners)
    (subscriptions : s'.channel.bus.subscriptions = s.channel.bus.subscriptions)
    (nextId : s'.channel.bus.nextId = s.channel.bus.nextId) : Ledger o s' := by
  have there := List.mem_of_find?_eq_some found
  refine ledger.of_same subscriptions nextId ?_ ?_
  · rw [runners, putRunner, List.flatMap_map]
    refine List.flatMap_congr fun z member => ?_
    split
    · rename_i same
      have owner := owned z member
      rw [same, retains.id, found_self found] at owner
      rw [← Option.some.inj owner, retains.wires]
    · rfl
  · intro z member
    rw [runners] at member
    rcases mem_putRunner retains.id member with rfl | ⟨old, _⟩
    · exact retains.wired (ledger.wired x there)
    · exact ledger.wired z old

theorem join (ledger : Ledger o s) {y : Runner} (runners : s'.runners = insertRunner y s.runners)
    (extension : Bus.Extends y.wires s.channel.bus s'.channel.bus) (wired : y.Wired) : Ledger o s' := by
  refine ledger.extend extension ?_ rfl ?_
  · unfold Observing.account
    rw [runners, List.append_assoc]
    have inserted := (insertRunner_perm y s.runners).flatMap_right Runner.wires
    exact (inserted.trans List.perm_append_comm).append_left o.made
  · intro z member
    rw [runners] at member
    rcases mem_insertRunner member with rfl | old
    · exact wired
    · exact ledger.wired z old

private theorem flatMap_filter (id : RunnerId) (runners : List Runner) :
    (runners.filter (·.id ≠ id)).flatMap Runner.wires =
      runners.flatMap fun z => if z.id ≠ id then z.wires else [] := by
  induction runners with
  | nil => rfl
  | cons z runners ih =>
      rw [List.flatMap_cons, ← ih]
      by_cases same : z.id = id
      · rw [List.filter_cons_of_neg (by simpa using same), if_neg (not_not.mpr same), List.nil_append]
      · rw [List.filter_cons_of_pos (by simpa using same), if_pos same, List.flatMap_cons]

/-- A subscription with a handle of a runner is one that the runner itself wires. -/
private theorem wires_of_handle (ledger : Ledger o s) {x : Runner} (there : x ∈ s.runners) {w : Subscription}
    (member : w ∈ o.account s) (held : w.id ∈ x.subscriptions ++ x.conditionHandles) : x.Wires w := by
  obtain ⟨v, wires, same⟩ := List.mem_map.mp (((ledger.wired x there).mem_handles w.id).mp held)
  have wires := Runner.mem_wires.mp wires
  have accounted : v ∈ o.account s := Observing.mem_account.mpr (Or.inr ⟨x, there, wires⟩)
  rwa [← List.inj_on_of_nodup_map ledger.distinct accounted member same]

/-- No observer has a handle of a runner. -/
theorem apart (ledger : Ledger o s) {x : Runner} (there : x ∈ s.runners) {v w : Subscription} (made : v ∈ o.made)
    (wires : x.Wires w) : v.id ≠ w.id := by
  have distinct := ledger.distinct
  unfold Observing.account at distinct
  rw [List.map_append] at distinct
  have wired : w ∈ s.runners.flatMap Runner.wires := List.mem_flatMap.mpr ⟨x, there, Runner.mem_wires.mpr wires⟩
  exact (List.nodup_append.mp distinct).2.2 _ (List.mem_map_of_mem made) _ (List.mem_map_of_mem wired)

/-- Of what the runners wire, that remains which another runner wires. -/
private theorem wires_part (ledger : Ledger o s) (owned : s.Owned) {id : RunnerId} {x z : Runner}
    (found : s.runner? id = some x) (member : z ∈ s.runners) :
    z.wires.filter (·.id ∉ x.subscriptions ++ x.conditionHandles) = if z.id ≠ id then z.wires else [] := by
  have there := List.mem_of_find?_eq_some found
  split
  · rename_i other
    rw [List.filter_eq_self]
    intro w wires
    have wires := Runner.mem_wires.mp wires
    refine decide_eq_true fun held => other ?_
    have accounted : w ∈ o.account s := Observing.mem_account.mpr (Or.inr ⟨z, member, wires⟩)
    have owner := (ledger.wires_of_handle there accounted held).owner
    rw [wires.owner] at owner
    exact (Option.some.inj owner).trans (id_of_runner? found)
  · rename_i same
    have owner := owned z member
    rw [not_not.mp same, found] at owner
    obtain rfl := Option.some.inj owner
    rw [List.filter_eq_nil_iff]
    intro w wires
    rw [decide_eq_true_eq, not_not]
    exact ((ledger.wired x there).mem_handles w.id).mpr (List.mem_map_of_mem wires)

/-- What remains of the account is what the others wire. -/
private theorem account_part (ledger : Ledger o s) (owned : s.Owned) {id : RunnerId} {x : Runner}
    (found : s.runner? id = some x) (runners : s'.runners = s.runners.filter (·.id ≠ id)) :
    o.account s' = (o.account s).filter (·.id ∉ x.subscriptions ++ x.conditionHandles) := by
  have there := List.mem_of_find?_eq_some found
  have observers : o.made.filter (·.id ∉ x.subscriptions ++ x.conditionHandles) = o.made := by
    rw [List.filter_eq_self]
    intro w made
    refine decide_eq_true fun held => ?_
    exact ledger.apart there made (ledger.wires_of_handle there (List.mem_append_left _ made) held) rfl
  have each : ∀ z ∈ s.runners, z.wires.filter (·.id ∉ x.subscriptions ++ x.conditionHandles) =
      if z.id ≠ id then z.wires else [] := fun z member => ledger.wires_part owned found member
  unfold Observing.account
  rw [List.filter_append, observers, List.filter_flatMap, runners, List.flatMap_congr each, flatMap_filter]

theorem part (ledger : Ledger o s) (owned : s.Owned) {id : RunnerId} {x : Runner} (found : s.runner? id = some x)
    (runners : s'.runners = s.runners.filter (·.id ≠ id))
    (sheds : Channel.Sheds (x.subscriptions ++ x.conditionHandles) s.channel s'.channel) : Ledger o s' := by
  have rest := ledger.account_part owned found runners
  have fewer : (o.account s').Sublist (o.account s) := rest ▸ List.filter_sublist
  refine ⟨?_, ledger.distinct.sublist (fewer.map _), ?_, ?_, ?_⟩
  · rw [sheds.subscriptions, rest, List.filter_comm]
    exact ledger.exact.filter _
  · rw [sheds.nextId]
    exact fun y member => ledger.numbered y (fewer.subset member)
  · rw [sheds.nextId]
    exact ledger.stopped
  · intro z member
    rw [runners] at member
    exact ledger.wired z (List.mem_of_mem_filter member)

theorem observe (ledger : Ledger o s) (topic : Topic) :
    Ledger (o.after (.observe topic) s) ((Operation.observe topic).perform s) := by
  refine ledger.extend (s.channel.subscribe_extends topic .observer) ?_ rfl ledger.wired
  let x : Subscription := ⟨(s.observe topic).1, topic, .observer⟩
  have swapped : ([x] ++ s.runners.flatMap Runner.wires).Perm (s.runners.flatMap Runner.wires ++ [x]) :=
    List.perm_append_comm
  have placed := swapped.append_left o.made
  rw [← List.append_assoc, ← List.append_assoc] at placed
  exact placed

theorem stopObserving (ledger : Ledger o s) (id : SubscriptionId) :
    Ledger (o.after (.stopObserving id) s) ((Operation.stopObserving id).perform s) := by
  have sheds := s.channel.unsubscribe_sheds id
  by_cases held : s.channel.bus.holds id = true
  · have noted : o.after (.stopObserving id) s = { o with stopped := o.stopped ++ [id] } := if_pos held
    rw [noted]
    refine ⟨?_, ledger.distinct, ?_, ?_, ledger.wired⟩
    · have kept := ledger.exact.filter (·.id ∉ [id])
      rw [← sheds.subscriptions, List.filter_filter] at kept
      have stopped : (o.account s).filter (fun x => decide (x.id ∉ [id]) && decide (x.id ∉ o.stopped)) =
          (o.account s).filter (·.id ∉ o.stopped ++ [id]) := by
        congr 1
        funext x
        simp [Bool.and_comm]
      rwa [stopped] at kept
    · intro x member
      exact sheds.nextId ▸ ledger.numbered x member
    · intro other member
      have below : other.number < s.channel.bus.nextId := by
        rcases List.mem_append.mp member with old | new
        · exact ledger.stopped other old
        · obtain rfl := List.mem_singleton.mp new
          obtain ⟨x, there, same⟩ := List.any_eq_true.mp held
          rw [← of_decide_eq_true same]
          exact ledger.numbered x (List.mem_of_mem_filter (ledger.exact.mem_iff.mp there))
      exact sheds.nextId ▸ below
  · have noted : o.after (.stopObserving id) s = o := if_neg held
    have gone : s.channel.unsubscribe id = s.channel := if_neg held
    rw [noted]
    exact ledger.of_same (congrArg (·.bus.subscriptions) gone) sheds.nextId rfl ledger.wired

end Ledger

variable {op : Operation} {returning past : Prop} {o : Observing}

/-- A host that registers only new runners keeps the ledger in all that it does but observing. -/
theorem Step.ledger {t t' : Turn} (step : Step op returning past t t') (coherent : t.scene.Coherent)
    (new : op.RegistersNew) (observes : ∀ topic, op ≠ .observe topic) (stops : ∀ id, op ≠ .stopObserving id)
    (ledger : Ledger o t.scene) : Ledger o t'.scene := by
  have owned := coherent.owned
  cases step with
  | quiet grown => exact ledger.of_same grown.subscriptions grown.nextId rfl ledger.wired
  | directed program emitted grown => exact ledger.of_same grown.subscriptions grown.nextId rfl ledger.wired
  | started free found waiting known program emitted grown opens =>
      exact ledger.put owned found (Runner.setStatus_retains (Runner.contains_of_status waiting) _) rfl
        grown.subscriptions grown.nextId
  | passed free found waiting grown opens =>
      have begun := Runner.setStatus_retains (Runner.contains_of_status waiting) .inProgress
      exact ledger.put owned found (begun.trans (Runner.afterEnd_retains _ _)) rfl grown.subscriptions grown.nextId
  | jammed free busy found waiting grown =>
      have begun := Runner.setStatus_retains (Runner.contains_of_status waiting) .inProgress
      exact ledger.put owned found (begun.trans (Runner.afterEnd_retains _ _)) rfl grown.subscriptions grown.nextId
  | resumed program emitted topics grown => exact ledger.of_same grown.subscriptions grown.nextId rfl ledger.wired
  | finished active found program emitted topics grown =>
      exact ledger.put owned found (Runner.afterEnd_retains _ _) rfl grown.subscriptions grown.nextId
  | branched active program emitted topics grown =>
      exact ledger.of_same grown.subscriptions grown.nextId rfl ledger.wired
  | orphaned free busy program emitted topics grown =>
      exact ledger.of_same grown.subscriptions grown.nextId rfl ledger.wired
  | delivered first found made =>
      exact ledger.put owned found (Runner.deliver_retains made) rfl rfl rfl
  | cleared found inactive grown =>
      exact ledger.put owned found (Runner.afterEnd_retains _ _) rfl grown.subscriptions grown.nextId
  | originEnded jump back found grown =>
      exact ledger.put owned found (Runner.afterEnd_retains _ _) rfl grown.subscriptions grown.nextId
  | published asked grown => exact ledger.of_same grown.subscriptions grown.nextId rfl ledger.wired
  | observes asked => exact absurd asked (observes _)
  | stopsObserving asked => exact absurd asked (stops _)
  | joined asked fresh made =>
      subst asked
      obtain ⟨extension, wired⟩ := Runner.setUp_wires made new.1 new.2
      exact ledger.join rfl ⟨extension.subscriptions, extension.handles, extension.nextId⟩ wired
  | @parted m _ x asked found idle =>
      have sheds := x.takeDown_sheds m.scene.channel
      exact ledger.part owned found rfl ⟨sheds.subscriptions, sheds.nextId⟩
  | restored asked member found made =>
      exact ledger.put owned found (Runner.restore_retains made) rfl rfl rfl
  | _ => exact ledger.of_same rfl rfl rfl ledger.wired

theorem perform_ledger (op : Operation) {s : Scene} (coherent : s.Coherent) (new : op.RegistersNew)
    (ledger : Ledger o s) : Ledger (o.after op s) (op.perform s) := by
  have silent : (∀ topic, op ≠ .observe topic) → (∀ id, op ≠ .stopObserving id) → Ledger o (op.perform s) := by
    intro observes stops
    have steps : Steps op True True ⟨s, [], false⟩ _ :=
      perform_steps op coherent (fun _ => trivial) fun _ => trivial
    exact (steps.keeps (fun t _ step coherent (ledger : Ledger o t.scene) =>
      step.ledger coherent new observes stops ledger) coherent ledger).2
  cases op with
  | observe topic => exact ledger.observe topic
  | stopObserving id => exact ledger.stopObserving id
  | _ => exact silent nofun nofun

theorem run_ledger (ops : List Operation) {s : Scene} (coherent : s.Coherent) (new : ∀ op ∈ ops, op.RegistersNew)
    (ledger : Ledger o s) : Ledger (observing ops s o) (run ops s) := by
  induction ops generalizing s o with
  | nil => exact ledger
  | cons op ops ih =>
      have next := perform_ledger op coherent (new op List.mem_cons_self) ledger
      exact ih (perform_coherent op s coherent) (fun other member => new other (List.mem_cons_of_mem op member)) next

theorem empty_ledger (settings : Settings) (stage : Stage) : Ledger {} (empty settings stage) :=
  ⟨.refl _, List.nodup_nil, nofun, nofun, nofun⟩

/-- Whom the subscriptions on the bus belong to, and who gives them back. -/
structure Accounted (o : Observing) (s : Scene) : Prop where
  exact : ∀ x, x ∈ s.channel.bus.subscriptions ↔ (x ∈ o.made ∨ ∃ r ∈ s.runners, r.Wires x) ∧ x.id ∉ o.stopped
  distinct : (s.channel.bus.subscriptions.map (·.id)).Nodup
  observers : (o.made.map (·.id)).Nodup
  /-- No runner misses a subscription if only handles of observers were given back. -/
  served : (∀ id ∈ o.stopped, id ∈ o.made.map (·.id)) →
    ∀ r ∈ s.runners, ∀ x, r.Wires x → x ∈ s.channel.bus.subscriptions
  own : ∀ r ∈ s.runners, ∃ jumps triggers, r.subscriptions = [jumps, triggers]
  slots : ∀ r ∈ s.runners, ∀ n, r.storyboard.node? n.id = some n → ∀ c ∈ n.conditions, c.subscription.isSome = true
  released : ∀ id r s', s.unregister id = (.ok r, s') → r.subscriptions = [] ∧ Runner.Unsubscribed r.storyboard.nodes
  refused : ∀ r error s', s.register r = (.error error, s') →
    s'.channel.bus.subscriptions = s.channel.bus.subscriptions

private theorem unregister_released {s s' : Scene} {id : RunnerId} {r : Runner}
    (released : s.unregister id = (.ok r, s')) : r.subscriptions = [] ∧ Runner.Unsubscribed r.storyboard.nodes := by
  unfold unregister at released
  split at released
  · cases released
  · rename_i x _
    split at released
    · cases released
    · cases released
      exact ⟨rfl, x.takeDown_unsubscribed s.channel⟩

private theorem register_refused {s s' : Scene} {r : Runner} {error : SceneError}
    (refused : s.register r = (.error error, s')) :
    s'.channel.bus.subscriptions = s.channel.bus.subscriptions := by
  unfold register at refused
  split at refused
  · cases refused
    rfl
  · cases refused

theorem Ledger.accounted {s : Scene} (ledger : Ledger o s) : Accounted o s := by
  have exact : ∀ x, x ∈ s.channel.bus.subscriptions ↔
      (x ∈ o.made ∨ ∃ r ∈ s.runners, r.Wires x) ∧ x.id ∉ o.stopped := by
    intro x
    rw [ledger.exact.mem_iff, List.mem_filter, Observing.mem_account, decide_eq_true_eq]
  refine ⟨exact, ?_, ?_, ?_, fun r member => (ledger.wired r member).own,
    fun r member => (ledger.wired r member).slots, fun _ _ _ => unregister_released, fun _ _ _ => register_refused⟩
  · rw [(ledger.exact.map _).nodup_iff]
    exact ledger.distinct.sublist (List.filter_sublist.map _)
  · exact ledger.distinct.sublist ((List.sublist_append_left _ _).map _)
  · intro given r member x wires
    refine (exact x).mpr ⟨Or.inr ⟨r, member, wires⟩, ?_⟩
    intro stopped
    obtain ⟨v, made, same⟩ := List.mem_map.mp (given x.id stopped)
    exact ledger.apart member made wires same

/-- After every operation each subscription is accounted for, whatever the host does, as long as the runners that it
registers are new. A handle of a runner that the host itself has given back is the one exception: the runner still holds
it, and the bus has it no more. -/
theorem run_accounted (settings : Settings) (stage : Stage) (ops : List Operation)
    (new : ∀ op ∈ ops, op.RegistersNew) :
    Accounted (observing ops (empty settings stage) {}) (run ops (empty settings stage)) :=
  (run_ledger ops (empty_sound settings stage).toCoherent new (empty_ledger settings stage)).accounted

/-- A porter who opens the gate for whoever rings there once; the gate is listed twice. -/
def porter : RunnerDefinition :=
  { id := ⟨"porter"⟩
    storyboard :=
      { name := ⟨"yard"⟩
        nodes :=
          [{ id := ⟨"gate"⟩
             conditions := [{ kind := .areaEntered "road" }, { kind := .interactionTriggered "bell" }] },
            { id := ⟨"gate"⟩, conditions := [{ kind := .areaEntered "field" }] }] } }

/-- The porter comes twice and is taken in once; one of two observers goes. -/
theorem porter_accounted :
    let ops : List Operation :=
      [.observe .nodeStarted, .register (.ofDefinition porter), .observe .areaEntered, .register (.ofDefinition porter),
        .publish (.areaEntered "road"), .tick 0, .stopObserving ⟨0⟩]
    let s := run ops (empty {} .instant)
    Accounted (observing ops (empty {} .instant) {}) s ∧ s.channel.bus.subscriptions =
      [⟨⟨1⟩, .areaEntered, .condition ⟨⟨"porter"⟩, ⟨"gate"⟩, 0⟩⟩,
        ⟨⟨2⟩, .interactionTriggered, .condition ⟨⟨"porter"⟩, ⟨"gate"⟩, 1⟩⟩,
        ⟨⟨3⟩, .jumpRequested, .runner ⟨"porter"⟩⟩, ⟨⟨4⟩, .triggerRequested, .runner ⟨"porter"⟩⟩,
        ⟨⟨5⟩, .areaEntered, .observer⟩] := by
  intro ops s
  refine ⟨run_accounted {} .instant ops ?_, by decide +kernel⟩
  simp [ops, Operation.RegistersNew, Runner.ofDefinition, Runner.Unsubscribed, porter]

/-- The host registers a runner, reads off the bus with which handles triggers are listened to, and gives these back. -/
def silencing (r : Runner) : List Operation :=
  .register r ::
    ((run [.register r] (empty {} .instant)).channel.bus.subscribersOf .triggerRequested).map .stopObserving

theorem silencing_new {r : Runner} (unheld : r.subscriptions = [])
    (unsubscribed : Runner.Unsubscribed r.storyboard.nodes) : ∀ op ∈ silencing r, op.RegistersNew := by
  intro op member
  rcases List.mem_cons.mp member with rfl | stops
  · exact ⟨unheld, unsubscribed⟩
  · obtain ⟨id, -, rfl⟩ := List.mem_map.mp stops
    trivial

/-- The porter is there, and misses a subscription, once the host has given back the handle that it has read off the
bus. -/
theorem porter_silenced :
    ¬ ∀ settings stage ops, (∀ op ∈ ops, op.RegistersNew) →
      let s := run ops (empty settings stage)
      let o := observing ops (empty settings stage) {}
      ∀ x, x ∈ s.channel.bus.subscriptions ↔ (x ∈ o.made ∧ x.id ∉ o.stopped) ∨ ∃ r ∈ s.runners, r.Wires x := by
  intro exact
  let s := run (silencing (.ofDefinition porter)) (empty {} .instant)
  let x : Subscription := ⟨⟨3⟩, .triggerRequested, .runner ⟨"porter"⟩⟩
  have wired : x ∈ s.runners.flatMap Runner.wires := by decide +kernel
  have gone : x ∉ s.channel.bus.subscriptions := by decide +kernel
  obtain ⟨r, there, wires⟩ := List.mem_flatMap.mp wired
  have new := silencing_new (r := .ofDefinition porter) rfl (by simp [Runner.ofDefinition, Runner.Unsubscribed, porter])
  exact gone ((exact {} .instant _ new x).mpr (Or.inr ⟨r, there, Runner.mem_wires.mp wires⟩))

end Plotline.Scene
