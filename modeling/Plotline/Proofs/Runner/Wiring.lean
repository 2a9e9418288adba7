import Plotline.Proofs.Runner.Primed

/-!
The subscriptions of a runner that is set up: its own two, and one for each condition of its nodes, each under the handle
that the runner or the condition retains.
-/

namespace Plotline

/-- The runner that a listener works for. -/
def Listener.owner? : Listener → Option RunnerId
  | condition key => some key.runner
  | runner id => some id
  | observer => none

namespace Runner

/-- The runner holds the handle of this subscription for itself or for a condition. Of several nodes with one id only the
first counts. -/
inductive Wires (r : Runner) : Subscription → Prop
  | own {id : SubscriptionId} {topic : Topic} (held : (id, topic) ∈ r.subscriptions.zip ownTopics) :
      Wires r ⟨id, topic, .runner r.id⟩
  | condition {n : Node} {index : Nat} {c : Condition} {id : SubscriptionId}
      (first : r.storyboard.node? n.id = some n) (slot : n.conditions[index]? = some c)
      (held : c.subscription = some id) : Wires r ⟨id, c.kind.topic, .condition ⟨r.id, n.id, index⟩⟩

theorem Wires.owner {r : Runner} {x : Subscription} (wires : r.Wires x) : x.listener.owner? = some r.id := by
  cases wires <;> rfl

/-! ### The subscriptions in order -/

def conditionWires (runner : RunnerId) (node : NodeId) (index : Nat) : List Condition → List Subscription
  | [] => []
  | c :: conditions =>
    (c.subscription.map fun id => ⟨id, c.kind.topic, .condition ⟨runner, node, index⟩⟩).toList ++
      conditionWires runner node (index + 1) conditions

def nodeWires (runner : RunnerId) (seen : List NodeId) : List Node → List Subscription
  | [] => []
  | n :: nodes =>
    if seen.contains n.id then nodeWires runner seen nodes
    else conditionWires runner n.id 0 n.conditions ++ nodeWires runner (n.id :: seen) nodes

def ownWires (r : Runner) : List Subscription :=
  (r.subscriptions.zip ownTopics).map fun (id, topic) => ⟨id, topic, .runner r.id⟩

/-- All that the runner wires, in the order in which it is subscribed. -/
def wires (r : Runner) : List Subscription := nodeWires r.id [] r.storyboard.nodes ++ r.ownWires

private theorem mem_conditionWires {runner : RunnerId} {node : NodeId} {index : Nat} {conditions : List Condition}
    {x : Subscription} : x ∈ conditionWires runner node index conditions ↔
      ∃ i c id, conditions[i]? = some c ∧ c.subscription = some id ∧
        x = ⟨id, c.kind.topic, .condition ⟨runner, node, index + i⟩⟩ := by
  induction conditions generalizing index with
  | nil => simp [conditionWires]
  | cons c conditions ih =>
      rw [conditionWires, List.mem_append, ih]
      constructor
      · rintro (here | ⟨i, c', id, slot, held, rfl⟩)
        · obtain ⟨id, held, rfl⟩ := Option.map_eq_some_iff.mp (Option.mem_toList.mp here)
          exact ⟨0, c, id, rfl, held, rfl⟩
        · refine ⟨i + 1, c', id, slot, held, ?_⟩
          rw [Nat.add_assoc, Nat.add_comm 1 i]
      · rintro ⟨i, c', id, slot, held, rfl⟩
        cases i with
        | zero =>
            cases slot
            exact Or.inl (by simp [held])
        | succ i =>
            refine Or.inr ⟨i, c', id, slot, held, ?_⟩
            rw [Nat.add_assoc, Nat.add_comm 1 i]

private theorem mem_nodeWires {runner : RunnerId} {seen : List NodeId} {nodes : List Node} {x : Subscription} :
    x ∈ nodeWires runner seen nodes ↔
      ∃ n : Node, n.id ∉ seen ∧ nodes.find? (·.id = n.id) = some n ∧
        x ∈ conditionWires runner n.id 0 n.conditions := by
  induction nodes generalizing seen with
  | nil => simp [nodeWires]
  | cons n nodes ih =>
      unfold nodeWires
      split
      · rename_i old
        have known : n.id ∈ seen := by simpa using old
        rw [ih]
        refine exists_congr fun m => and_congr_right fun new => ?_
        have other : n.id ≠ m.id := fun same => new (same ▸ known)
        rw [List.find?_cons_of_neg (by simpa using other)]
      · rename_i new
        have unknown : n.id ∉ seen := by simpa using new
        rw [List.mem_append, ih]
        constructor
        · rintro (here | ⟨m, later, found, wired⟩)
          · exact ⟨n, unknown, by simp, here⟩
          · obtain ⟨other, unseen⟩ := not_or.mp (List.mem_cons.not.mp later)
            refine ⟨m, unseen, ?_, wired⟩
            rw [List.find?_cons_of_neg (by simpa using Ne.symm other)]
            exact found
        · rintro ⟨m, unseen, found, wired⟩
          by_cases same : n.id = m.id
          · rw [List.find?_cons_of_pos (by simpa using same)] at found
            obtain rfl := Option.some.inj found
            exact Or.inl wired
          · rw [List.find?_cons_of_neg (by simpa using same)] at found
            exact Or.inr ⟨m, List.mem_cons.not.mpr (not_or.mpr ⟨Ne.symm same, unseen⟩), found, wired⟩

theorem mem_wires {r : Runner} {x : Subscription} : x ∈ r.wires ↔ r.Wires x := by
  unfold wires
  rw [List.mem_append, mem_nodeWires]
  constructor
  · rintro (⟨n, _, first, wired⟩ | own)
    · obtain ⟨index, c, id, slot, held, rfl⟩ := mem_conditionWires.mp wired
      rw [Nat.zero_add]
      exact .condition first slot held
    · obtain ⟨⟨id, topic⟩, held, rfl⟩ := List.mem_map.mp own
      exact .own held
  · intro wires
    cases wires with
    | own held => exact Or.inr (List.mem_map.mpr ⟨_, held, rfl⟩)
    | condition first slot held =>
        refine Or.inl ⟨_, List.not_mem_nil, first, ?_⟩
        exact mem_conditionWires.mpr ⟨_, _, _, slot, held, by rw [Nat.zero_add]⟩

/-! ### Runners that are set up -/

/-- Everything that can be subscribed is, and no handle is held besides. -/
structure Wired (r : Runner) : Prop where
  own : ∃ jumps triggers, r.subscriptions = [jumps, triggers]
  slots : ∀ n, r.storyboard.node? n.id = some n → ∀ c ∈ n.conditions, c.subscription.isSome = true
  handles : ∀ id ∈ r.conditionHandles, id ∈ r.wires.map (·.id)

private theorem conditionWires_ids (runner : RunnerId) (node : NodeId) (index : Nat) (conditions : List Condition) :
    (conditionWires runner node index conditions).map (·.id) = conditions.filterMap (·.subscription) := by
  induction conditions generalizing index with
  | nil => rfl
  | cons c conditions ih =>
      rw [conditionWires, List.map_append, ih]
      cases held : c.subscription <;> simp [held]

/-- The handles that a runner gives back are those of what it wires. -/
theorem Wired.mem_handles {r : Runner} (wired : r.Wired) (id : SubscriptionId) :
    id ∈ r.subscriptions ++ r.conditionHandles ↔ id ∈ r.wires.map (·.id) := by
  obtain ⟨jumps, triggers, own⟩ := wired.own
  rw [List.mem_append]
  constructor
  · rintro (mine | condition)
    · unfold wires ownWires
      rw [List.map_append, List.mem_append, own]
      rw [own] at mine
      exact Or.inr (by simpa [ownTopics] using mine)
    · exact wired.handles id condition
  · intro known
    obtain ⟨x, member, rfl⟩ := List.mem_map.mp known
    clear known
    cases mem_wires.mp member with
    | own held => exact Or.inl (List.of_mem_zip held).1
    | condition first slot held =>
        refine Or.inr (List.mem_flatMap.mpr ⟨_, List.mem_of_find?_eq_some first, ?_⟩)
        exact List.mem_filterMap.mpr ⟨_, List.mem_of_getElem? slot, held⟩

/-- All handles that the runner gives back when it is set up or taken down. -/
def handles (r : Runner) : List SubscriptionId := r.subscriptions ++ r.conditionHandles

/-! ### What leaves the wiring as it is -/

private theorem conditionWires_reset (runner : RunnerId) (node : NodeId) (index : Nat) (conditions : List Condition) :
    conditionWires runner node index (conditions.map (·.reset)) = conditionWires runner node index conditions := by
  induction conditions generalizing index with
  | nil => rfl
  | cons c conditions ih =>
      rw [List.map_cons, conditionWires, conditionWires, ih]
      rfl

private theorem nodeWires_unlatched (runner : RunnerId) (seen : List NodeId) (nodes : List Node) :
    nodeWires runner seen (nodes.map Node.unlatched) = nodeWires runner seen nodes := by
  induction nodes generalizing seen with
  | nil => rfl
  | cons n nodes ih =>
      rw [List.map_cons, nodeWires, nodeWires, ih, ih]
      unfold Node.unlatched Node.mapConditions
      dsimp only
      rw [conditionWires_reset]

private theorem conditionHandles_unlatched (r : Runner) :
    r.conditionHandles =
      (r.storyboard.nodes.map Node.unlatched).flatMap fun n => n.conditions.filterMap (·.subscription) := by
  unfold conditionHandles
  rw [List.flatMap_map]
  congr 1
  funext n
  simp [Node.unlatched, Node.mapConditions, List.filterMap_map, Condition.reset]

/-- The same runner, which holds the same handles, whatever has become of its statuses and latches. -/
structure Retains (r r' : Runner) : Prop extends Alike r r' where
  subscriptions : r'.subscriptions = r.subscriptions

namespace Retains

variable {r r' : Runner}

theorem wires (retains : Retains r r') : r'.wires = r.wires := by
  unfold Runner.wires ownWires
  rw [← nodeWires_unlatched, retains.nodes, nodeWires_unlatched, retains.subscriptions, retains.id]

theorem wired (retains : Retains r r') (wired : r.Wired) : r'.Wired where
  own := by
    rw [retains.subscriptions]
    exact wired.own
  slots := by
    intro n first c member
    have same : (r'.storyboard.node? n.id).map Node.unlatched = (r.storyboard.node? n.id).map Node.unlatched := by
      rw [node?_unlatched, node?_unlatched, retains.nodes]
    rw [first] at same
    obtain ⟨m, found, unlatched⟩ := Option.map_eq_some_iff.mp same.symm
    have sameId : m.id = n.id := (congrArg Node.id unlatched :)
    have conditions : m.conditions.map (·.reset) = n.conditions.map (·.reset) := (congrArg Node.conditions unlatched :)
    have reset : c.reset ∈ m.conditions.map (·.reset) := by
      rw [conditions]
      exact List.mem_map_of_mem member
    obtain ⟨d, there, like⟩ := List.mem_map.mp reset
    have held := wired.slots m (sameId ▸ found) d there
    rwa [show d.subscription = c.subscription from (congrArg Condition.subscription like :)] at held
  handles := by
    rw [conditionHandles_unlatched, retains.nodes, ← conditionHandles_unlatched, retains.wires]
    exact wired.handles

theorem handles (retains : Retains r r') : r'.handles = r.handles := by
  unfold Runner.handles
  rw [conditionHandles_unlatched, retains.nodes, ← conditionHandles_unlatched, retains.subscriptions]

theorem trans {r r' r'' : Runner} (first : Retains r r') (last : Retains r' r'') : Retains r r'' :=
  ⟨first.toAlike.trans last.toAlike, last.subscriptions.trans first.subscriptions⟩

end Retains

theorem setStatus_retains {r : Runner} {node : NodeId} (known : r.contains node = true) (status : NodeStatus) :
    Retains r (r.setStatus node status) :=
  ⟨alike_setStatus known status, rfl⟩

theorem afterEnd_retains (node : NodeId) (r : Runner) : Retains r (r.afterEnd node) := by
  refine ⟨afterEnd_alike node r, ?_⟩
  unfold afterEnd completeNode rearm
  split
  · split
    · split <;> rfl
    · rfl
  · rfl

theorem deliver_retains {key : ConditionKey} {event : StoryEvent} {r r' : Runner} {j j' : Journal}
    {ready : Option NodeId} (made : r.deliver key event j = (ready, r', j')) : Retains r r' := by
  refine ⟨(deliver_made made).1, ?_⟩
  have subscriptions : (r.deliver key event j).2.1.subscriptions = r.subscriptions := by
    unfold deliver
    split
    · rfl
    · split
      · dsimp only
        split
        · split <;> rfl
        · rfl
      · rfl
  rwa [made] at subscriptions

theorem restore_retains {entry : SnapshotEntry} {policy : RestorePolicy} {active : Option NodeId} {r r' : Runner}
    {j j' : Journal} {nodes : List NodeId} (made : r.restore entry policy active j = (nodes, r', j')) :
    Retains r r' := by
  refine ⟨(restore_made made).1.alike, ?_⟩
  have subscriptions : (r.restore entry policy active j).2.1.subscriptions = r.subscriptions := by
    unfold restore
    dsimp only
    generalize r.restoration policy active entry.nodes { statuses := r.statuses } _ = result
    obtain ⟨x, journal⟩ := result
    dsimp only
    split <;> rfl
  rwa [made] at subscriptions

/-! ### Setting up and taking down -/

/-- A runner that is taken down gives back every handle. -/
theorem takeDown_sheds (r : Runner) (ch : Channel) :
    Channel.Sheds (r.subscriptions ++ r.conditionHandles) ch (r.takeDown ch).2 :=
  (Channel.unsubscribeAll_sheds _ ch).trans (Channel.unsubscribeAll_sheds _ _)

theorem takeDown_unsubscribed (r : Runner) (ch : Channel) : Unsubscribed (r.takeDown ch).1.storyboard.nodes := by
  intro n member c slot
  obtain ⟨m, _, rfl⟩ := List.mem_map.mp member
  obtain ⟨d, _, rfl⟩ := List.mem_map.mp slot
  rfl

variable {ch : Channel}

private theorem subscribeConditions_wires (runner : RunnerId) (node : NodeId) (index : Nat) (ch : Channel)
    (conditions : List Condition) :
    Bus.Extends (conditionWires runner node index (subscribeConditions runner node index ch conditions).1) ch.bus
        (subscribeConditions runner node index ch conditions).2.bus ∧
      ∀ c ∈ (subscribeConditions runner node index ch conditions).1, c.subscription.isSome = true := by
  induction conditions generalizing index ch with
  | nil => exact ⟨.refl _, nofun⟩
  | cons c conditions ih =>
      obtain ⟨extension, held⟩ := ih (index + 1) (ch.subscribe c.kind.topic (.condition ⟨runner, node, index⟩)).2
      refine ⟨(ch.subscribe_extends _ _).trans extension, ?_⟩
      intro d member
      rcases List.mem_cons.mp member with rfl | later
      · rfl
      · exact held d later

private theorem subscribeNodes_wires (runner : RunnerId) (seen : List NodeId) (ch : Channel) (nodes : List Node) :
    Bus.Extends (nodeWires runner seen (subscribeNodes runner seen ch nodes).1) ch.bus
      (subscribeNodes runner seen ch nodes).2.bus := by
  induction nodes generalizing seen ch with
  | nil => exact .refl _
  | cons n nodes ih =>
      unfold subscribeNodes
      split
      · rename_i old
        dsimp only
        rw [nodeWires, if_pos old]
        exact ih seen ch
      · rename_i new
        dsimp only
        rw [nodeWires, if_neg new]
        exact (subscribeConditions_wires runner n.id 0 ch n.conditions).1.trans (ih (n.id :: seen) _)

private theorem subscribeNodes_slots (runner : RunnerId) (seen : List NodeId) (ch : Channel) (nodes : List Node) (n : Node)
    (unseen : n.id ∉ seen) (first : (subscribeNodes runner seen ch nodes).1.find? (·.id = n.id) = some n) :
    ∀ c ∈ n.conditions, c.subscription.isSome = true := by
  induction nodes generalizing seen ch with
  | nil => cases first
  | cons m nodes ih =>
      unfold subscribeNodes at first
      split at first
      · rename_i old
        have other : m.id ≠ n.id := fun same => unseen (same ▸ by simpa using old)
        rw [List.find?_cons_of_neg (by simpa using other)] at first
        exact ih seen ch unseen first
      · by_cases same : m.id = n.id
        · rw [List.find?_cons_of_pos (by simpa using same)] at first
          rw [← Option.some.inj first]
          exact (subscribeConditions_wires runner m.id 0 ch m.conditions).2
        · rw [List.find?_cons_of_neg (by simpa using same)] at first
          exact ih (m.id :: seen) _ (List.mem_cons.not.mpr (not_or.mpr ⟨Ne.symm same, unseen⟩)) first

/-- Of nodes that held no handle none but the wired ones does. -/
private theorem subscribeNodes_handles (runner : RunnerId) (seen : List NodeId) (ch : Channel) (nodes : List Node)
    (unsubscribed : Unsubscribed nodes) (id : SubscriptionId)
    (held : id ∈ (subscribeNodes runner seen ch nodes).1.flatMap fun n => n.conditions.filterMap (·.subscription)) :
    id ∈ (nodeWires runner seen (subscribeNodes runner seen ch nodes).1).map (·.id) := by
  induction nodes generalizing seen ch with
  | nil => cases held
  | cons n nodes ih =>
      have rest : Unsubscribed nodes := fun m member => unsubscribed m (List.mem_cons_of_mem n member)
      unfold subscribeNodes at held ⊢
      split at held
      · rename_i old
        rw [if_pos old]
        dsimp only at held ⊢
        rw [nodeWires, if_pos old]
        rw [List.flatMap_cons, List.filterMap_eq_nil_iff.mpr (unsubscribed n List.mem_cons_self), List.nil_append] at held
        exact ih seen ch rest held
      · rename_i new
        rw [if_neg new]
        dsimp only at held ⊢
        rw [nodeWires, if_neg new, List.map_append, List.mem_append, conditionWires_ids]
        rw [List.flatMap_cons, List.mem_append] at held
        exact held.imp_right (ih (n.id :: seen) _ rest)

/-- Setting up gives back what the runner held before, and then subscribes exactly what it wires. -/
theorem setUp_rewires {r r' : Runner} {ch ch' : Channel} {ready : List NodeId} (made : r.setUp ch = (ready, r', ch')) :
    Bus.Extends r'.wires (r.takeDown ch).2.bus ch'.bus ∧ r'.Wired := by
  have parts := r.setUp_parts ch
  rw [made] at parts
  obtain ⟨journal, -, id, nodes, -, -, own, bus⟩ := parts
  dsimp only at id nodes own bus
  let given : Channel := { (r.takeDown ch).2 with journal }
  have extension := subscribeNodes_wires r.id [] given (r.takeDown ch).1.storyboard.nodes
  have slots := subscribeNodes_slots r.id [] given (r.takeDown ch).1.storyboard.nodes
  have handles := subscribeNodes_handles r.id [] given (r.takeDown ch).1.storyboard.nodes (r.takeDown_unsubscribed ch)
  have ownWires : r'.ownWires = _ := congrArg (List.map _) (congrArg (List.zip · ownTopics) own)
  rw [id] at ownWires
  rw [← nodes] at extension slots handles
  constructor
  · unfold wires
    rw [id, ownWires, bus]
    exact extension.trans ((Bus.subscribe_extends _ _ _).trans (Bus.subscribe_extends _ _ _))
  · refine ⟨⟨_, _, own⟩, fun n first => slots n List.not_mem_nil first, ?_⟩
    intro handle held
    unfold wires
    rw [List.map_append, id]
    exact List.mem_append_left _ (handles handle held)

/-- Setting up a runner that holds nothing yet only subscribes. -/
theorem setUp_wires {r r' : Runner} {ch ch' : Channel} {ready : List NodeId} (made : r.setUp ch = (ready, r', ch'))
    (new : r.subscriptions = []) (unsubscribed : Unsubscribed r.storyboard.nodes) :
    Bus.Extends r'.wires ch.bus ch'.bus ∧ r'.Wired := by
  have rewired := setUp_rewires made
  rwa [(takeDown_new new unsubscribed ch).1] at rewired

end Runner

end Plotline
