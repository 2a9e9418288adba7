import Mathlib.Data.List.Nodup
import Plotline.Proofs.Runner.Status

/-!
The two tables of a runner. One has the status of each node, the other its place in the storyboard. Once a runner is set
up they index its nodes; whatever else is done to the runner, it keeps the ids of its nodes and of its statuses.
-/

namespace Plotline.Runner

/-- For each id the place of the node that it stands for. -/
abbrev PlaceTable := List (NodeId × Nat)

/-- Both tables have the ids of the nodes, each once, and the places are those of the first nodes with their ids. -/
structure Indexes (nodes : List Node) (places : PlaceTable) (statuses : StatusTable) : Prop where
  first : ∀ node, places.lookup node = nodes.findIdx? (·.id = node)
  keys : statuses.map (·.1) = places.map (·.1)
  distinct : (places.map (·.1)).Nodup

theorem lookup_isSome_iff_mem {α : Type} (table : List (NodeId × α)) (node : NodeId) :
    (table.lookup node).isSome = true ↔ node ∈ table.map (·.1) := by
  rw [List.lookup_isSome_iff, List.mem_map]
  exact exists_congr fun entry => and_congr_right fun _ => beq_iff_eq.trans eq_comm

namespace Indexes

variable {nodes : List Node} {places : PlaceTable} {statuses : StatusTable}

theorem nil : Indexes [] [] [] := ⟨fun _ => rfl, rfl, List.nodup_nil⟩

/-- A node has a status exactly if it has a place. -/
theorem known (indexes : Indexes nodes places statuses) (node : NodeId) :
    (statuses.get? node).isSome = (places.lookup node).isSome := by
  have same : node ∈ statuses.map (·.1) ↔ node ∈ places.map (·.1) := by rw [indexes.keys]
  rw [Bool.eq_iff_iff, lookup_isSome_iff_mem places node, ← same]
  exact lookup_isSome_iff_mem statuses node

theorem length_eq (indexes : Indexes nodes places statuses) : places.length = statuses.length := by
  have same := congrArg List.length indexes.keys
  rwa [List.length_map, List.length_map, eq_comm] at same

/-- What stands at the place of an id is the first node with this id. -/
theorem found (indexes : Indexes nodes places statuses) (node : NodeId) :
    (places.lookup node).bind (nodes[·]?) = nodes.find? (·.id = node) := by
  rw [indexes.first, List.find?_eq_bind_findIdx?_getElem?]

theorem mem_places (indexes : Indexes nodes places statuses) (node : NodeId) :
    node ∈ places.map (·.1) ↔ node ∈ nodes.map (·.id) := by
  rw [← lookup_isSome_iff_mem, indexes.first, List.findIdx?_isSome, List.any_eq_true, List.mem_map]
  simp only [decide_eq_true_eq]

theorem mem_statuses (indexes : Indexes nodes places statuses) (node : NodeId) :
    node ∈ statuses.map (·.1) ↔ node ∈ nodes.map (·.id) := by
  rw [indexes.keys, indexes.mem_places]

theorem first_id (indexes : Indexes nodes places statuses) (node : NodeId) :
    places.lookup node = (nodes.map (·.id)).findIdx? (· = node) := by
  rw [indexes.first, List.findIdx?_map]
  rfl

/-- The tables are about ids only. -/
theorem congr {nodes' : List Node} {statuses' : StatusTable} (indexes : Indexes nodes places statuses)
    (ids : nodes'.map (·.id) = nodes.map (·.id)) (keys : statuses'.map (·.1) = statuses.map (·.1)) :
    Indexes nodes' places statuses' := by
  refine ⟨?_, keys.trans indexes.keys, indexes.distinct⟩
  intro node
  rw [indexes.first_id, ← ids, List.findIdx?_map]
  rfl

/-- A node whose id is there already changes nothing. -/
theorem addOld (indexes : Indexes nodes places statuses) {n : Node} (old : (places.lookup n.id).isSome = true) :
    Indexes (nodes ++ [n]) places statuses := by
  refine ⟨?_, indexes.keys, indexes.distinct⟩
  intro node
  rw [List.findIdx?_append, ← indexes.first]
  by_cases here : n.id = node
  · obtain ⟨place, there⟩ := Option.isSome_iff_exists.mp old
    rw [← here, there, Option.some_or]
  · rw [List.findIdx?_singleton, if_neg (by simpa using here), Option.map_none, Option.or_none]

theorem addNew (indexes : Indexes nodes places statuses) {n : Node} (new : (places.lookup n.id).isSome ≠ true)
    (status : NodeStatus) :
    Indexes (nodes ++ [n]) (places ++ [(n.id, nodes.length)]) (statuses ++ [(n.id, status)]) := by
  refine ⟨?_, ?_, ?_⟩
  · intro node
    rw [List.findIdx?_append, List.lookup_append, indexes.first]
    congr 1
    by_cases here : n.id = node
    · simp [here]
    · simp [here, List.lookup_cons, beq_false_of_ne (Ne.symm here)]
  · rw [List.map_append, List.map_append, indexes.keys]
    rfl
  · have absent : n.id ∉ places.map (·.1) := fun there => new ((lookup_isSome_iff_mem places n.id).mpr there)
    rw [List.map_append]
    exact List.Nodup.append indexes.distinct (List.nodup_singleton _) (List.disjoint_singleton.mpr absent)

end Indexes

/-! ### Statuses under the ids that there are -/

theorem keys_set {table : StatusTable} {node : NodeId} (known : (table.get? node).isSome = true) (status : NodeStatus) :
    (table.set node status).map (·.1) = table.map (·.1) := by
  induction table with
  | nil => cases known
  | cons head table ih =>
      obtain ⟨first, old⟩ := head
      unfold StatusTable.set
      split
      · rfl
      · rename_i other
        rw [StatusTable.get?_cons, if_neg (Ne.symm other)] at known
        rw [List.map_cons, List.map_cons, ih known]

theorem set_new {table : StatusTable} {node : NodeId} (new : table.get? node = none) (status : NodeStatus) :
    table.set node status = table ++ [(node, status)] := by
  induction table with
  | nil => rfl
  | cons head table ih =>
      obtain ⟨first, old⟩ := head
      rw [StatusTable.get?_cons] at new
      split at new
      · cases new
      · rename_i other
        rw [StatusTable.set, if_neg (Ne.symm other), ih new, List.cons_append]

/-- The runner has nodes and statuses under the same ids as before. -/
structure Steady (r r' : Runner) : Prop where
  ids : r'.storyboard.nodes.map (·.id) = r.storyboard.nodes.map (·.id)
  keys : r'.statuses.map (·.1) = r.statuses.map (·.1)

namespace Steady

theorem refl (r : Runner) : Steady r r := ⟨rfl, rfl⟩

theorem trans {r r' r'' : Runner} (first : Steady r r') (last : Steady r' r'') : Steady r r'' :=
  ⟨last.ids.trans first.ids, last.keys.trans first.keys⟩

end Steady

theorem setStatus_steady {r : Runner} {node : NodeId} (known : r.contains node = true) (status : NodeStatus) :
    Steady r (r.setStatus node status) := ⟨rfl, keys_set known status⟩

theorem modifyNode_steady (node : NodeId) (r : Runner) {f : Node → Node}
    (latches : ∀ n, (f n).unlatched = n.unlatched) : Steady r (r.modifyNode node f) := ⟨(alike_modifyNode node r latches).ids, rfl⟩

theorem afterEnd_steady (node : NodeId) (r : Runner) : Steady r (r.afterEnd node) := by
  refine ⟨(r.afterEnd_alike node).ids, ?_⟩
  by_cases running : r.statusOf? node = some .inProgress
  · have known := contains_of_status running
    have completed := keys_set known .completed
    unfold afterEnd completeNode rearm
    rw [if_pos running]
    split
    · split
      · have still : ((r.setStatus node .completed).contains node) = true :=
          ((alike_setStatus known .completed).known node).trans known
        exact (keys_set still .notStarted).trans completed
      · exact completed
    · exact completed
  · rw [afterEnd_eq_self running]

theorem deliver_steady (key : ConditionKey) (event : StoryEvent) (r : Runner) (j : Journal) :
    Steady r (r.deliver key event j).2.1 :=
  ⟨(r.deliver_alike key event j).ids, congrArg (List.map (·.1)) (r.deliver_statuses key event j)⟩

theorem beginNode_steady (node : NodeId) (r : Runner) (ch : Channel) : Steady r (r.beginNode node ch).2.1 := by
  unfold beginNode
  split
  · exact .refl r
  · rename_i waiting
    split
    · exact .refl r
    · exact setStatus_steady (contains_of_status waiting) .inProgress
  · exact .refl r

theorem completeNode_steady (node : NodeId) (r : Runner) (ch : Channel) : Steady r (r.completeNode node ch).2.1 :=
  r.completeNode_runner node ch ▸ r.afterEnd_steady node

theorem completeAll_steady (nodes : List NodeId) (r : Runner) (ch : Channel) :
    Steady r (r.completeAll nodes ch).1 := by
  induction nodes generalizing r ch with
  | nil => exact .refl r
  | cons node nodes ih => exact (r.completeNode_steady node ch).trans (ih _ _)

theorem receiveJump_steady (board : StoryboardName) (keep : Option NodeId) (r : Runner) (ch : Channel) :
    Steady r (r.receiveJump board keep ch).2.1 := by
  unfold receiveJump
  split
  · exact completeAll_steady _ _ _
  · exact .refl r

private theorem restoration_keys (r : Runner) (policy : RestorePolicy) (active : Option NodeId)
    (states : List NodeState) (taken : Restoration) (j : Journal)
    (keys : taken.statuses.map (·.1) = r.statuses.map (·.1)) :
    (r.restoration policy active states taken j).1.statuses.map (·.1) = r.statuses.map (·.1) := by
  induction states generalizing taken j with
  | nil => exact keys
  | cons state states ih =>
      unfold restoration
      split
      · exact ih _ _ keys
      · rename_i known
        split
        · exact ih _ _ keys
        · apply ih
          have there : state.node ∈ taken.statuses.map (·.1) := by
            rw [keys, ← lookup_isSome_iff_mem]
            exact Bool.not_not_eq.mp known
          exact (keys_set ((lookup_isSome_iff_mem _ _).mpr there) _).trans keys

/-- Only nodes that the runner knows get a status from a saved game. -/
theorem restore_steady (entry : SnapshotEntry) (policy : RestorePolicy) (active : Option NodeId) (r : Runner)
    (j : Journal) : Steady r (r.restore entry policy active j).2.1 := by
  refine ⟨(r.restore_spec entry policy active j).1.alike.ids, ?_⟩
  obtain ⟨j', statuses⟩ := restore_statuses entry policy active r j
  rw [statuses]
  exact restoration_keys r policy active entry.nodes _ j' rfl

theorem takeDown_steady (r : Runner) (ch : Channel) : Steady r (r.takeDown ch).1 := by
  refine ⟨?_, rfl⟩
  simp [takeDown, mapNodes, Node.mapConditions, Function.comp_def]

end Plotline.Runner
