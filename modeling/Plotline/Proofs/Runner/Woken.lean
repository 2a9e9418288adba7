import Plotline.Proofs.Runner.Waking

/-!
A shadowed node that statuses can wake is woken by some. The statuses that show it are those of a game in which the nodes
that its conditions are waiting for are complete.
-/

namespace Plotline.Runner

variable {r : Runner} {entry : SnapshotEntry}

/-- The nodes that the conditions of a node are waiting for, all of them complete. -/
def calls (n : Node) : List NodeState :=
  n.conditions.filterMap fun c =>
    match c.kind with
    | .previousNodeCompleted target => if target = n.id then none else some ⟨target, .completed⟩
    | _ => none

private theorem mem_calls {n : Node} {state : NodeState} (member : state ∈ calls n) :
    state.status = .completed ∧ state.node ≠ n.id := by
  obtain ⟨c, -, called⟩ := List.mem_filterMap.mp member
  split at called
  · split at called
    · cases called
    · rename_i other
      cases called
      exact ⟨rfl, other⟩
  · cases called

private theorem calls_of_awaits {n : Node} {c : Condition} (slot : c ∈ n.conditions) {b : Storyboard}
    (awaits : b.Awaits n.id c) :
    ∃ target, c.kind = .previousNodeCompleted target ∧ (b.node? target).isSome = true ∧
      ⟨target, .completed⟩ ∈ calls n := by
  obtain ⟨target, kind, other, known⟩ := awaits
  refine ⟨target, kind, known, List.mem_filterMap.mpr ⟨c, slot, ?_⟩⟩
  rw [kind]
  exact if_neg other

private theorem recorded_calls {n : Node} {before : List NodeState} (nodes : entry.nodes = before ++ calls n) :
    recorded entry .keep n.id = (before.reverse.find? (·.node = n.id)).map (·.status) ∧
      ∀ target, ⟨target, .completed⟩ ∈ calls n → recorded entry .keep target = some .completed := by
  have kept : ∀ status, (restoredStatus .keep status).1 = status := by
    intro status
    cases status <;> rfl
  unfold recorded
  rw [nodes, List.reverse_append]
  constructor
  · have none : (calls n).reverse.find? (·.node = n.id) = none := by
      rw [List.find?_eq_none]
      intro state member
      simpa using (mem_calls (List.mem_reverse.mp member)).2
    rw [List.find?_append, none, Option.none_or]
    simp only [kept]
  · intro target member
    cases found : (calls n).reverse.find? (·.node = target) with
    | none =>
        have missing := List.find?_eq_none.mp found ⟨target, .completed⟩ (List.mem_reverse.mpr member)
        simp at missing
    | some state =>
        have complete := (mem_calls (List.mem_reverse.mp (List.mem_of_find?_eq_some found))).1
        rw [List.find?_append, found, Option.some_or, Option.map_some, kept, complete]

private theorem settledBy_calls (listed : r.Listed) {n : Node} {before : List NodeState}
    (nodes : entry.nodes = before ++ calls n) {c : Condition} (slot : c ∈ n.conditions)
    (awaits : r.storyboard.Awaits n.id c) :
    c.kind.settledBy (r.taken entry .keep none).statuses = true ∧
      ∃ target, c.kind = .previousNodeCompleted target ∧
        (r.taken entry .keep none).statuses.get? target = some .completed := by
  obtain ⟨target, kind, known, called⟩ := calls_of_awaits slot awaits
  have complete : (r.taken entry .keep none).statuses.get? target = some .completed := by
    rw [get?_taken, if_pos ⟨(listed target).trans known, nofun⟩, (recorded_calls nodes).2 target called]
    rfl
  refine ⟨?_, target, kind, complete⟩
  rw [kind]
  exact decide_eq_true complete

private theorem status_of_shadowed (listed : r.Listed) {n : Node} (member : n ∈ r.storyboard.shadowed) :
    r.contains n.id = true := by
  rw [listed n.id, Storyboard.node?, List.find?_isSome]
  exact ⟨n, Node.mem_of_shadowed member, by simp⟩

/-- A node that was complete and now waits anew is ready by the statuses of the others. -/
private theorem ready_anew (listed : r.Listed) {n : Node} (member : n ∈ r.storyboard.shadowed)
    (complete : r.statusOf? n.id = some .completed) (nonempty : n.conditions ≠ [])
    (all : ∀ c ∈ n.conditions, r.storyboard.Awaits n.id c)
    (nodes : entry.nodes = [⟨n.id, .notStarted⟩] ++ calls n) :
    (r.taken entry .keep none).changed.contains n.id = true ∧
      Ready (r.taken entry .keep none) ((r.taken entry .keep none).rearm n) = true := by
  have waiting : (r.taken entry .keep none).statuses.get? n.id = some .notStarted := by
    rw [get?_taken, if_pos ⟨status_of_shadowed listed member, nofun⟩, (recorded_calls nodes).1]
    simp
  have changed : (r.taken entry .keep none).changed.contains n.id = true := by
    apply changed_of_ne
    rw [waiting, complete]
    nofun
  have released : (r.taken entry .keep none).rearm n = n.mapConditions (·.reset) := by
    unfold Restoration.rearm
    rw [changed, waiting]
    rfl
  obtain ⟨c, slot⟩ := List.exists_mem_of_ne_nil _ nonempty
  refine ⟨changed, ?_⟩
  unfold Ready Restoration.includes
  rw [released]
  simp only [Bool.and_eq_true, decide_eq_true_eq, List.any_eq_true]
  refine ⟨⟨⟨waiting, ?_⟩, c.reset, List.mem_map_of_mem slot, ?_⟩, ?_⟩
  · exact Bool.or_eq_true_iff.mpr (Or.inl changed)
  · exact (settledBy_calls listed nodes slot (all c slot)).1
  · refine List.all_eq_true.mpr fun c' slot' => ?_
    obtain ⟨c'', slot'', rfl⟩ := List.mem_map.mp slot'
    obtain ⟨c, slot, rfl⟩ := List.mem_map.mp slot''
    exact (settledBy_calls listed nodes slot (all c slot)).1

/-- So is a node that has waited all along for nothing else. -/
private theorem ready_further (fresh : r.Fresh) {n : Node} (member : n ∈ r.storyboard.shadowed)
    (once : n.isRepeatable = false) (lacks : ∃ c ∈ n.conditions, c.satisfied = false)
    (all : ∀ c ∈ n.conditions, c.satisfied = true ∨ r.storyboard.Awaits n.id c) (nodes : entry.nodes = calls n) :
    (r.taken entry .keep none).changed ≠ [] ∧
      Ready (r.taken entry .keep none) ((r.taken entry .keep none).rearm n) = true := by
  have nodes : entry.nodes = [] ++ calls n := nodes
  have waits : r.statusOf? n.id = some .notStarted := by
    obtain ⟨status, is⟩ := Option.isSome_iff_exists.mp (status_of_shadowed fresh.listed member)
    rw [is, fresh.waiting n.id status is]
  have waiting : (r.taken entry .keep none).statuses.get? n.id = some .notStarted := by
    rw [get?_taken, if_pos ⟨status_of_shadowed fresh.listed member, nofun⟩, (recorded_calls nodes).1]
    exact waits
  have unchanged : ¬ (r.taken entry .keep none).changed.contains n.id = true := by
    intro changed
    obtain ⟨state, among, same⟩ := named_of_changed changed
    rw [nodes] at among
    exact (mem_calls among).2 same
  have kept : (r.taken entry .keep none).rearm n = n := by
    unfold Restoration.rearm
    rw [Bool.not_eq_true] at unchanged
    rw [unchanged]
    rfl
  obtain ⟨c, slot, unsatisfied⟩ := lacks
  have awaits : r.storyboard.Awaits n.id c := (all c slot).resolve_left (by simp [unsatisfied])
  obtain ⟨settled, target, -, complete⟩ := settledBy_calls fresh.listed nodes slot awaits
  constructor
  · have changed : (r.taken entry .keep none).changed.contains target = true := by
      apply changed_of_ne
      rw [complete]
      intro before
      cases fresh.waiting target _ before.symm
    exact List.ne_nil_of_mem (List.contains_iff_mem.mp changed)
  · unfold Ready Restoration.includes
    rw [kept]
    simp only [Bool.and_eq_true, decide_eq_true_eq, List.any_eq_true]
    refine ⟨⟨⟨waiting, ?_⟩, c, slot, ?_⟩, ?_⟩
    · simp [once]
    · simp [Condition.newlySettled, unsatisfied, settled]
    · refine List.all_eq_true.mpr fun c' slot' => ?_
      obtain ⟨c, slot, rfl⟩ := List.mem_map.mp slot'
      rcases all c slot with satisfied | awaits
      · simp [Condition.settle, satisfied]
      · simp [Condition.settle, (settledBy_calls fresh.listed nodes slot awaits).1]

/-- A shadowed node that is ready is started where the game is restored, and not where it was left out. -/
private theorem restart_ne_of_ready {n : Node} (member : n ∈ r.storyboard.shadowed)
    (some : (r.taken entry .keep none).changed ≠ [])
    (ready : Ready (r.taken entry .keep none) ((r.taken entry .keep none).rearm n) = true) (j j' : Journal) :
    (r.pruned.restore entry .keep none j').1 ≠ (r.restore entry .keep none j).1 := by
  have rearmed : (r.taken entry .keep none).rearm n ∈
      Node.shadowed [] (r.storyboard.nodes.map (r.taken entry .keep none).rearm) := by
    rw [Node.shadowed_map (Restoration.rearm_id _)]
    exact List.mem_map_of_mem member
  have fewer := Node.filter_firsts_lt rearmed ready
  have among : r.pruned.storyboard.nodes.map (r.taken entry .keep none).rearm =
      Node.firsts [] (r.storyboard.nodes.map (r.taken entry .keep none).rearm) :=
    (Node.firsts_map (Restoration.rearm_id _) [] r.storyboard.nodes).symm
  have shows : (r.taken entry .keep none).changed.isEmpty = false := by simpa using some
  rw [(restore_eq entry j').1, (restore_eq entry j).1, taken_pruned, restart_taken, shows, evaluate_rewound,
    evaluate_rewound, among]
  intro same
  have lengths := congrArg List.length same
  simp only [appendNew, List.foldl_nil, Bool.false_eq_true, if_false, List.length_map] at lengths
  omega

/-- A game in which a node begins to wait when the others are complete starts it under a shadowed definition. -/
theorem restart_anew (listed : r.Listed) {n : Node} (member : n ∈ r.storyboard.shadowed)
    (complete : r.statusOf? n.id = some .completed) (nonempty : n.conditions ≠ [])
    (all : ∀ c ∈ n.conditions, r.storyboard.Awaits n.id c)
    (nodes : entry.nodes = [⟨n.id, .notStarted⟩] ++ calls n) (j j' : Journal) :
    (r.pruned.restore entry .keep none j').1 ≠ (r.restore entry .keep none j).1 := by
  obtain ⟨changed, ready⟩ := ready_anew listed member complete nonempty all nodes
  exact restart_ne_of_ready member (List.ne_nil_of_mem (List.contains_iff_mem.mp changed)) ready j j'

/-- So does a game in which the others are complete and the node has waited before. -/
theorem restart_further (fresh : r.Fresh) {n : Node} (member : n ∈ r.storyboard.shadowed)
    (once : n.isRepeatable = false) (lacks : ∃ c ∈ n.conditions, c.satisfied = false)
    (all : ∀ c ∈ n.conditions, c.satisfied = true ∨ r.storyboard.Awaits n.id c) (nodes : entry.nodes = calls n)
    (j j' : Journal) : (r.pruned.restore entry .keep none j').1 ≠ (r.restore entry .keep none j).1 := by
  obtain ⟨changed, ready⟩ := ready_further fresh member once lacks all nodes
  exact restart_ne_of_ready member changed ready j j'

/-- A shadowed node that waits only for others has its counterpart in every runner of the kind. -/
theorem Alike.shadowed {r' : Runner} (alike : r.Alike r') {n : Node} (member : n ∈ r.storyboard.shadowed)
    (nonempty : n.conditions ≠ []) (all : ∀ c ∈ n.conditions, r.storyboard.Awaits n.id c) :
    ∃ m ∈ r'.storyboard.shadowed, m.id = n.id ∧ calls m = calls n ∧ m.conditions ≠ [] ∧
      ∀ c ∈ m.conditions, r'.storyboard.Awaits m.id c := by
  have mapped : ∀ b : Storyboard, b.shadowed.map Node.unlatched = Node.shadowed [] (b.nodes.map Node.unlatched) :=
    fun b => (Node.shadowed_map (f := Node.unlatched) (fun _ => rfl) [] b.nodes).symm
  have same : n.unlatched ∈ r'.storyboard.shadowed.map Node.unlatched := by
    rw [mapped, alike.nodes, ← mapped]
    exact List.mem_map_of_mem member
  obtain ⟨m, among, unlatched⟩ := List.mem_map.mp same
  have sameId : m.id = n.id := (congrArg Node.id unlatched :)
  have conditions : m.conditions.map (·.reset) = n.conditions.map (·.reset) :=
    (congrArg Node.conditions unlatched :)
  have called : ∀ x : Node, calls x = calls x.unlatched := by
    intro x
    unfold calls Node.unlatched Node.mapConditions
    rw [List.filterMap_map]
    rfl
  refine ⟨m, among, sameId, ?_, ?_, ?_⟩
  · rw [called, unlatched, ← called]
  · rintro none
    rw [none, List.map_nil, eq_comm, List.map_eq_nil_iff] at conditions
    exact nonempty conditions
  · intro c slot
    have reset : c.reset ∈ n.conditions.map (·.reset) := conditions ▸ List.mem_map_of_mem slot
    obtain ⟨c', slot', isReset⟩ := List.mem_map.mp reset
    rw [sameId]
    exact (all c' slot').congr (fun node => (alike.sameNodes node).symm) (congrArg Condition.kind isReset :)

end Plotline.Runner
