import Plotline.Proofs.Runner.Primed
import Plotline.Proofs.Runner.Status

/-!
Bringing a runner that was just set up to what another of its kind had come to. If nothing was in progress there, and
every node that waits lacks something that cannot be read off the statuses, the statuses are taken over and no node
starts.
-/

namespace Plotline.Runner

theorem capture_congr {r r' : Runner} (id : r'.id = r.id) (board : r'.storyboard.name = r.storyboard.name)
    (ids : r'.storyboard.nodes.map (·.id) = r.storyboard.nodes.map (·.id))
    (statuses : ∀ node, r'.statusOf? node = r.statusOf? node) : r'.capture = r.capture := by
  have nodes : ∀ x : Runner, x.capture.nodes =
      (x.storyboard.nodes.map (·.id)).filterMap fun node => (x.statusOf? node).map fun status => ⟨node, status⟩ := by
    intro x
    rw [List.filterMap_map]
    rfl
  have same : r'.capture.nodes = r.capture.nodes := by
    rw [nodes, nodes, ids]
    simp only [statuses]
  unfold capture at same ⊢
  dsimp only at same
  rw [id, board, same]

/-- Nothing is in progress, and by its statuses alone no node that runs only once would have to start. -/
structure Settled (r : Runner) : Prop where
  idle : ∀ node, r.statusOf? node ≠ some .inProgress
  asleep : ∀ node d, r.node? node = some d → d.isRepeatable = false → r.statusOf? node = some .notStarted →
    d.conditions ≠ [] → ∃ c ∈ d.conditions, c.kind.settledBy r.statuses = false

variable {x y : Runner} {policy : RestorePolicy}

/-! ### Statuses -/

/-- Each node is as it was set up or as it is in `x` already, and what has changed is complete there. -/
structure Restoration.Nears (x : Runner) (taken : Restoration) : Prop where
  statuses : ∀ node, taken.statuses.get? node = x.statusOf? node ∨
    (x.contains node = true ∧ taken.statuses.get? node = some .notStarted)
  restart : taken.restart = []
  changed : ∀ node ∈ taken.changed, x.statusOf? node = some .completed

private theorem restoredStatus_idle {status : NodeStatus} (idle : status ≠ .inProgress) :
    restoredStatus policy status = (status, false) := by
  cases status <;> first | rfl | exact absurd rfl idle

private theorem Restoration.Nears.take {taken : Restoration} (nears : taken.Nears x) (settled : x.Settled)
    {state : NodeState} (faithful : x.statusOf? state.node = some state.status) :
    (taken.take policy state).Nears x ∧
      (∀ node, (taken.take policy state).statuses.get? node =
        if node = state.node then x.statusOf? node else taken.statuses.get? node) := by
  have idle : state.status ≠ .inProgress := fun running => settled.idle state.node (running ▸ faithful)
  have statuses : ∀ node, (taken.take policy state).statuses.get? node =
      if node = state.node then x.statusOf? node else taken.statuses.get? node := by
    intro node
    unfold Restoration.take
    rw [restoredStatus_idle idle]
    dsimp only
    rw [StatusTable.get?_set]
    by_cases same : node = state.node
    · rw [if_pos same, if_pos same, same, faithful]
    · rw [if_neg same, if_neg same]
  refine ⟨⟨?_, ?_, ?_⟩, statuses⟩
  · intro node
    rw [statuses]
    split
    · exact Or.inl rfl
    · exact nears.statuses node
  · unfold Restoration.take
    rw [restoredStatus_idle idle]
    exact nears.restart
  · unfold Restoration.take
    rw [restoredStatus_idle idle]
    dsimp only
    intro node member
    split at member
    · exact nears.changed node member
    · rename_i fresh
      rcases List.mem_append.mp member with before | new
      · exact nears.changed node before
      · obtain rfl := List.mem_singleton.mp new
        -- the status was another one before, which can only be that of a node that has not started
        rw [faithful]
        have other : taken.statuses.get? state.node ≠ some state.status := by
          intro same
          simp [same] at fresh
        rcases nears.statuses state.node with same | ⟨-, waiting⟩
        · exact absurd (same.trans faithful) other
        · cases status : state.status with
          | notStarted => exact absurd (waiting.trans (congrArg some status.symm)) other
          | inProgress => exact absurd status idle
          | completed => rfl

private theorem restoration_nears (settled : x.Settled) (states : List NodeState) (taken : Restoration) (j : Journal)
    (faithful : ∀ state ∈ states, x.statusOf? state.node = some state.status)
    (known : ∀ state ∈ states, y.contains state.node = true) (nears : taken.Nears x) :
    (y.restoration policy none states taken j).1.Nears x ∧
      ∀ node, (taken.statuses.get? node = x.statusOf? node ∨ ∃ state ∈ states, state.node = node) →
        (y.restoration policy none states taken j).1.statuses.get? node = x.statusOf? node := by
  induction states generalizing taken j with
  | nil =>
      refine ⟨nears, ?_⟩
      rintro node (same | ⟨state, member, -⟩)
      · exact same
      · cases member
  | cons state states ih =>
      have later : ∀ other ∈ states, other ∈ state :: states := fun other => List.mem_cons_of_mem state
      obtain ⟨nearer, statuses⟩ := nears.take settled (faithful state List.mem_cons_self)
      obtain ⟨final, agrees⟩ := ih (taken.take policy state) j (fun other member => faithful other (later other member))
        (fun other member => known other (later other member)) nearer
      have unfolded : y.restoration policy none (state :: states) taken j =
          y.restoration policy none states (taken.take policy state) j := by
        rw [restoration, known state List.mem_cons_self]
        rfl
      rw [unfolded]
      refine ⟨final, ?_⟩
      intro node reason
      apply agrees
      rw [statuses]
      by_cases here : node = state.node
      · exact Or.inl (if_pos here)
      · rw [if_neg here]
        rcases reason with same | ⟨other, member, isNode⟩
        · exact Or.inl same
        · rcases List.mem_cons.mp member with rfl | further
          · exact absurd isNode.symm here
          · exact Or.inr ⟨other, further, isNode⟩

theorem mem_capture {state : NodeState} (member : state ∈ x.capture.nodes) :
    x.statusOf? state.node = some state.status := by
  obtain ⟨n, _, captured⟩ := List.mem_filterMap.mp member
  obtain ⟨status, known, rfl⟩ := Option.map_eq_some_iff.mp captured
  exact known

private theorem captured_of_known (listed : x.Listed) {node : NodeId} (known : x.contains node = true) :
    ∃ state ∈ x.capture.nodes, state.node = node := by
  obtain ⟨status, is⟩ := Option.isSome_iff_exists.mp known
  rw [listed node] at known
  obtain ⟨n, found⟩ := Option.isSome_iff_exists.mp known
  have same : n.id = node := by simpa using List.find?_some found
  refine ⟨⟨node, status⟩, List.mem_filterMap.mpr ⟨n, List.mem_of_find?_eq_some found, ?_⟩, rfl⟩
  rw [same, is]
  rfl

/-- What is captured of a settled runner is taken over as a whole. -/
theorem restoration_capture (policy : RestorePolicy) (fresh : y.Fresh) (alike : y.Alike x)
    (settled : x.Settled) (j : Journal) :
    (y.restoration policy none x.capture.nodes { statuses := y.statuses } j).1.Nears x ∧
      ∀ node, (y.restoration policy none x.capture.nodes { statuses := y.statuses } j).1.statuses.get? node =
        x.statusOf? node := by
  have start : ({ statuses := y.statuses } : Restoration).Nears x := by
    refine ⟨?_, rfl, nofun⟩
    intro node
    cases known : y.statusOf? node with
    | none =>
        have gone := alike.known node
        unfold contains at gone
        rw [known] at gone
        exact Or.inl (known.trans (Option.isNone_iff_eq_none.mp (Option.isSome_eq_false_iff.mp gone)).symm)
    | some status =>
        cases fresh.waiting node status known
        exact Or.inr ⟨(alike.known node).trans (contains_of_status known), known⟩
  obtain ⟨nears, agrees⟩ := restoration_nears settled x.capture.nodes
    { statuses := y.statuses } j (fun state member => mem_capture member) (fun state member =>
      (alike.known state.node).symm.trans (contains_of_status (mem_capture member))) start
  refine ⟨nears, ?_⟩
  intro node
  rcases nears.statuses node with same | ⟨known, -⟩
  · exact same
  · exact agrees node (Or.inr (captured_of_known (alike.listed fresh.listed) known))

/-! ### Nodes -/

theorem settledBy_congr {a b : StatusTable} (same : ∀ node, a.get? node = b.get? node) (kind : ConditionKind) :
    kind.settledBy a = kind.settledBy b := by
  cases kind with
  | previousNodeCompleted target => simp [ConditionKind.settledBy, same]
  | areaEntered area => rfl
  | interactionTriggered interaction => rfl

private theorem ready_nil {r : Runner} {included : Node → Bool} (j : Journal)
    (lacks : ∀ n ∈ r.storyboard.nodes, r.statusOf? n.id = some .notStarted → included n = true → n.conditions ≠ [] →
      ∃ c ∈ n.conditions, c.satisfied = false ∧ c.kind.settledBy r.statuses = false) :
    (r.evaluate included j).1 = [] := by
  unfold evaluate
  dsimp only
  rw [List.map_eq_nil_iff, List.filter_eq_nil_iff]
  intro n member ready
  simp only [Bool.and_eq_true, decide_eq_true_eq, List.any_eq_true] at ready
  obtain ⟨⟨⟨waiting, among⟩, c, slot, -⟩, isReady⟩ := ready
  obtain ⟨c', slot', unsatisfied, unsettled⟩ := lacks n member waiting among (List.ne_nil_of_mem slot)
  unfold Node.isReady Node.mapConditions at isReady
  rw [List.all_eq_true] at isReady
  have satisfied := isReady _ (List.mem_map_of_mem slot')
  simp [Condition.settle, unsatisfied, unsettled] at satisfied

/-- A node that runs only once and waits lacks a condition that its kind has in the settled runner. -/
private theorem lacks_of_settled {bus : Bus} (primed : y.Primed bus) (alike : y.Alike x) (settled : x.Settled)
    {n : Node} (member : n ∈ y.storyboard.nodes) (once : n.isRepeatable = false) (nonempty : n.conditions ≠ [])
    (waiting : x.statusOf? n.id = some .notStarted) :
    ∃ c ∈ n.conditions, c.satisfied = false ∧ c.kind.settledBy x.statuses = false := by
  have same := alike.node n.id
  rw [primed.node?_of_mem member, Option.map_some] at same
  obtain ⟨d, found, unlatched⟩ := Option.map_eq_some_iff.mp same
  have repeatable : d.isRepeatable = n.isRepeatable := (congrArg Node.isRepeatable unlatched :)
  have conditions : d.conditions.map (·.reset) = n.conditions.map (·.reset) :=
    (congrArg Node.conditions unlatched :)
  have nonempty' : d.conditions ≠ [] := by
    intro none
    rw [none, List.map_nil, eq_comm, List.map_eq_nil_iff] at conditions
    exact nonempty conditions
  obtain ⟨c, slot, unsettled⟩ := settled.asleep n.id d found (repeatable.trans once) waiting nonempty'
  have placed : c.reset ∈ n.conditions.map (·.reset) := conditions ▸ List.mem_map_of_mem slot
  obtain ⟨c', slot', reset⟩ := List.mem_map.mp placed
  have kind : c'.kind = c.kind := (congrArg Condition.kind reset :)
  obtain ⟨index, inSlot⟩ := List.getElem?_of_mem slot'
  refine ⟨c', slot', (primed.listens n member index c' inSlot).1, ?_⟩
  rw [kind]
  exact unsettled

/-! ### Restoring -/

private theorem restore_ready {bus : Bus} (primed : y.Primed bus) (alike : y.Alike x) (settled : x.Settled)
    (policy : RestorePolicy) (j : Journal) : (y.restore x.capture policy none j).1 = [] := by
  unfold restore
  dsimp only
  generalize (if x.capture.storyboard = y.storyboard.name then j
    else j.note (.foreignSnapshot y.id x.capture.storyboard y.storyboard.name)) = j'
  obtain ⟨nears, agrees⟩ := restoration_capture policy primed.toFresh alike settled j'
  revert nears agrees
  generalize y.restoration policy none x.capture.nodes { statuses := y.statuses } j' = result
  obtain ⟨taken, j''⟩ := result
  intro nears agrees
  dsimp only at nears agrees ⊢
  split
  · rw [nears.restart]
    rfl
  · dsimp only
    rw [nears.restart]
    -- what has changed is complete, and so it neither waits nor is rearmed
    have changed : ∀ node, taken.changed.contains node = true → taken.statuses.get? node ≠ some .notStarted := by
      intro node member waiting
      rw [agrees, nears.changed node (by simpa using member)] at waiting
      cases waiting
    apply ready_nil
    intro n member waiting included nonempty
    obtain ⟨n', member', isN⟩ := List.mem_map.mp member
    have kept : n' = n := by
      split at isN
      · rename_i rearmed
        obtain ⟨among, waits⟩ := Bool.and_eq_true_iff.mp rearmed
        exact absurd (of_decide_eq_true waits) (changed n'.id among)
      · exact isN
    subst kept
    have once : n'.isRepeatable = false := by
      rcases Bool.or_eq_true_iff.mp included with among | once
      · exact absurd waiting (changed n'.id among)
      · simpa using once
    obtain ⟨c, slot, unsatisfied, unsettled⟩ :=
      lacks_of_settled primed alike settled member' once nonempty ((agrees n'.id).symm.trans waiting)
    exact ⟨c, slot, unsatisfied, (settledBy_congr agrees c.kind).trans unsettled⟩

/-- The runner takes over what was captured, and no node starts. -/
theorem restore_settled {bus : Bus} (primed : y.Primed bus) (alike : y.Alike x) (settled : x.Settled)
    (policy : RestorePolicy) (j : Journal) :
    ∃ z j', y.restore x.capture policy none j = ([], z, j') ∧ z.capture = x.capture ∧ y.Alike z := by
  have restored := (y.restore_spec x.capture policy none j).1.alike
  have ready := restore_ready primed alike settled policy j
  obtain ⟨j'', statuses⟩ := y.restore_statuses x.capture policy none j
  have agrees := (restoration_capture policy primed.toFresh alike settled j'').2
  revert restored ready statuses
  generalize y.restore x.capture policy none j = result
  obtain ⟨nodes, z, j'⟩ := result
  rintro restored rfl statuses
  have same : ∀ node, z.statusOf? node = x.statusOf? node := by
    intro node
    unfold statusOf?
    rw [statuses]
    exact agrees node
  refine ⟨z, j', rfl, ?_, restored⟩
  exact capture_congr (restored.id.trans alike.id.symm) (restored.board.trans alike.board.symm)
    (restored.ids.trans alike.ids.symm) same

end Plotline.Runner
