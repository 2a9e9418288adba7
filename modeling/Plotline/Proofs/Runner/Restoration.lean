import Plotline.Proofs.Runner.Recapture

/-!
What restoring a runner comes to, apart from what it says about it: the statuses that are taken over, the nodes whose
status has changed, and how the rest follows from these.
-/

namespace Plotline

namespace Journal

/-- Nothing was added but remarks: notes that neither make an event known nor take up a request. -/
def Remarks (before after : Journal) : Prop :=
  ∃ notes : List Note, (∀ n ∈ notes, n.isPlain = true) ∧ after = before.notes notes

theorem Remarks.refl (j : Journal) : j.Remarks j := ⟨[], List.forall_mem_nil _, rfl⟩

theorem Remarks.note {before after : Journal} (remarks : before.Remarks after) {n : Note} (plain : n.isPlain = true) :
    before.Remarks (after.note n) := by
  obtain ⟨notes, all, rfl⟩ := remarks
  refine ⟨notes ++ [n], ?_, ?_⟩
  · intro m member
    rcases List.mem_append.mp member with before | new
    · exact all m before
    · rw [List.mem_singleton.mp new]
      exact plain
  · unfold Journal.notes
    rw [List.foldl_append]
    rfl

theorem Remarks.trans {before middle after : Journal} (first : before.Remarks middle) (last : middle.Remarks after) :
    before.Remarks after := by
  obtain ⟨notes, all, rfl⟩ := last
  induction notes generalizing middle with
  | nil => exact first
  | cons n notes ih =>
      exact ih (first.note (all n List.mem_cons_self)) fun m later => all m (List.mem_cons_of_mem n later)

theorem Remarks.published {before after : Journal} (remarks : before.Remarks after) :
    after.published = before.published := by
  obtain ⟨notes, all, rfl⟩ := remarks
  simpa using (notes_quiet all before).published

end Journal

namespace RestorePolicy

/-- The policy starts a node again that is recorded with this status. -/
def startsAgain (policy : RestorePolicy) (status : NodeStatus) : Bool :=
  decide (policy = .restart) && decide (status = .inProgress)

/-- The status that the policy gives to a node recorded with this one: what is to start again waits for it. -/
def due (policy : RestorePolicy) (status : NodeStatus) : NodeStatus :=
  if policy.startsAgain status then .notStarted else status

end RestorePolicy

namespace Runner

variable {r : Runner} {policy : RestorePolicy} {active : Option NodeId}

/-! ### Statuses -/

theorem restoredStatus_eq (policy : RestorePolicy) (status : NodeStatus) :
    restoredStatus policy status = (policy.due status, policy.startsAgain status) := by
  cases status <;> cases policy <;> rfl

/-- What is taken over depends on the statuses and on nothing else about the runner. -/
theorem restoration_congr {r' : Runner} (same : r'.statuses = r.statuses) (states : List NodeState) (x : Restoration)
    (j j' : Journal) :
    (r'.restoration policy active states x j').1 = (r.restoration policy active states x j).1 := by
  induction states generalizing x j j' with
  | nil => rfl
  | cons state states ih =>
      have known : r'.contains state.node = r.contains state.node := by
        unfold contains statusOf?
        rw [same]
      unfold restoration
      rw [known]
      split
      · exact ih _ _ _
      · split <;> exact ih _ _ _

/-- What the entry makes of the statuses of the runner. -/
def taken (r : Runner) (entry : SnapshotEntry) (policy : RestorePolicy) (active : Option NodeId) : Restoration :=
  (r.restoration policy active entry.nodes { statuses := r.statuses } []).1

/-- The status that a node is given by the entry: the last one recorded for it. -/
def recorded (entry : SnapshotEntry) (policy : RestorePolicy) (node : NodeId) : Option NodeStatus :=
  (entry.nodes.reverse.find? (·.node = node)).map fun state => (restoredStatus policy state.status).1

private theorem get?_restoration (states : List NodeState) (x : Restoration) (j : Journal) (node : NodeId) :
    (r.restoration policy active states x j).1.statuses.get? node =
      if r.contains node = true ∧ some node ≠ active then
        ((states.reverse.find? (·.node = node)).map fun state => (restoredStatus policy state.status).1).or
          (x.statuses.get? node)
      else x.statuses.get? node := by
  induction states generalizing x j with
  | nil => simp [restoration]
  | cons state states ih =>
      have passed : (r.contains state.node = false ∨ some state.node = active) →
          (r.contains node = true ∧ some node ≠ active) → state.node ≠ node := by
        rintro (unknown | isActive) ⟨known, other⟩ rfl
        · exact absurd known (by simp [unknown])
        · exact other isActive
      rw [List.reverse_cons, List.find?_append]
      unfold restoration
      split
      · rename_i unknown
        rw [ih]
        refine ite_congr rfl (fun open' => ?_) fun _ => rfl
        have other := passed (Or.inl (by simpa using unknown)) open'
        simp [other]
      · split
        · rename_i isActive
          rw [ih]
          refine ite_congr rfl (fun open' => ?_) fun _ => rfl
          have other := passed (Or.inr isActive) open'
          simp [other]
        · rename_i known inactive
          have taken : (x.take policy state).statuses.get? node =
              if node = state.node then some (restoredStatus policy state.status).1 else x.statuses.get? node :=
            StatusTable.get?_set _ _ _ _
          rw [ih, taken]
          by_cases here : node = state.node
          · subst here
            have open' : r.contains state.node = true ∧ some state.node ≠ active := ⟨by simpa using known, inactive⟩
            rw [if_pos rfl, if_pos open', if_pos open']
            cases states.reverse.find? (·.node = state.node) <;> simp
          · simp [here, Ne.symm here]

/-- A known node that is not active has the recorded status, if there is one; any other keeps its own. -/
theorem get?_taken (entry : SnapshotEntry) (node : NodeId) :
    (r.taken entry policy active).statuses.get? node =
      if r.contains node = true ∧ some node ≠ active then (recorded entry policy node).or (r.statusOf? node)
      else r.statusOf? node :=
  get?_restoration entry.nodes { statuses := r.statuses } [] node

private theorem unchanged_restoration (states : List NodeState) (x : Restoration) (j : Journal) {node : NodeId}
    (unchanged : node ∉ (r.restoration policy active states x j).1.changed) :
    (r.restoration policy active states x j).1.statuses.get? node = x.statuses.get? node ∧ node ∉ x.changed := by
  induction states generalizing x j with
  | nil => exact ⟨rfl, unchanged⟩
  | cons state states ih =>
      unfold restoration at unchanged ⊢
      split
      · rename_i unknown
        rw [if_pos unknown] at unchanged
        exact ih _ _ unchanged
      · rename_i known
        rw [if_neg known] at unchanged
        split
        · rename_i isActive
          rw [if_pos isActive] at unchanged
          exact ih _ _ unchanged
        · rename_i inactive
          rw [if_neg inactive] at unchanged
          obtain ⟨same, before⟩ := ih _ _ unchanged
          rw [same]
          unfold Restoration.take at before ⊢
          dsimp only at before ⊢
          rw [StatusTable.get?_set]
          by_cases here : node = state.node
          · rw [if_pos here]
            split at before
            · rename_i reason
              rcases Bool.or_eq_true_iff.mp reason with already | listed
              · exact ⟨by rw [here, of_decide_eq_true already], before⟩
              · exact absurd (by simpa [here] using listed) before
            · exact absurd (List.mem_append_right _ (by simp [here])) before
          · rw [if_neg here]
            refine ⟨rfl, fun old => before ?_⟩
            split
            · exact old
            · exact List.mem_append_left _ old

/-- A node whose status is another one than before counts as changed. -/
theorem changed_of_ne {entry : SnapshotEntry} {node : NodeId}
    (other : (r.taken entry policy active).statuses.get? node ≠ r.statusOf? node) :
    (r.taken entry policy active).changed.contains node = true := by
  rw [List.contains_iff_mem]
  exact Classical.byContradiction fun unchanged => other (unchanged_restoration _ _ _ unchanged).1

private theorem changed_restoration (states : List NodeState) (x : Restoration) (j : Journal) {node : NodeId}
    (changed : node ∈ (r.restoration policy active states x j).1.changed) :
    node ∈ x.changed ∨ ∃ state ∈ states, state.node = node := by
  induction states generalizing x j with
  | nil => exact Or.inl changed
  | cons state states ih =>
      have later : (∃ other ∈ states, other.node = node) → ∃ other ∈ state :: states, other.node = node := by
        rintro ⟨other, member, isNode⟩
        exact ⟨other, List.mem_cons_of_mem state member, isNode⟩
      unfold restoration at changed
      split at changed
      · exact (ih _ _ changed).imp_right later
      · split at changed
        · exact (ih _ _ changed).imp_right later
        · rcases ih _ _ changed with before | after
          · unfold Restoration.take at before
            dsimp only at before
            split at before
            · exact Or.inl before
            · rcases List.mem_append.mp before with old | new
              · exact Or.inl old
              · exact Or.inr ⟨state, List.mem_cons_self, (List.mem_singleton.mp new).symm⟩
          · exact Or.inr (later after)

/-- Only nodes that the entry names can change. -/
theorem named_of_changed {entry : SnapshotEntry} {node : NodeId}
    (changed : (r.taken entry policy active).changed.contains node = true) :
    ∃ state ∈ entry.nodes, state.node = node :=
  (changed_restoration _ _ _ (List.contains_iff_mem.mp changed)).resolve_left List.not_mem_nil

/-- The policy starts this node again, if the runner knows it and it is not the active one. -/
def restarts (r : Runner) (policy : RestorePolicy) (active : Option NodeId) (state : NodeState) : Bool :=
  policy.startsAgain state.status && (r.contains state.node && decide (some state.node ≠ active))

/-- The nodes of the entry that are started again, in its order. -/
def startedAgain (r : Runner) (entry : SnapshotEntry) (policy : RestorePolicy) (active : Option NodeId) : List NodeId :=
  (entry.nodes.filter (r.restarts policy active)).map (·.node)

private theorem restart_restoration (states : List NodeState) (x : Restoration) (j : Journal) :
    (r.restoration policy active states x j).1.restart =
      x.restart ++ (states.filter (r.restarts policy active)).map (·.node) := by
  induction states generalizing x j with
  | nil => exact (List.append_nil _).symm
  | cons state states ih =>
      unfold restoration
      split
      · rename_i unknown
        have passed : r.restarts policy active state = false := by
          simp [restarts, show r.contains state.node = false by simpa using unknown]
        rw [ih, List.filter_cons_of_neg (by simp [passed])]
      · rename_i known
        split
        · rename_i isActive
          rw [ih, List.filter_cons_of_neg (by simp [restarts, isActive])]
        · rename_i inactive
          have reached : r.restarts policy active state = policy.startsAgain state.status := by
            simp [restarts, inactive, show r.contains state.node = true by simpa using known]
          rw [ih, List.filter_cons, reached]
          unfold Restoration.take
          rw [restoredStatus_eq]
          cases policy.startsAgain state.status <;> simp

theorem restart_taken_eq (entry : SnapshotEntry) (policy : RestorePolicy) (active : Option NodeId) :
    (r.taken entry policy active).restart = r.startedAgain entry policy active :=
  restart_restoration _ _ _

/-- A policy that keeps nodes in progress starts none of them again. -/
theorem restart_taken (entry : SnapshotEntry) : (r.taken entry .keep active).restart = [] := by
  rw [restart_taken_eq, startedAgain, List.map_eq_nil_iff, List.filter_eq_nil_iff]
  exact fun _ _ => Bool.false_ne_true

/-! ### Nodes -/

namespace Restoration

/-- A node waits anew if its status has changed to that. -/
def rearm (x : Restoration) (n : Node) : Node :=
  if x.changed.contains n.id && decide (x.statuses.get? n.id = some .notStarted) then n.mapConditions (·.reset) else n

/-- The nodes that are shown the new statuses. -/
def includes (x : Restoration) (n : Node) : Bool := x.changed.contains n.id || !n.isRepeatable

theorem rearm_id (x : Restoration) (n : Node) : (x.rearm n).id = n.id := by
  unfold rearm
  split <;> rfl

end Restoration

/-- The runner with the statuses that are taken over, before its nodes are shown them. -/
def rewound (r : Runner) (x : Restoration) : Runner := { r with statuses := x.statuses }.mapNodes x.rearm

/-- The nodes are shown the statuses only if some status has changed. -/
theorem restore_eq (entry : SnapshotEntry) (j : Journal) :
    let x := r.taken entry policy active
    (r.restore entry policy active j).1 =
        appendNew x.restart (if x.changed.isEmpty then [] else ((r.rewound x).evaluate x.includes []).1) ∧
      (r.restore entry policy active j).2.1 =
        if x.changed.isEmpty then r.rewound x else ((r.rewound x).evaluate x.includes []).2.1 := by
  unfold restore
  dsimp only
  generalize (if entry.storyboard = r.storyboard.name then j
    else j.note (.foreignSnapshot r.id entry.storyboard r.storyboard.name)) = j'
  have same : (r.restoration policy active entry.nodes { statuses := r.statuses } j').1 = r.taken entry policy active :=
    restoration_congr rfl _ _ _ _
  rw [same]
  split <;> exact ⟨rfl, rfl⟩

theorem statusOf?_restore (entry : SnapshotEntry) (j : Journal) (node : NodeId) :
    (r.restore entry policy active j).2.1.statusOf? node = (r.taken entry policy active).statuses.get? node := by
  rw [(restore_eq entry j).2]
  split <;> rfl

/-- Under a policy that starts no node again, those that are to start wait to be started. -/
theorem waiting_of_restart {entry : SnapshotEntry} {j : Journal} {node : NodeId}
    (member : node ∈ (r.restore entry .keep active j).1) :
    (r.taken entry .keep active).statuses.get? node = some .notStarted := by
  rw [(restore_eq entry j).1, restart_taken] at member
  split at member
  · cases member
  · obtain ⟨n, among, rfl⟩ := List.mem_map.mp member
    have affected := (List.mem_filter.mp among).2
    simp only [Bool.and_eq_true, decide_eq_true_eq] at affected
    exact affected.1.1.1

/-! ### Entries that say what is so already -/

/-- Where no id occurs twice in an entry, what is recorded for a node is what the policy makes of what the entry
says. -/
theorem recorded_due {entry : SnapshotEntry} (distinct : (entry.nodes.map (·.node)).Nodup) {state : NodeState}
    (member : state ∈ entry.nodes) : recorded entry policy state.node = some (policy.due state.status) := by
  have distinct' : (entry.nodes.reverse.map (·.node)).Nodup := by
    rw [List.map_reverse]
    exact List.nodup_reverse.mpr distinct
  unfold recorded
  rw [find?_of_nodup distinct' (List.mem_reverse.mpr member), Option.map_some, restoredStatus_eq]

theorem recorded_of_mem {entry : SnapshotEntry} (distinct : (entry.nodes.map (·.node)).Nodup) {state : NodeState}
    (member : state ∈ entry.nodes) : recorded entry .keep state.node = some state.status :=
  recorded_due distinct member

/-- The entry tells of every node that it can change what its status is. -/
def Agrees (entry : SnapshotEntry) (active : Option NodeId) (r : Runner) : Prop :=
  ∀ state ∈ entry.nodes, r.contains state.node = true → some state.node ≠ active →
    r.statusOf? state.node = some state.status

private theorem take_same {state : NodeState} {x : Restoration}
    (same : x.statuses.get? state.node = some state.status) : x.take .keep state = x := by
  have kept : restoredStatus .keep state.status = (state.status, false) := by
    cases state.status <;> rfl
  unfold Restoration.take
  rw [kept]
  dsimp only
  rw [StatusTable.set_present same, same]
  simp

private theorem restoration_agrees (states : List NodeState) (x : Restoration) (j : Journal)
    (statuses : x.statuses = r.statuses)
    (agrees : ∀ state ∈ states, r.contains state.node = true → some state.node ≠ active →
      r.statusOf? state.node = some state.status) :
    ∃ j', r.restoration .keep active states x j = (x, j') ∧ j.Remarks j' := by
  induction states generalizing j with
  | nil => exact ⟨j, rfl, .refl j⟩
  | cons state states ih =>
      have later := fun other member => agrees other (List.mem_cons_of_mem state member)
      unfold restoration
      split
      · obtain ⟨j', made, remarks⟩ := ih (j.note (.unknownSnapshotNode r.id state.node)) later
        exact ⟨j', made, ((Journal.Remarks.refl j).note rfl).trans remarks⟩
      · rename_i known
        split
        · exact ih j later
        · rename_i inactive
          have same : x.statuses.get? state.node = some state.status := by
            rw [statuses]
            exact agrees state List.mem_cons_self (by simpa using known) inactive
          rw [take_same same]
          exact ih j later

/-- Such an entry changes nothing about the runner and starts nothing. -/
theorem restore_agrees {entry : SnapshotEntry} (agrees : Agrees entry active r) (j : Journal) :
    ∃ j', r.restore entry .keep active j = ([], r, j') ∧ j.Remarks j' := by
  have greeted : j.Remarks (if entry.storyboard = r.storyboard.name then j
      else j.note (.foreignSnapshot r.id entry.storyboard r.storyboard.name)) := by
    split
    · exact .refl j
    · exact (Journal.Remarks.refl j).note rfl
  unfold restore
  dsimp only
  revert greeted
  generalize (if entry.storyboard = r.storyboard.name then j
    else j.note (.foreignSnapshot r.id entry.storyboard r.storyboard.name)) = j'
  intro greeted
  obtain ⟨j'', made, remarks⟩ := restoration_agrees entry.nodes { statuses := r.statuses } j' rfl agrees
  rw [made]
  refine ⟨j''.note (.restored r.id entry.nodes.length 0), ?_, (greeted.trans remarks).note rfl⟩
  simp [appendNew, mapNodes]

end Runner

end Plotline
