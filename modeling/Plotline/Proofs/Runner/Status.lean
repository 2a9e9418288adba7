import Plotline.Proofs.Runner.Upkeep

/-!
How the status of a node moves when a node of its runner ends, when it ends as soon as it has begun, and when a saved
game is restored.
-/

namespace Plotline.Runner

/-- The status of a node that has come to its end: one that can run again waits for that. -/
def endStatus (r : Runner) (node : NodeId) : NodeStatus := if r.repeats node then .notStarted else .completed

theorem endStatus_ne_inProgress (r : Runner) (node : NodeId) : r.endStatus node ≠ .inProgress := by
  unfold endStatus
  split <;> nofun

theorem statusOf?_afterEnd_eq (r : Runner) (node other : NodeId) :
    (r.afterEnd node).statusOf? other =
      if other = node ∧ r.statusOf? node = some .inProgress then some (r.endStatus node) else r.statusOf? other := by
  by_cases same : other = node
  · subst same
    by_cases running : r.statusOf? other = some .inProgress
    · have both : other = other ∧ r.statusOf? other = some .inProgress := ⟨rfl, running⟩
      rw [if_pos both]
      exact statusOf?_afterEnd running
    · rw [afterEnd_eq_self running, if_neg fun both => running both.2]
  · rw [statusOf?_afterEnd_of_ne r same, if_neg fun both => same both.1]

/-- A node that waits, begins and ends at once. -/
theorem statusOf?_passed {r : Runner} {node : NodeId} (waiting : r.statusOf? node = some .notStarted) (other : NodeId) :
    ((r.setStatus node .inProgress).afterEnd node).statusOf? other =
      if other = node then some (r.endStatus node) else r.statusOf? other := by
  have begun := alike_setStatus (contains_of_status waiting) .inProgress
  rw [statusOf?_afterEnd_eq, statusOf?_setStatus, if_pos rfl]
  by_cases same : other = node
  · rw [if_pos ⟨same, rfl⟩, if_pos same]
    unfold endStatus
    rw [begun.repeats]
  · rw [if_neg fun both => same both.1, if_neg same, statusOf?_setStatus, if_neg same]

/-! ### Restoring -/

private theorem take_restart (state : NodeState) (x : Restoration) :
    ∃ status, status ≠ .inProgress ∧
      (x.take .restart state).statuses = x.statuses.set state.node status := by
  refine ⟨(restoredStatus .restart state.status).1, ?_, rfl⟩
  cases state.status <;> nofun

private theorem restoration_restart (r : Runner) (active : Option NodeId) (states : List NodeState) (x : Restoration)
    (j : Journal) (node : NodeId)
    (running : (r.restoration .restart active states x j).1.statuses.get? node = some .inProgress) :
    x.statuses.get? node = some .inProgress := by
  induction states generalizing x j with
  | nil => exact running
  | cons state states ih =>
      unfold restoration at running
      split at running
      · exact ih x _ running
      · split at running
        · exact ih x _ running
        · obtain ⟨status, elsewhere, taken⟩ := take_restart state x
          have earlier := ih (x.take .restart state) j running
          rw [taken, StatusTable.get?_set] at earlier
          split at earlier
          · exact absurd (Option.some.inj earlier) elsewhere
          · exact earlier

theorem restore_statuses (entry : SnapshotEntry) (policy : RestorePolicy) (active : Option NodeId) (r : Runner)
    (j : Journal) :
    ∃ j', (r.restore entry policy active j).2.1.statuses =
      (r.restoration policy active entry.nodes { statuses := r.statuses } j').1.statuses := by
  unfold restore
  dsimp only
  generalize (if entry.storyboard = r.storyboard.name then j
    else j.note (.foreignSnapshot r.id entry.storyboard r.storyboard.name)) = j'
  refine ⟨j', ?_⟩
  split <;> rfl

/-- A policy that starts nodes again restores none as in progress. -/
theorem inProgress_of_restore {entry : SnapshotEntry} {active : Option NodeId} {r r' : Runner} {j j' : Journal}
    {nodes : List NodeId} (made : r.restore entry .restart active j = (nodes, r', j')) {node : NodeId}
    (running : r'.statusOf? node = some .inProgress) : r.statusOf? node = some .inProgress := by
  obtain ⟨j'', statuses⟩ := restore_statuses entry .restart active r j
  rw [made] at statuses
  unfold statusOf? at running
  rw [statuses] at running
  exact restoration_restart r active entry.nodes _ j'' node running

end Plotline.Runner
