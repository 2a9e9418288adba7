import Plotline.Proofs.Runner.Reload

/-!
An entry that records the statuses a runner has. Under the policy that keeps what is in progress, taking it over leaves
the runner as it is and starts nothing.
-/

namespace Plotline

theorem StatusTable.set_present {table : StatusTable} {node : NodeId} {status : NodeStatus}
    (present : table.get? node = some status) : table.set node status = table := by
  induction table with
  | nil => cases present
  | cons head tail ih =>
      obtain ⟨known, old⟩ := head
      rw [get?_cons] at present
      rw [set]
      by_cases here : known = node
      · rw [if_pos here.symm] at present
        rw [if_pos here, Option.some.inj present]
      · rw [if_neg (Ne.symm here)] at present
        rw [if_neg here, ih present]

namespace Runner

variable {r : Runner} {entry : SnapshotEntry}

/-- Each status in the entry is that of the node now. -/
def Records (entry : SnapshotEntry) (r : Runner) : Prop :=
  entry.storyboard = r.storyboard.name ∧ ∀ state ∈ entry.nodes, r.statusOf? state.node = some state.status

theorem capture_records (r : Runner) : Records r.capture r := ⟨rfl, fun _ => mem_capture⟩

private theorem restoredStatus_keep (status : NodeStatus) : restoredStatus .keep status = (status, false) := by
  cases status <;> rfl

private theorem take_present {state : NodeState} {x : Restoration}
    (present : x.statuses.get? state.node = some state.status) : x.take .keep state = x := by
  unfold Restoration.take
  rw [restoredStatus_keep]
  dsimp only
  rw [StatusTable.set_present present, present]
  simp

private theorem restoration_present (active : Option NodeId) (states : List NodeState) (x : Restoration) (j : Journal)
    (same : x.statuses = r.statuses) (present : ∀ state ∈ states, r.statusOf? state.node = some state.status) :
    r.restoration .keep active states x j = (x, j) := by
  induction states with
  | nil => rfl
  | cons state states ih =>
      have here : r.statusOf? state.node = some state.status := present state List.mem_cons_self
      have rest := ih fun other member => present other (List.mem_cons_of_mem state member)
      have unchanged : x.take .keep state = x := by
        apply take_present
        rw [same]
        exact here
      rw [restoration, contains_of_status here, unchanged, rest]
      simp

/-- What is recorded of a runner changes nothing about it, whichever node of it is active. -/
theorem restore_records (records : Records entry r) (active : Option NodeId) (j : Journal) :
    r.restore entry .keep active j = ([], r, j.note (.restored r.id entry.nodes.length 0)) := by
  obtain ⟨board, present⟩ := records
  unfold restore
  dsimp only
  rw [if_pos board, restoration_present active entry.nodes { statuses := r.statuses } j rfl present]
  simp [appendNew, mapNodes]

end Runner

end Plotline
