import Plotline.Runner.Basic
import Plotline.Story.Settings

/-!
Bringing a runner back to what a saved game shows. The node that is executing keeps its status. Conditions of
a node start anew only where its status changed.
-/

namespace Plotline.Runner

/-- What restoring has come to so far: the statuses, the nodes to start again, and those whose status changed. -/
structure Restoration where
  statuses : StatusTable
  restart : List NodeId := []
  changed : List NodeId := []
  deriving DecidableEq, Repr

def restoredStatus (policy : RestorePolicy) : NodeStatus → NodeStatus × Bool
  | .inProgress =>
    match policy with
    | .keep => (.inProgress, false)
    | .restart => (.notStarted, true)
  | status => (status, false)

def Restoration.take (policy : RestorePolicy) (state : NodeState) (x : Restoration) : Restoration :=
  let (status, again) := restoredStatus policy state.status
  { statuses := x.statuses.set state.node status
    restart := if again then x.restart ++ [state.node] else x.restart
    changed :=
      if x.statuses.get? state.node = some status || x.changed.contains state.node then x.changed
      else x.changed ++ [state.node] }

/-- Takes over the recorded statuses of known nodes in order, the `active` one apart. -/
def restoration (r : Runner) (policy : RestorePolicy) (active : Option NodeId) :
    List NodeState → Restoration → Journal → Restoration × Journal
  | [], x, j => (x, j)
  | state :: states, x, j =>
    if !r.contains state.node then
      restoration r policy active states x (j.note (.unknownSnapshotNode r.id state.node))
    else if some state.node = active then restoration r policy active states x j
    else restoration r policy active states (x.take policy state) j

/-- The nodes that are not yet in the list are added to it, each once. -/
def appendNew (nodes : List NodeId) (ready : List NodeId) : List NodeId :=
  nodes.foldl (fun ready node => if ready.contains node then ready else ready ++ [node]) ready

/-- Restores the runner and returns the nodes that are to start: those that are ready now, and those that the
policy starts again. -/
def restore (entry : SnapshotEntry) (policy : RestorePolicy) (active : Option NodeId) (r : Runner)
    (j : Journal) : List NodeId × Runner × Journal :=
  let j :=
    if entry.storyboard = r.storyboard.name then j
    else j.note (.foreignSnapshot r.id entry.storyboard r.storyboard.name)
  let (x, j) := r.restoration policy active entry.nodes { statuses := r.statuses } j
  let rearmed := fun n : Node => x.changed.contains n.id && decide (x.statuses.get? n.id = some .notStarted)
  let r := { r with statuses := x.statuses }.mapNodes fun n =>
    if rearmed n then n.mapConditions (·.reset) else n
  let j := j.note (.restored r.id entry.nodes.length x.changed.length)
  if x.changed.isEmpty then (appendNew x.restart [], r, j)
  else
    let (ready, r, j) := r.evaluate (fun n => x.changed.contains n.id || !n.isRepeatable) j
    (appendNew x.restart ready, r, j)

end Plotline.Runner
