import Plotline.Story.Name

/-!
How far a node has come, and tables of such statuses.
-/

namespace Plotline

inductive NodeStatus
  | notStarted
  | inProgress
  | completed
  deriving DecidableEq, Repr

namespace NodeStatus

def number : NodeStatus → Nat
  | notStarted => 0
  | inProgress => 1
  | completed => 2

def ofNumber? : Nat → Option NodeStatus
  | 0 => some notStarted
  | 1 => some inProgress
  | 2 => some completed
  | _ => none

def shown : NodeStatus → String
  | notStarted => "NotStarted"
  | inProgress => "InProgress"
  | completed => "Completed"

end NodeStatus

/-- Statuses by node, each node at most once. -/
abbrev StatusTable := List (NodeId × NodeStatus)

namespace StatusTable

def get? (table : StatusTable) (node : NodeId) : Option NodeStatus := table.lookup node

/-- The node keeps its place in the table; a new one goes to the end. -/
def set (node : NodeId) (status : NodeStatus) : StatusTable → StatusTable
  | [] => [(node, status)]
  | (n, s) :: rest => if n = node then (n, status) :: rest else (n, s) :: set node status rest

end StatusTable

end Plotline
