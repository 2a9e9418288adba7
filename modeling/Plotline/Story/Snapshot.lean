import Plotline.Story.Status

/-!
What a saved game records: for each runner the statuses of its nodes.
-/

namespace Plotline

structure NodeState where
  node : NodeId
  status : NodeStatus
  deriving DecidableEq, Repr

structure SnapshotEntry where
  runner : RunnerId
  storyboard : StoryboardName
  nodes : List NodeState
  deriving DecidableEq, Repr

namespace SnapshotEntry

def statusOf? (entry : SnapshotEntry) (node : NodeId) : Option NodeStatus :=
  (entry.nodes.find? (·.node = node)).map (·.status)

end SnapshotEntry

end Plotline
