import Plotline.Check.Program
import Plotline.Story.Storyboard

/-!
What can be said of a storyboard: its start nodes, ids that occur twice, and names of nodes that it does not
have.
-/

namespace Plotline

/-- A place where a program branches: the instruction and its target. -/
structure BranchTarget where
  index : Nat
  node : NodeId
  storyboard : Option StoryboardName
  deriving DecidableEq, Repr

def Program.branchTargets (p : Program) : List BranchTarget :=
  (p.instructions.mapIdx fun index i =>
    match i with
    | .endOfProgram ending =>
      if ending.isBranching then ending.targetNode.map fun node => ⟨index, node, ending.targetStoryboard⟩
      else none
    | _ => none).filterMap id

namespace Storyboard

def nodeIds (b : Storyboard) : List NodeId := b.nodes.map (·.id)

def startIssues (b : Storyboard) : List Issue :=
  match (b.nodes.filter (·.isStart)).length with
  | 0 =>
    [⟨.warning, "start-node", .ofStoryboard b.name,
      "no start node; the runner only starts through conditions or triggers"⟩]
  | 1 => []
  | n => [⟨.info, "start-node", .ofStoryboard b.name, s!"{n} start nodes; only the first is kicked off"⟩]

def duplicateIssues (name : StoryboardName) (seen : List NodeId) : List NodeId → List Issue
  | [] => []
  | id :: ids =>
    if seen.contains id then
      ⟨.error, "nodes", .ofNode name id, "duplicate node id; later definitions are ignored"⟩
        :: duplicateIssues name seen ids
    else duplicateIssues name (id :: seen) ids

def conditionIssues (b : Storyboard) (n : Node) : List Issue :=
  n.conditions.filterMap fun c =>
    match c.kind with
    | .previousNodeCompleted target =>
      if b.nodeIds.contains target then none
      else
        some ⟨.info, "conditions", .ofNode b.name n.id, s!"waits on node '{target.text}' outside this storyboard"⟩
    | _ => none

def branchIssues (b : Storyboard) (n : Node) : List Issue :=
  n.program.branchTargets.filterMap fun t =>
    if t.storyboard.all (· = b.name) && !b.nodeIds.contains t.node then
      some
        ⟨.error, "branch-target", (Location.ofNode b.name n.id).atInstruction t.index,
          s!"branch to unknown node '{t.node.text}'"⟩
    else none

def nodeIssues (b : Storyboard) (n : Node) : List Issue :=
  let foreign :=
    if n.archetype.accepts n.program.archetype then []
    else
      [⟨.warning, "archetype", .ofNode b.name n.id,
        s!"{n.archetype.shown} node carries a {n.program.archetype.shown} program"⟩]
  foreign ++ b.conditionIssues n ++ b.branchIssues n

def connectionIssues (b : Storyboard) (c : Connection) : List Issue :=
  ([c.source, c.target].filter fun id => !b.nodeIds.contains id).map fun id =>
    ⟨.warning, "connections", .ofStoryboard b.name, s!"connection refers to unknown node '{id.text}'"⟩

def graphIssues (b : Storyboard) : List Issue :=
  b.startIssues ++ duplicateIssues b.name [] b.nodeIds ++ b.nodes.flatMap b.nodeIssues
    ++ b.connections.flatMap b.connectionIssues

def issues (b : Storyboard) : List Issue :=
  b.graphIssues ++ b.nodes.flatMap fun n => n.program.issues (.ofNode b.name n.id)

def check (b : Storyboard) : Report := .ofIssues b.issues

end Storyboard

end Plotline
