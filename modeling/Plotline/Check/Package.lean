import Plotline.Check.Storyboard

/-!
What can be said of a whole package: everything that holds of its storyboards, and whether the references
from one runner to another lead somewhere. Of several storyboards with one name, and of several runners with
one id, the last counts.
-/

namespace Plotline.StoryPackage

def boardNodes? (p : StoryPackage) (name : StoryboardName) : Option (List NodeId) :=
  (p.runners.reverse.find? (·.storyboard.name = name)).map (·.storyboard.nodeIds)

def runnerNodes? (p : StoryPackage) (id : RunnerId) : Option (List NodeId) :=
  (p.runners.reverse.find? (·.id = id)).map (·.storyboard.nodeIds)

def definesNode (p : StoryPackage) (node : NodeId) : Bool :=
  p.runners.any fun d => (p.boardNodes? d.storyboard.name).any (·.contains node)

/-- An issue for every id that was `seen` before. -/
def duplicateRunnerIssues (seen : List RunnerId) : List RunnerId → List Issue
  | [] => []
  | id :: ids =>
    if seen.contains id then
      ⟨.error, "runners", { runner := some id }, "duplicate runner id; registration is refused"⟩
        :: duplicateRunnerIssues seen ids
    else duplicateRunnerIssues (id :: seen) ids

private def locationOf (d : RunnerDefinition) (n : Node) : Location :=
  { Location.ofNode d.storyboard.name n.id with runner := some d.id }

def conditionIssues (p : StoryPackage) (d : RunnerDefinition) (n : Node) : List Issue :=
  n.conditions.filterMap fun c =>
    match c.kind with
    | .previousNodeCompleted target =>
      if p.definesNode target then none
      else
        some
          ⟨.warning, "conditions", locationOf d n, s!"waits on node '{target.text}' that no runner defines"⟩
    | _ => none

def branchFault? (p : StoryPackage) (own : StoryboardName) (t : BranchTarget) : Option String :=
  match t.storyboard.filter (· ≠ own) with
  | none => none
  | some board =>
    match p.boardNodes? board with
    | none => some s!"branch into unknown storyboard '{board.text}'"
    | some nodes =>
      if nodes.contains t.node then none
      else some s!"branch to unknown node '{board.text}/{t.node.text}'"

def branchIssues (p : StoryPackage) (d : RunnerDefinition) (n : Node) : List Issue :=
  n.program.branchTargets.filterMap fun t =>
    (p.branchFault? d.storyboard.name t).map fun message =>
      ⟨.error, "branch-target", (locationOf d n).atInstruction t.index, message⟩

def triggerFault? (p : StoryPackage) (runner : RunnerId) (node : NodeId) : Option String :=
  match p.runnerNodes? runner with
  | none => some s!"trigger of unknown runner '{runner.text}'"
  | some nodes =>
    if nodes.contains node then none else some s!"trigger of unknown node '{runner.text}/{node.text}'"

def triggerIssues (p : StoryPackage) (d : RunnerDefinition) (n : Node) : List Issue :=
  (n.program.instructions.mapIdx fun index i =>
    match i with
    | .trigger runner node =>
      (p.triggerFault? runner node).map fun message =>
        (⟨.error, "trigger-target", (locationOf d n).atInstruction index, message⟩ : Issue)
    | _ => none).filterMap id

def referenceIssues (p : StoryPackage) (d : RunnerDefinition) : List Issue :=
  d.storyboard.nodes.flatMap fun n => p.conditionIssues d n ++ p.branchIssues d n ++ p.triggerIssues d n

def issues (p : StoryPackage) : List Issue :=
  p.runners.flatMap (fun d =>
      d.storyboard.issues.map fun i => { i with location := { i.location with runner := some d.id } })
    ++ duplicateRunnerIssues [] (p.runners.map (·.id)) ++ p.runners.flatMap p.referenceIssues

def check (p : StoryPackage) : Report := .ofIssues p.issues

def checkText (p : StoryPackage) : String :=
  let report := p.check
  let lines := report.issues.map (·.text)
  let summary :=
    if report.isClean then [s!"No issues found in {p.runners.length} runner(s)."]
    else ["", s!"{report.errors} error(s), {report.warnings} warning(s), {report.infos} info"]
  String.join ((lines ++ summary).map (· ++ "\n"))

end Plotline.StoryPackage
