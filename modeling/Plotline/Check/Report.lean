import Plotline.Story.Name

/-!
Reports of a check: issues with their level, their category and the place they concern.
-/

namespace Plotline

inductive IssueLevel
  | error
  | warning
  | info
  deriving DecidableEq, Repr

def IssueLevel.shown : IssueLevel → String
  | error => "Error"
  | warning => "Warning"
  | info => "Info"

structure Location where
  runner : Option RunnerId := none
  storyboard : Option StoryboardName := none
  node : Option NodeId := none
  instruction : Option Nat := none
  deriving DecidableEq, Repr

namespace Location

def ofStoryboard (name : StoryboardName) : Location := { storyboard := some name }

def ofNode (name : StoryboardName) (node : NodeId) : Location := { storyboard := some name, node := some node }

def atInstruction (l : Location) (instruction : Nat) : Location := { l with instruction := some instruction }

def text (l : Location) : String :=
  String.intercalate ", "
    ((l.runner.map fun id => s!"runner '{id.text}'").toList
      ++ (l.storyboard.map fun name => s!"storyboard '{name.text}'").toList
      ++ (l.node.map fun id => s!"node '{id.text}'").toList
      ++ (l.instruction.map fun index => s!"instruction {index}").toList)

end Location

structure Issue where
  level : IssueLevel
  category : String
  location : Location
  message : String
  deriving DecidableEq, Repr

def Issue.text (i : Issue) : String :=
  i.level.shown ++ " [" ++ i.category ++ "] " ++ i.location.text ++ ": " ++ i.message

/-- Issues in the order in which they were found, counted by level. -/
structure Report where
  issues : List Issue := []
  errors : Nat := 0
  warnings : Nat := 0
  infos : Nat := 0
  deriving DecidableEq, Repr

namespace Report

def add (r : Report) (i : Issue) : Report :=
  match i.level with
  | .error => { r with issues := r.issues ++ [i], errors := r.errors + 1 }
  | .warning => { r with issues := r.issues ++ [i], warnings := r.warnings + 1 }
  | .info => { r with issues := r.issues ++ [i], infos := r.infos + 1 }

def addAll (r : Report) (issues : List Issue) : Report := issues.foldl add r

def ofIssues (issues : List Issue) : Report := addAll {} issues

/-- The counts of the other report do not matter, its issues are counted anew. -/
def merge (r other : Report) : Report := r.addAll other.issues

def hasErrors (r : Report) : Bool := 0 < r.errors

def isClean (r : Report) : Bool := r.issues.isEmpty

def inCategory (r : Report) (category : String) : List Issue := r.issues.filter (·.category = category)

end Report

end Plotline
