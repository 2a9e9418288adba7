import Plotline.Story.Condition

/-!
Storyboards: the nodes of a part of the story, with the conditions under which they start, and the packages
in which storyboards are handed out to runners.
-/

namespace Plotline

structure Node where
  id : NodeId
  name : String := ""
  archetype : Archetype := .generic
  isStart : Bool := false
  isRepeatable : Bool := false
  conditions : List Condition := []
  next : List NodeId := []
  program : Program := {}
  deriving DecidableEq, Repr

structure Connection where
  source : NodeId
  target : NodeId
  deriving DecidableEq, Repr

structure Storyboard where
  name : StoryboardName
  nodes : List Node := []
  connections : List Connection := []
  deriving DecidableEq, Repr

structure RunnerDefinition where
  id : RunnerId
  priority : Int := 0
  storyboard : Storyboard
  deriving DecidableEq, Repr

structure StoryPackage where
  runners : List RunnerDefinition := []
  deriving DecidableEq, Repr

namespace Node

/-- A node that takes its name and its archetype from what it is made of. -/
def ofProgram (id : NodeId) (program : Program) : Node :=
  { id, name := id.text, archetype := program.archetype, program }

def isReady (n : Node) : Bool := n.conditions.all (·.satisfied)

def mapConditions (f : Condition → Condition) (n : Node) : Node := { n with conditions := n.conditions.map f }

end Node

namespace Storyboard

def node? (b : Storyboard) (id : NodeId) : Option Node := b.nodes.find? (·.id = id)

def startNode? (b : Storyboard) : Option Node := b.nodes.find? (·.isStart)

end Storyboard

end Plotline
