import Plotline.Story.Event
import Plotline.Story.Status

/-!
Start conditions of nodes. A condition is a latch: once an event, or the statuses it is shown, satisfy it, it
stays satisfied until it is reset. While its runner is set up it holds the handle of its subscription.
-/

namespace Plotline

inductive ConditionKind
  | areaEntered (area : String)
  | interactionTriggered (interaction : String)
  | previousNodeCompleted (target : NodeId)
  deriving DecidableEq, Repr

/-- Where a condition stands: the slot of a node of a runner. -/
structure ConditionKey where
  runner : RunnerId
  node : NodeId
  index : Nat
  deriving DecidableEq, Repr

structure Condition where
  kind : ConditionKind
  satisfied : Bool := false
  subscription : Option SubscriptionId := none
  deriving DecidableEq, Repr

namespace ConditionKind

def description : ConditionKind → String
  | areaEntered area => s!"player enters area '{area}'"
  | interactionTriggered interaction => s!"player triggers interaction '{interaction}'"
  | previousNodeCompleted target => s!"node '{target.text}' is completed"

def topic : ConditionKind → Topic
  | areaEntered _ => .areaEntered
  | interactionTriggered _ => .interactionTriggered
  | previousNodeCompleted _ => .nodeCompleted

def matchedBy : ConditionKind → StoryEvent → Bool
  | areaEntered area, .areaEntered entered => area = entered
  | interactionTriggered interaction, .interactionTriggered used => interaction = used
  | previousNodeCompleted target, .nodeCompleted _ _ node => target = node
  | _, _ => false

/-- Only the completion of a node can be read off statuses. -/
def settledBy : ConditionKind → StatusTable → Bool
  | previousNodeCompleted target, statuses => statuses.get? target = some .completed
  | _, _ => false

end ConditionKind

namespace ConditionKey

def shown (key : ConditionKey) : String :=
  Text.shownRecord "ConditionKey"
    [("runner", key.runner.shown), ("node", key.node.shown), ("index", toString key.index)]

end ConditionKey

namespace Condition

def reset (c : Condition) : Condition := { c with satisfied := false }

/-- The event satisfies the condition, and it was not satisfied before. -/
def newlyMatched (c : Condition) (event : StoryEvent) : Bool := !c.satisfied && c.kind.matchedBy event

def newlySettled (c : Condition) (statuses : StatusTable) : Bool := !c.satisfied && c.kind.settledBy statuses

def deliver (c : Condition) (event : StoryEvent) : Condition :=
  { c with satisfied := c.satisfied || c.kind.matchedBy event }

def settle (c : Condition) (statuses : StatusTable) : Condition :=
  { c with satisfied := c.satisfied || c.kind.settledBy statuses }

end Condition

end Plotline
