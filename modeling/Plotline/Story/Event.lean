import Plotline.Story.Program

/-!
What happens in a story: the events that travel on the bus, sorted by topic.
-/

namespace Plotline

inductive Topic
  | areaEntered
  | interactionTriggered
  | nodeStarted
  | nodeCompleted
  | programFinished
  | jumpRequested
  | triggerRequested
  deriving DecidableEq, Repr

inductive StoryEvent
  | areaEntered (area : String)
  | interactionTriggered (interaction : String)
  | nodeStarted (runner : RunnerId) (storyboard : StoryboardName) (node : NodeId)
  | nodeCompleted (runner : RunnerId) (storyboard : StoryboardName) (node : NodeId)
  | programFinished (runner : RunnerId) (node : NodeId) (rewards : List Reward)
  | jumpRequested (originRunner : RunnerId) (originNode : NodeId) (storyboard : StoryboardName)
    (node : NodeId)
  | triggerRequested (runner : RunnerId) (node : NodeId)
  deriving DecidableEq, Repr

namespace Topic

def all : List Topic :=
  [areaEntered, interactionTriggered, nodeStarted, nodeCompleted, programFinished, jumpRequested,
    triggerRequested]

def shown : Topic → String
  | areaEntered => "AreaEntered"
  | interactionTriggered => "InteractionTriggered"
  | nodeStarted => "NodeStarted"
  | nodeCompleted => "NodeCompleted"
  | programFinished => "ProgramFinished"
  | jumpRequested => "JumpRequested"
  | triggerRequested => "TriggerRequested"

end Topic

namespace StoryEvent

def topic : StoryEvent → Topic
  | areaEntered _ => .areaEntered
  | interactionTriggered _ => .interactionTriggered
  | nodeStarted .. => .nodeStarted
  | nodeCompleted .. => .nodeCompleted
  | programFinished .. => .programFinished
  | jumpRequested .. => .jumpRequested
  | triggerRequested .. => .triggerRequested

private def shownReward (r : Reward) : String :=
  Text.shownRecord "Reward" [("id", Text.quoted r.id), ("amount", toString r.amount)]

private def shownFields : StoryEvent → List (String × String)
  | areaEntered area => [("trigger_id", Text.quoted area)]
  | interactionTriggered interaction => [("interaction_id", Text.quoted interaction)]
  | nodeStarted runner storyboard node | nodeCompleted runner storyboard node =>
    [("runner_id", runner.shown), ("storyboard", storyboard.shown), ("node_id", node.shown)]
  | programFinished runner node rewards =>
    [("runner_id", runner.shown), ("node_id", node.shown),
      ("rewards", Text.shownList (rewards.map shownReward))]
  | jumpRequested originRunner originNode storyboard node =>
    [("origin_runner", originRunner.shown), ("origin_node", originNode.shown),
      ("storyboard", storyboard.shown), ("node_id", node.shown)]
  | triggerRequested runner node => [("runner_id", runner.shown), ("node_id", node.shown)]

def shown (e : StoryEvent) : String := Text.shownRecord e.topic.shown e.shownFields

end StoryEvent

end Plotline
