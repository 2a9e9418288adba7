import Plotline.Format.Program
import Plotline.Story.Event

/-!
Events and topics as JSON.
-/

namespace Plotline

open Decoder

namespace Topic

def decoder : Decoder Topic := name (all.map fun t => (t.shown, t))

def json (t : Topic) : Json := .text t.shown

end Topic

namespace StoryEvent

private def variant (title name : String) {ts : List Type} (fields : Fields ts) (build : Values ts → StoryEvent) :
    Variant StoryEvent :=
  fielded "StoryEvent" title name fields build

private def ofNode (title name : String) (build : RunnerId → StoryboardName → NodeId → StoryEvent) :
    Variant StoryEvent :=
  variant title name
    (.cons (required "runner_id" runnerId)
      (.cons (required "storyboard" storyboardName) (.cons (required "node_id" nodeId) .nil)))
    fun (runner, storyboard, node, ()) => build runner storyboard node

def shape : Tagged StoryEvent where
  owner := "StoryEvent"
  tag := "type"
  variants :=
    [variant "AreaEntered" "area_entered" (.cons (required "trigger_id" text) .nil)
        fun (area, ()) => .areaEntered area,
      variant "InteractionTriggered" "interaction_triggered" (.cons (required "interaction_id" text) .nil)
        fun (interaction, ()) => .interactionTriggered interaction,
      ofNode "NodeStarted" "node_started" .nodeStarted,
      ofNode "NodeCompleted" "node_completed" .nodeCompleted,
      variant "ProgramFinished" "program_finished"
        (.cons (required "runner_id" runnerId)
          (.cons (required "node_id" nodeId) (.cons (required "rewards" (list Reward.decoder)) .nil)))
        fun (runner, node, rewards, ()) => .programFinished runner node rewards,
      variant "JumpRequested" "jump_requested"
        (.cons (required "origin_runner" runnerId)
          (.cons (required "origin_node" nodeId)
            (.cons (required "storyboard" storyboardName) (.cons (required "node_id" nodeId) .nil))))
        fun (originRunner, originNode, storyboard, node, ()) =>
          .jumpRequested originRunner originNode storyboard node,
      variant "TriggerRequested" "trigger_requested"
        (.cons (required "runner_id" runnerId) (.cons (required "node_id" nodeId) .nil))
        fun (runner, node, ()) => .triggerRequested runner node]

def decoder : Decoder StoryEvent := shape.decoder

private def nodeMembers (runner : RunnerId) (storyboard : StoryboardName) (node : NodeId) :
    List (String × Json) :=
  [("runner_id", .text runner.text), ("storyboard", .text storyboard.text), ("node_id", .text node.text)]

def json : StoryEvent → Json
  | areaEntered area => .tagged "type" "area_entered" [("trigger_id", .text area)]
  | interactionTriggered interaction =>
    .tagged "type" "interaction_triggered" [("interaction_id", .text interaction)]
  | nodeStarted runner storyboard node => .tagged "type" "node_started" (nodeMembers runner storyboard node)
  | nodeCompleted runner storyboard node => .tagged "type" "node_completed" (nodeMembers runner storyboard node)
  | programFinished runner node rewards =>
    .tagged "type" "program_finished"
      [("runner_id", .text runner.text), ("node_id", .text node.text),
        ("rewards", .list (rewards.map Reward.json))]
  | jumpRequested originRunner originNode storyboard node =>
    .tagged "type" "jump_requested"
      [("origin_runner", .text originRunner.text), ("origin_node", .text originNode.text),
        ("storyboard", .text storyboard.text), ("node_id", .text node.text)]
  | triggerRequested runner node =>
    .tagged "type" "trigger_requested" [("runner_id", .text runner.text), ("node_id", .text node.text)]

end StoryEvent

end Plotline
