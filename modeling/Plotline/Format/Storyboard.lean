import Plotline.Format.Program
import Plotline.Story.Storyboard

/-!
Conditions, nodes, storyboards and packages as JSON. A condition is written as its kind alone: whether it is
satisfied and subscribed belongs to the running story.
-/

namespace Plotline

open Decoder

namespace ConditionKind

def shape : Tagged ConditionKind where
  owner := "ConditionKind"
  tag := "kind"
  variants :=
    [fielded "ConditionKind" "AreaEntered" "area_entered" (.cons (required "trigger_id" text) .nil)
        fun (area, ()) => .areaEntered area,
      fielded "ConditionKind" "InteractionTriggered" "interaction_triggered"
        (.cons (required "interaction_id" text) .nil) fun (interaction, ()) => .interactionTriggered interaction,
      fielded "ConditionKind" "PreviousNodeCompleted" "previous_node_completed"
        (.cons (required "target_node_id" nodeId) .nil) fun (target, ()) => .previousNodeCompleted target]

def json : ConditionKind → Json
  | areaEntered area => .tagged "kind" "area_entered" [("trigger_id", .text area)]
  | interactionTriggered interaction =>
    .tagged "kind" "interaction_triggered" [("interaction_id", .text interaction)]
  | previousNodeCompleted target =>
    .tagged "kind" "previous_node_completed" [("target_node_id", .text target.text)]

end ConditionKind

namespace Condition

def decoder : Decoder Condition := Decoder.map ({ kind := · }) (ConditionKind.shape.spread "struct Condition")

def json (c : Condition) : Json := c.kind.json

end Condition

namespace Node

def decoder : Decoder Node :=
  record "struct NarrativeNode"
    (.cons (required "id" nodeId)
      (.cons (withDefault "name" text "")
        (.cons (withDefault "archetype" Archetype.decoder .generic)
          (.cons (withDefault "is_start_node" boolean false)
            (.cons (withDefault "is_repeatable" boolean false)
              (.cons (withDefault "conditions" (list Condition.decoder) [])
                (.cons (withDefault "next" (list nodeId) [])
                  (.cons (withDefault "program" Program.decoder {}) .nil))))))))
    fun (id, name, archetype, isStart, isRepeatable, conditions, next, program, ()) =>
      { id, name, archetype, isStart, isRepeatable, conditions, next, program }

def json (n : Node) : Json :=
  .object
    [("id", .text n.id.text), ("name", .text n.name), ("archetype", n.archetype.json),
      ("is_start_node", .bool n.isStart), ("is_repeatable", .bool n.isRepeatable),
      ("conditions", .list (n.conditions.map Condition.json)),
      ("next", .list (n.next.map fun id => .text id.text)), ("program", n.program.json)]

end Node

namespace Connection

def decoder : Decoder Connection :=
  record "struct Connection" (.cons (required "from" nodeId) (.cons (required "to" nodeId) .nil))
    fun (source, target, ()) => { source, target }

def json (c : Connection) : Json := .object [("from", .text c.source.text), ("to", .text c.target.text)]

end Connection

namespace Storyboard

def decoder : Decoder Storyboard :=
  record "struct Storyboard"
    (.cons (required "name" storyboardName)
      (.cons (withDefault "nodes" (list Node.decoder) [])
        (.cons (withDefault "connections" (list Connection.decoder) []) .nil)))
    fun (name, nodes, connections, ()) => { name, nodes, connections }

def json (b : Storyboard) : Json :=
  .object
    [("name", .text b.name.text), ("nodes", .list (b.nodes.map Node.json)),
      ("connections", .list (b.connections.map Connection.json))]

end Storyboard

namespace RunnerDefinition

def decoder : Decoder RunnerDefinition :=
  record "struct RunnerDefinition"
    (.cons (required "id" runnerId)
      (.cons (withDefault "priority" integer32 0) (.cons (required "storyboard" Storyboard.decoder) .nil)))
    fun (id, priority, storyboard, ()) => { id, priority, storyboard }

def json (d : RunnerDefinition) : Json :=
  .object [("id", .text d.id.text), ("priority", .number d.priority), ("storyboard", d.storyboard.json)]

end RunnerDefinition

namespace StoryPackage

def decoder : Decoder StoryPackage :=
  record "struct StoryPackage" (.cons (withDefault "runners" (list RunnerDefinition.decoder) []) .nil)
    fun (runners, ()) => { runners }

def json (p : StoryPackage) : Json := .object [("runners", .list (p.runners.map RunnerDefinition.json))]

def read (text : String) : Except ReadError StoryPackage := decoder.read text

end StoryPackage

end Plotline
