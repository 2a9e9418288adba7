import Plotline.Json.Decoder
import Plotline.Story.Program

/-!
Programs as JSON. Absent optional fields leave no trace; in a list of instructions `null` and entries of an
unknown type are read as `Instruction.unknown`.
-/

namespace Plotline

open Decoder

namespace Json

def present {α : Type} (key : String) (f : α → Json) : Option α → List (String × Json)
  | some value => [(key, f value)]
  | none => []

def ofOption {α : Type} (f : α → Json) : Option α → Json
  | some value => f value
  | none => .null

def tagged (tag name : String) (members : List (String × Json)) : Json := .object ((tag, .text name) :: members)

end Json

namespace Decoder

def runnerId : Decoder RunnerId := map .mk text

def nodeId : Decoder NodeId := map .mk text

def storyboardName : Decoder StoryboardName := map .mk text

def labelName : Decoder LabelName := map .mk text

/-- An optional field that may be left out everywhere. -/
def maybe {α : Type} (name : String) (read : Decoder α) : RecordField (Option α) :=
  withDefault name (optional read) none

end Decoder

namespace Archetype

def key : Archetype → String
  | generic => "generic"
  | dialogue => "dialogue"
  | cinematicText => "cinematic_text"

def decoder : Decoder Archetype := name (all.map fun a => (a.key, a))

def json (a : Archetype) : Json := .text a.key

end Archetype

namespace Reward

def decoder : Decoder Reward :=
  record "struct Reward" (.cons (required "id" text) (.cons (withDefault "amount" word32 1) .nil))
    fun (id, amount, ()) => { id, amount }

def json (r : Reward) : Json := .object [("id", .text r.id), ("amount", .natural r.amount)]

end Reward

namespace ChoiceOption

def decoder : Decoder ChoiceOption :=
  record "struct ChoiceOption" (.cons (required "text" Decoder.text) (.cons (required "target" labelName) .nil))
    fun (text, target, ()) => { text, target }

def json (o : ChoiceOption) : Json := .object [("text", .text o.text), ("target", .text o.target.text)]

end ChoiceOption

namespace EndOfProgram

def decoder : Decoder EndOfProgram :=
  record "struct EndOfProgram"
    (.cons (withDefault "is_branching" boolean false)
      (.cons (maybe "target_node_id" nodeId)
        (.cons (maybe "target_storyboard" storyboardName)
          (.cons (withDefault "rewards" (list Reward.decoder) []) .nil))))
    fun (isBranching, targetNode, targetStoryboard, rewards, ()) =>
      { isBranching, targetNode, targetStoryboard, rewards }

def members (e : EndOfProgram) : List (String × Json) :=
  ("is_branching", .bool e.isBranching)
    :: Json.present "target_node_id" (.text ·.text) e.targetNode
    ++ Json.present "target_storyboard" (.text ·.text) e.targetStoryboard
    ++ [("rewards", .list (e.rewards.map Reward.json))]

def json (e : EndOfProgram) : Json := .object e.members

end EndOfProgram

namespace ActorCommand

def shape : Tagged ActorCommand where
  owner := "ActorCommand"
  tag := "kind"
  variants :=
    [fielded "ActorCommand" "Show" "show" (.cons (maybe "position" text) .nil)
        fun (position, ()) => .appear position,
      bare "hide" .hide,
      fielded "ActorCommand" "MoveTo" "move_to"
        (.cons (required "position" text) (.cons (required "seconds" single) .nil))
        fun (position, seconds, ()) => .moveTo position seconds,
      fielded "ActorCommand" "Animate" "animate"
        (.cons (required "clip" text) (.cons (required "seconds" single) .nil))
        fun (clip, seconds, ()) => .animate clip seconds]

def decoder : Decoder ActorCommand := shape.decoder

def json : ActorCommand → Json
  | appear position => .tagged "kind" "show" (Json.present "position" .text position)
  | hide => .tagged "kind" "hide" []
  | moveTo position seconds =>
    .tagged "kind" "move_to" [("position", .text position), ("seconds", .single seconds)]
  | animate clip seconds => .tagged "kind" "animate" [("clip", .text clip), ("seconds", .single seconds)]

end ActorCommand

namespace BackgroundCommand

def shape : Tagged BackgroundCommand where
  owner := "BackgroundCommand"
  tag := "kind"
  variants :=
    [fielded "BackgroundCommand" "Show" "show" (.cons (required "image" text) .nil)
        fun (image, ()) => .display image,
      bare "hide" .hide]

def decoder : Decoder BackgroundCommand := shape.decoder

def json : BackgroundCommand → Json
  | display image => .tagged "kind" "show" [("image", .text image)]
  | hide => .tagged "kind" "hide" []

end BackgroundCommand

namespace AudioCommand

/-- A fade that is not mentioned takes no time. -/
def fade : RecordField Single := withDefault "fade_seconds" single (.ofNat 0)

def shape : Tagged AudioCommand where
  owner := "AudioCommand"
  tag := "kind"
  variants :=
    [fielded "AudioCommand" "PlayMusic" "play_music" (.cons (required "track" text) (.cons fade .nil))
        fun (track, fadeSeconds, ()) => .playMusic track fadeSeconds,
      fielded "AudioCommand" "StopMusic" "stop_music" (.cons fade .nil)
        fun (fadeSeconds, ()) => .stopMusic fadeSeconds,
      fielded "AudioCommand" "PlayOneShot" "play_one_shot" (.cons (required "clip" text) .nil)
        fun (clip, ()) => .playOneShot clip]

def decoder : Decoder AudioCommand := shape.decoder

def json : AudioCommand → Json
  | playMusic track fadeSeconds =>
    .tagged "kind" "play_music" [("track", .text track), ("fade_seconds", .single fadeSeconds)]
  | stopMusic fadeSeconds => .tagged "kind" "stop_music" [("fade_seconds", .single fadeSeconds)]
  | playOneShot clip => .tagged "kind" "play_one_shot" [("clip", .text clip)]

end AudioCommand

namespace CameraCommand

def shape : Tagged CameraCommand where
  owner := "CameraCommand"
  tag := "kind"
  variants :=
    [fielded "CameraCommand" "Focus" "focus"
        (.cons (required "target" text) (.cons (required "seconds" single) .nil))
        fun (target, seconds, ()) => .focus target seconds,
      fielded "CameraCommand" "Shake" "shake"
        (.cons (required "intensity" single) (.cons (required "seconds" single) .nil))
        fun (intensity, seconds, ()) => .shake intensity seconds,
      fielded "CameraCommand" "Reset" "reset" (.cons (withDefault "seconds" single (.ofNat 0)) .nil)
        fun (seconds, ()) => .reset seconds]

def decoder : Decoder CameraCommand := shape.decoder

def json : CameraCommand → Json
  | focus target seconds => .tagged "kind" "focus" [("target", .text target), ("seconds", .single seconds)]
  | shake intensity seconds =>
    .tagged "kind" "shake" [("intensity", .single intensity), ("seconds", .single seconds)]
  | reset seconds => .tagged "kind" "reset" [("seconds", .single seconds)]

end CameraCommand

namespace ScreenEffect

def timed (title name : String) (build : Single → ScreenEffect) : Variant ScreenEffect :=
  fielded "ScreenEffectCommand" title name (.cons (required "seconds" single) .nil)
    fun (seconds, ()) => build seconds

def shape : Tagged ScreenEffect where
  owner := "ScreenEffectCommand"
  tag := "kind"
  variants := [timed "FadeOut" "fade_out" .fadeOut, timed "FadeIn" "fade_in" .fadeIn, timed "Flash" "flash" .flash]

def decoder : Decoder ScreenEffect := shape.decoder

def json : ScreenEffect → Json
  | fadeOut seconds => .tagged "kind" "fade_out" [("seconds", .single seconds)]
  | fadeIn seconds => .tagged "kind" "fade_in" [("seconds", .single seconds)]
  | flash seconds => .tagged "kind" "flash" [("seconds", .single seconds)]

end ScreenEffect

namespace Instruction

def variant (title name : String) {ts : List Type} (fields : Fields ts) (build : Values ts → Instruction) :
    Variant Instruction :=
  fielded "Instruction" title name fields build

def shape : Tagged Instruction where
  owner := "Instruction"
  tag := "type"
  variants :=
    [variant "Dialogue" "dialogue"
        (.cons (required "speaker" Decoder.text)
          (.cons (required "text" Decoder.text) (.cons (maybe "reveal_seconds" single) .nil)))
        fun (speaker, text, revealSeconds, ()) => .dialogue speaker text revealSeconds,
      variant "ActorAction" "actor_action"
        (.cons (required "actor" Decoder.text) (.cons (required "action" ActorCommand.decoder) .nil))
        fun (name, command, ()) => .actor name command,
      variant "BackgroundAction" "background_action" (.cons (required "action" BackgroundCommand.decoder) .nil)
        fun (command, ()) => .background command,
      variant "Choice" "choice"
        (.cons (maybe "prompt" Decoder.text) (.cons (required "options" (list ChoiceOption.decoder)) .nil))
        fun (prompt, options, ()) => .choice prompt options,
      variant "Label" "label" (.cons (required "name" labelName) .nil) fun (name, ()) => .label name,
      variant "Jump" "jump" (.cons (required "label" labelName) .nil) fun (target, ()) => .jump target,
      variant "Audio" "audio" (.cons (required "action" AudioCommand.decoder) .nil)
        fun (command, ()) => .audio command,
      ⟨"end_of_program", Decoder.map .endOfProgram EndOfProgram.decoder⟩,
      variant "CameraAction" "camera_action" (.cons (required "action" CameraCommand.decoder) .nil)
        fun (command, ()) => .camera command,
      variant "ScreenEffect" "screen_effect" (.cons (required "effect" ScreenEffect.decoder) .nil)
        fun (effect, ()) => .screenEffect effect,
      variant "TriggerOtherRunner" "trigger_other_runner"
        (.cons (required "runner_id" runnerId) (.cons (required "node_id" nodeId) .nil))
        fun (runner, node, ()) => .trigger runner node]
  other := some .unknown

def decoder : Decoder Instruction := shape.decoder

def json : Instruction → Json
  | dialogue speaker text revealSeconds =>
    .tagged "type" "dialogue"
      (("speaker", .text speaker) :: ("text", .text text) :: Json.present "reveal_seconds" .single revealSeconds)
  | actor name command => .tagged "type" "actor_action" [("actor", .text name), ("action", command.json)]
  | background command => .tagged "type" "background_action" [("action", command.json)]
  | choice prompt options =>
    .tagged "type" "choice"
      (Json.present "prompt" .text prompt ++ [("options", .list (options.map ChoiceOption.json))])
  | label name => .tagged "type" "label" [("name", .text name.text)]
  | jump target => .tagged "type" "jump" [("label", .text target.text)]
  | audio command => .tagged "type" "audio" [("action", command.json)]
  | endOfProgram ending => .tagged "type" "end_of_program" ending.members
  | camera command => .tagged "type" "camera_action" [("action", command.json)]
  | screenEffect effect => .tagged "type" "screen_effect" [("effect", effect.json)]
  | trigger runner node =>
    .tagged "type" "trigger_other_runner" [("runner_id", .text runner.text), ("node_id", .text node.text)]
  | unknown => .tagged "type" "unknown" []

end Instruction

namespace Program

/-- An entry that is `null` keeps its place as an unknown instruction. -/
def entryDecoder : Decoder Instruction := Decoder.map (·.getD .unknown) (optional Instruction.decoder)

def decoder : Decoder Program :=
  record "struct Program"
    (.cons (withDefault "archetype" Archetype.decoder .generic)
      (.cons (withDefault "instructions" (list entryDecoder) []) .nil))
    fun (archetype, instructions, ()) => { archetype, instructions }

def json (p : Program) : Json :=
  .object [("archetype", p.archetype.json), ("instructions", .list (p.instructions.map Instruction.json))]

end Program

end Plotline
