import Plotline.Stage.Duration
import Plotline.Story.Program

/-!
Cues: what the story asks of the stage. Some take time; `Cue.nominal` is how long by the cue's own account.
-/

namespace Plotline

inductive Cue
  | dialogue (speaker text : String)
  | choices (prompt : Option String) (options : List String)
  | background (command : BackgroundCommand)
  | cinematicText (text : String) (duration : Duration)
  | actor (name : String) (command : ActorCommand)
  | camera (command : CameraCommand)
  | audio (command : AudioCommand)
  | screenEffect (effect : ScreenEffect)
  /-- Whether the stage listens for the player's wish to go on. -/
  | continueListener (on : Bool)
  /-- Whether the stage listens for the player's wish to cut a wait short. -/
  | skipListener (on : Bool)
  | rewards (rewards : List Reward)
  deriving DecidableEq, Repr

namespace Cue

def nominal : Cue → Completion
  | cinematicText _ duration => .after duration
  | actor _ (.moveTo _ seconds) | actor _ (.animate _ seconds) => .ofSeconds seconds
  | camera (.focus _ seconds) | camera (.shake _ seconds) | camera (.reset seconds) => .ofSeconds seconds
  | audio (.playMusic _ seconds) | audio (.stopMusic seconds) => .ofSeconds seconds
  | screenEffect (.fadeOut seconds) | screenEffect (.fadeIn seconds) | screenEffect (.flash seconds) =>
    .ofSeconds seconds
  | _ => .immediate

/-- The stage answers the cue with when it is done; the others are done at once. -/
def isTimed : Cue → Bool
  | cinematicText .. | actor .. | camera _ | audio _ | screenEffect _ => true
  | _ => false

/-- The cue shows or tells something; the two listeners only open and close a way for the player. -/
def isPresentation : Cue → Bool
  | continueListener _ | skipListener _ => false
  | _ => true

end Cue

end Plotline
