import Plotline.Stage.Cue

/-!
Cues as text. A terminal shows dialogue, choices and cinematic text, and what changes in background and
music; a verbose one also tells of actors, camera, sounds and effects.
-/

namespace Plotline

/-- What the terminal has to remember to tell only changes. -/
structure Terminal where
  verbose : Bool := false
  background : Option String := none
  music : Option String := none
  deriving DecidableEq, Repr

namespace CameraCommand

def shown : CameraCommand → String
  | focus target seconds =>
    Text.shownRecord "Focus" [("target", Text.quoted target), ("seconds", seconds.display)]
  | shake intensity seconds =>
    Text.shownRecord "Shake" [("intensity", intensity.display), ("seconds", seconds.display)]
  | reset seconds => Text.shownRecord "Reset" [("seconds", seconds.display)]

end CameraCommand

namespace ScreenEffect

def shown : ScreenEffect → String
  | fadeOut seconds => Text.shownRecord "FadeOut" [("seconds", seconds.display)]
  | fadeIn seconds => Text.shownRecord "FadeIn" [("seconds", seconds.display)]
  | flash seconds => Text.shownRecord "Flash" [("seconds", seconds.display)]

end ScreenEffect

namespace Terminal

private def detail (t : Terminal) (text : String) : List String := if t.verbose then ["[" ++ text ++ "]"] else []

private def actorText (name : String) : ActorCommand → String
  | .appear (some position) => s!"{name} appears at {position}"
  | .appear none => s!"{name} appears"
  | .hide => s!"{name} leaves"
  | .moveTo position _ => s!"{name} moves to {position}"
  | .animate clip _ => s!"{name}: {clip}"

def numbered (options : List String) : List String :=
  options.mapIdx fun index option => s!"{index + 1}. {option}"

/-- The lines that a cue writes, and what the terminal remembers afterwards. -/
def play (t : Terminal) : Cue → List String × Terminal
  | .dialogue speaker text => ((if speaker.isEmpty then [] else [speaker ++ ":"]) ++ [text, ""], t)
  | .choices prompt options => (["--- Choice ---"] ++ prompt.toList ++ numbered options ++ [""], t)
  | .background (.display image) =>
    if t.background = some image then ([], t)
    else (["[Background: " ++ image ++ "]"], { t with background := some image })
  | .background .hide =>
    if t.background.isSome then (["[Background cleared]"], { t with background := none }) else ([], t)
  | .cinematicText text _ => (["  " ++ text, ""], t)
  | .actor name command => (t.detail (actorText name command), t)
  | .camera command => (t.detail ("camera " ++ command.shown), t)
  | .audio (.playMusic track _) =>
    if t.music = some track then ([], t) else (["[Music: " ++ track ++ "]"], { t with music := some track })
  | .audio (.stopMusic _) => if t.music.isSome then (["[Music stopped]"], { t with music := none }) else ([], t)
  | .audio (.playOneShot clip) => (t.detail ("sound " ++ clip), t)
  | .screenEffect effect => (t.detail ("effect " ++ effect.shown), t)
  | .continueListener _ | .skipListener _ => ([], t)
  | .rewards rewards => (rewards.map fun r => s!"[Reward: {r.id} x{r.amount}]", t)

def playAll (t : Terminal) : List Cue → List String × Terminal
  | [] => ([], t)
  | cue :: cues =>
    let (first, t) := t.play cue
    let (rest, t) := t.playAll cues
    (first ++ rest, t)

def textOf (lines : List String) : String := String.join (lines.map (· ++ "\n"))

end Terminal

end Plotline
