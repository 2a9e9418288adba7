import Plotline.Format.Storyboard
import Plotline.Play.Session
import Plotline.Stage.Terminal

/-!
A story played in a terminal: the session, and the text that the player sees.
-/

namespace Plotline

/-- Why a game cannot begin, or cannot go on. -/
inductive PlayError
  | package (error : ReadError)
  | scene (error : SceneError)
  | slots (error : SlotError)
  deriving DecidableEq, Repr

def PlayError.message : PlayError → String
  | package error => error.message
  | scene error => error.message
  | slots error => error.message

structure Player where
  session : Session
  terminal : Terminal

namespace Player

def clearScreen : String := "\x1b[2J\x1b[H"

def greeting : List String :=
  ["=== storyweave player ===", "", "Controls:", "  Enter:           next",
    "  1-9:             select choice", "  enter <area>:    walk into a trigger area",
    "  interact <id>:   use an interactable", "  save/load <n>:   save slots",
    "  status:          node statuses", "  q:               quit", ""]

def farewell : String := Terminal.textOf ["Goodbye!"]

def promptText : Prompt → String
  | .choice => "Select (1-9): "
  | .continue => ""
  | .world => "> "

/-- The lines that entries of the journal, oldest first, write to the terminal. -/
def play (t : Terminal) : List Entry → List String × Terminal
  | [] => ([], t)
  | entry :: entries =>
    let (first, t) :=
      match entry with
      | .cue cue => t.play cue
      | .observed _ (.programFinished runner node _) => ([s!"[debug] finished {runner.text}/{node.text}"], t)
      | _ => ([], t)
    let (rest, t) := play t entries
    (first ++ rest, t)

/-- A new game. A verbose one tells when a program finishes. What was journaled comes along even if the
package has no scene. -/
def start (package : StoryPackage) (verbose : Bool) (slots : Slots) : Except PlayError Player × Journal :=
  match Scene.ofPackage package {} .instant with
  | (.error error, scene) => (.error (.scene error), scene.channel.journal)
  | (.ok (), scene) =>
    let (journal, scene) := scene.flush
    let scene := if verbose then (scene.observe .programFinished).2 else scene
    (.ok { session := { scene, slots }, terminal := { verbose } }, journal)

/-- Lets the scene settle; the text ends with the prompt. -/
def settle (p : Player) : String × Journal × Player :=
  let (journal, session) := p.session.settle.flush
  let (lines, terminal) := play p.terminal journal.reverse
  (Terminal.textOf lines ++ promptText session.prompt, journal, { session, terminal })

def answer (line : String) (p : Player) : Except SlotError Reply × Journal × Player :=
  let (reply, session) := p.session.handle (.parse line)
  let (journal, session) := session.flush
  (reply, journal, { p with session })

/-- What a whole game comes to: the text, the journal, the slots, and the error that ended it, if one did. -/
structure Outcome where
  text : String
  journal : Journal
  slots : Slots
  error : Option PlayError

/-- Plays on with the given lines of input. -/
def turns : List String → String → Journal → Player → Outcome
  | lines, text, journal, p =>
    let (shown, entries, p) := p.settle
    let text := text ++ shown
    let journal := entries ++ journal
    match lines with
    | [] => { text := text ++ farewell, journal, slots := p.session.slots, error := none }
    | line :: lines =>
      let (reply, entries, p) := p.answer line
      let journal := entries ++ journal
      match reply with
      | .error error => { text, journal, slots := p.session.slots, error := some (.slots error) }
      | .ok reply =>
        let text := text ++ Terminal.textOf reply.lines
        if reply.goesOn then turns lines text journal p
        else { text := text ++ farewell, journal, slots := p.session.slots, error := none }

def run (package : String) (verbose : Bool) (input : String) (slots : Slots) : Outcome :=
  match StoryPackage.read package with
  | .error error => { text := "", journal := [], slots, error := some (.package error) }
  | .ok package =>
    match start package verbose slots with
    | (.error error, journal) => { text := "", journal, slots, error := some error }
    | (.ok p, journal) =>
      turns (Text.lines input) (clearScreen ++ Terminal.textOf greeting) journal p

end Player

end Plotline
