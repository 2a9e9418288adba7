import Plotline.Play.Command
import Plotline.Save.Slots
import Plotline.Scene.Restore
import Plotline.Scene.Tick

/-!
A play session: a scene, the slots it is saved to, and the player's commands. Between two commands the scene
settles, that is, it ticks without any time passing.
-/

namespace Plotline

inductive Prompt
  | choice
  | continue
  | world
  deriving DecidableEq, Repr

structure Session where
  scene : Scene
  slots : Slots

/-- What a command comes to: lines to print, and whether the session goes on. -/
structure Reply where
  goesOn : Bool := true
  lines : List String := []
  deriving DecidableEq, Repr

namespace Session

def settleLimit : Nat := 32

def prompt (s : Session) : Prompt :=
  if s.scene.interpreter.isWaitingForChoice then .choice
  else if s.scene.interpreter.waitingForInput then .continue
  else .world

/-- At most `limit` ticks, until no event is queued or the program asks for the player. -/
def settleWithin (limit : Nat) (s : Session) : Session :=
  match limit with
  | 0 => s
  | limit + 1 =>
    let s := { s with scene := s.scene.tick 0 }
    if s.scene.channel.bus.queue.isEmpty || s.prompt ≠ .world then s else settleWithin limit s

def settle (s : Session) : Session := s.settleWithin settleLimit

def flush (s : Session) : Journal × Session :=
  let (journal, scene) := s.scene.flush
  (journal, { s with scene })

private def statusLine (state : NodeState) : String :=
  "  " ++ Text.padRight 20 state.node.text ++ " " ++ state.status.shown

private def runnerLines (r : Runner) : List String :=
  s!"{r.id.text} (priority {r.priority}):" :: r.capture.nodes.map statusLine

def statusLines (s : Session) : List String :=
  s.scene.runners.flatMap runnerLines
    ++ (s.scene.active.map fun (runner, node) => s!"running: {runner.text}/{node.text}").toList ++ [""]

def save (slot : Nat) (s : Session) : Except SlotError Reply × Session :=
  match s.slots.save slot s.scene.capture with
  | (.error error, slots) => (.error error, { s with slots })
  | (.ok (), slots) =>
    (.ok { lines := [s!"[Saved slot {slot}]"] },
      { scene := s.scene.note (.slotSaved slot (s.slots.pathOf slot)), slots })

def load (slot : Nat) (s : Session) : Except SlotError Reply × Session :=
  match s.slots.load slot with
  | .error error => (.error error, s)
  | .ok none => (.ok { lines := [s!"Slot {slot} is empty."] }, s)
  | .ok (some entries) =>
    (.ok { lines := [s!"[Loaded slot {slot}]"] }, { s with scene := s.scene.restore entries })

private def hint : Prompt → String
  | .choice => "Select a choice (1-9) or 'q' to quit."
  | .continue => "Press Enter to continue, or 'q' to quit."
  | .world => "Try 'enter <area>', 'interact <id>', 'save <n>', 'load <n>' or 'q'."

/-- Carries out a command. What the prompt does not ask for is answered with a hint. -/
def handle (command : Command) (s : Session) : Except SlotError Reply × Session :=
  match command, s.prompt with
  | .quit, _ => (.ok { goesOn := false }, s)
  | .continue, .continue =>
    match s.scene.continueInput with
    | .ok scene => (.ok {}, { s with scene })
    | .error error => (.ok { lines := [error.message] }, s)
  | .choose index, .choice =>
    match s.scene.selectChoice index with
    | .ok scene => (.ok {}, { s with scene })
    | .error error => (.ok { lines := [error.message] }, s)
  | .enter area, .world => (.ok {}, { s with scene := s.scene.enterArea area })
  | .interact interaction, .world => (.ok {}, { s with scene := s.scene.interact interaction })
  | .save slot, .world => s.save slot
  | .load slot, .world => s.load slot
  | .status, _ => (.ok { lines := s.statusLines }, s)
  | .invalid reason, _ => (.ok { lines := [reason] }, s)
  | _, prompt => (.ok { lines := [hint prompt] }, s)

end Session

end Plotline
