import Plotline.Log.Note
import Plotline.Stage.Cue

/-!
The journal: everything a scene does to the world around it, in order. What a stage was shown, what observers
were told and what the log says are views of the journal.
-/

namespace Plotline

inductive Entry
  | cue (cue : Cue)
  | observed (id : SubscriptionId) (event : StoryEvent)
  | note (note : Note)
  deriving DecidableEq, Repr

/-- The latest entry comes first. -/
abbrev Journal := List Entry

namespace Journal

def cue (c : Cue) (j : Journal) : Journal := .cue c :: j

def note (n : Note) (j : Journal) : Journal := .note n :: j

def notes (ns : List Note) (j : Journal) : Journal := ns.foldl (fun j n => j.note n) j

def cues (j : Journal) : List Cue :=
  j.reverse.filterMap fun
    | .cue c => some c
    | _ => none

def observations (j : Journal) : List (SubscriptionId × StoryEvent) :=
  j.reverse.filterMap fun
    | .observed id event => some (id, event)
    | _ => none

/-- The events that went into the queue of the bus. -/
def published (j : Journal) : List StoryEvent :=
  j.reverse.filterMap fun
    | .note (.published event) => some event
    | _ => none

def records (settings : LogSettings) (j : Journal) : List LogRecord :=
  j.reverse.filterMap fun
    | .note n => if settings.allows n.level (.category n.category) then some n.record else none
    | _ => none

end Journal

/-- A stage says how long each cue takes; it may go by all that has happened before. -/
abbrev Stage := Journal → Cue → Completion

namespace Stage

def nominal : Stage := fun _ cue => cue.nominal

def instant : Stage := fun _ _ => .immediate

end Stage

end Plotline
