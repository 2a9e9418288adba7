import Plotline.Format.Snapshot
import Plotline.Save.Folder

/-!
Numbered save slots: files in a folder, each named for its slot.
-/

namespace Plotline

inductive SlotAction
  | makeFolder
  | readFolder
  | write (path : String)
  | read (path : String)
  | delete (path : String)
  deriving DecidableEq, Repr

inductive SlotError
  | notFound (slot : Nat)
  | refused (action : SlotAction)
  | unreadable (error : LoadError)
  deriving DecidableEq, Repr

namespace SlotError

def message : SlotError → String
  | notFound slot => s!"Save slot {slot} is empty"
  | refused .makeFolder => "IO error: Failed to create save directory"
  | refused .readFolder => "IO error: Failed to read save directory"
  | refused (.write path) => "IO error: Failed to write save file " ++ path
  | refused (.read path) => "IO error: Failed to read save file " ++ path
  | refused (.delete path) => "IO error: Failed to delete save file " ++ path
  | unreadable error => "Serialization error: Failed to deserialize snapshot: " ++ error.message

end SlotError

/-- The folder of the slots and the path by which it is known. -/
structure Slots where
  path : String
  folder : Folder

namespace Slots

/-- Slots are numbered from zero to below `2 ^ 32`. -/
def limit : Nat := UInt32.size

def fileName (slot : Nat) : String := "slot-" ++ toString slot ++ ".json"

def pathOf (s : Slots) (slot : Nat) : String := Path.join s.path (fileName slot)

def between? (first last : List Char) (cs : List Char) : Option (List Char) :=
  if first.isPrefixOf cs && last.isSuffixOf (cs.drop first.length) then
    some ((cs.drop first.length).take (cs.length - first.length - last.length))
  else none

/-- The number in the name of a slot's file, as a number may be written. -/
def slotOf? (name : String) : Option Nat :=
  (between? "slot-".toList ".json".toList name.toList).bind fun digits =>
    Text.readNatural? limit (String.ofList digits)

def save (slot : Nat) (entries : List SnapshotEntry) (s : Slots) : Except SlotError Unit × Slots :=
  match s.folder.make? with
  | none => (.error (.refused .makeFolder), s)
  | some items =>
    match items.lookup (fileName slot) with
    | some .folder => (.error (.refused (.write (s.pathOf slot))), { s with folder := .present items })
    | _ => (.ok (), { s with folder := .present (Folder.put (fileName slot) (.file (Snapshot.save entries)) items) })

/-- The entries of a slot, none for an empty one. -/
def load (slot : Nat) (s : Slots) : Except SlotError (Option (List SnapshotEntry)) :=
  match s.folder with
  | .absent => .ok none
  | .blocked => .error (.refused (.read (s.pathOf slot)))
  | .present items =>
    match items.lookup (fileName slot) with
    | none => .ok none
    | some .folder => .error (.refused (.read (s.pathOf slot)))
    | some (.file bytes) =>
      match Snapshot.load bytes with
      | .ok entries => .ok (some entries)
      | .error error => .error (.unreadable error)

def insertSorted (n : Nat) : List Nat → List Nat
  | [] => [n]
  | m :: ms => if n ≤ m then n :: m :: ms else m :: insertSorted n ms

def list (s : Slots) : Except SlotError (List Nat) :=
  match s.folder with
  | .absent => .ok []
  | .blocked => .error (.refused .readFolder)
  | .present items => .ok ((items.filterMap fun item => slotOf? item.1).foldr insertSorted [])

def delete (slot : Nat) (s : Slots) : Except SlotError Slots :=
  match s.folder with
  | .absent => .error (.notFound slot)
  | .blocked => .error (.refused (.delete (s.pathOf slot)))
  | .present items =>
    match items.lookup (fileName slot) with
    | none => .error (.notFound slot)
    | some .folder => .error (.refused (.delete (s.pathOf slot)))
    | some (.file _) => .ok { s with folder := .present (items.filter (·.1 ≠ fileName slot)) }

end Slots

end Plotline
