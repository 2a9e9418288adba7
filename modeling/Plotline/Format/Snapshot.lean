import Plotline.Format.Program
import Plotline.Story.Snapshot
import Plotline.Text.Utf8

/-!
Saved games as bytes: a list of entries, written as indented JSON.
-/

namespace Plotline

open Decoder

namespace NodeStatus

/-- A status is written as its number. -/
def decoder : Decoder NodeStatus := fun s doc => do
  let n ← natural UInt8.size "u8" s doc
  match ofNumber? n with
  | some status => return status
  | none => misfit (.invalidStatus n)

def json (s : NodeStatus) : Json := .natural s.number

end NodeStatus

namespace NodeState

def decoder : Decoder NodeState :=
  record "struct NodeState" (.cons (required "nodeId" nodeId) (.cons (required "status" NodeStatus.decoder) .nil))
    fun (node, status, ()) => { node, status }

def json (s : NodeState) : Json := .object [("nodeId", .text s.node.text), ("status", s.status.json)]

end NodeState

namespace SnapshotEntry

def decoder : Decoder SnapshotEntry :=
  record "struct SnapshotEntry"
    (.cons (required "runnerId" runnerId)
      (.cons (required "storyboardName" storyboardName)
        (.cons (required "nodeStates" (list NodeState.decoder)) .nil)))
    fun (runner, storyboard, nodes, ()) => { runner, storyboard, nodes }

def json (e : SnapshotEntry) : Json :=
  .object
    [("runnerId", .text e.runner.text), ("storyboardName", .text e.storyboard.text),
      ("nodeStates", .list (e.nodes.map NodeState.json))]

end SnapshotEntry

inductive LoadError
  | notText (fault : Utf8Fault)
  | unreadable (error : ReadError)
  deriving DecidableEq, Repr

def LoadError.message : LoadError → String
  | notText fault => fault.message
  | unreadable error => error.message

namespace Snapshot

def text (entries : List SnapshotEntry) : String := (Json.list (entries.map SnapshotEntry.json)).renderPretty

def save (entries : List SnapshotEntry) : ByteArray := (text entries).toUTF8

/-- Reads back what `save` writes, and any other text of the same shape. -/
def load (bytes : ByteArray) : Except LoadError (List SnapshotEntry) :=
  match Utf8.read bytes with
  | .error fault => .error (.notText fault)
  | .ok text =>
    match (list SnapshotEntry.decoder).read text with
    | .error error => .error (.unreadable error)
    | .ok entries => .ok entries

end Snapshot

end Plotline
