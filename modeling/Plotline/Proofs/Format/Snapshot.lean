import Plotline.Format.Snapshot
import Plotline.Proofs.Json.Written

/-!
What is saved can be loaded. Each part of an entry is read back from its JSON, and the bytes are read back as the text
they encode.
-/

namespace Plotline

open Decoder

theorem NodeStatus.json_reads (status : NodeStatus) : decoder.Reads 0 status.json status := by
  have word : (natural UInt8.size "u8").Reads 0 status.json status.number := by
    apply natural_reads
    · cases status <;> decide
    · decide
  constructor
  · exact word.takes
  · intro s allows
    unfold decoder
    rw [word.reads s allows]
    cases status <;> rfl

theorem NodeState.json_reads (state : NodeState) : decoder.Reads 1 state.json state := by
  have written : Fields.Written 0
      (.cons (required "nodeId" nodeId) (.cons (required "status" NodeStatus.decoder) .nil))
      [("nodeId", .text state.node.text), ("status", state.status.json)] (state.node, state.status, ()) := by
    apply Fields.Written.given (text_reads state.node.text).map
    apply Fields.Written.given state.status.json_reads
    exact .nil
  exact record_reads _ _ written (by decide)

theorem SnapshotEntry.json_reads (entry : SnapshotEntry) : decoder.Reads 3 entry.json entry := by
  have nodes : (list NodeState.decoder).Reads 2 (.list (entry.nodes.map NodeState.json)) entry.nodes :=
    list_reads fun state _ => state.json_reads
  have written : Fields.Written 2
      (.cons (required "runnerId" runnerId)
        (.cons (required "storyboardName" storyboardName)
          (.cons (required "nodeStates" (list NodeState.decoder)) .nil)))
      [("runnerId", .text entry.runner.text), ("storyboardName", .text entry.storyboard.text),
        ("nodeStates", .list (entry.nodes.map NodeState.json))] (entry.runner, entry.storyboard, entry.nodes, ()) := by
    apply Fields.Written.given ((text_reads entry.runner.text).map.mono (by decide))
    apply Fields.Written.given ((text_reads entry.storyboard.text).map.mono (by decide))
    apply Fields.Written.given nodes
    exact .nil
  exact record_reads _ _ written (by decide)

theorem Utf8.read_toUTF8 (text : String) : Utf8.read text.toUTF8 = .ok text := by
  unfold Utf8.read String.fromUTF8?
  rw [String.toUTF8_eq_toByteArray, dif_pos text.isValidUTF8]
  rfl

namespace Snapshot

/-- Loading what was saved gives the entries that were saved. -/
theorem load_save (entries : List SnapshotEntry) : load (save entries) = .ok entries := by
  have each : (list SnapshotEntry.decoder).Reads 4 (.list (entries.map SnapshotEntry.json)) entries :=
    list_reads fun entry _ => entry.json_reads
  have read := each.ofText (by decide)
  unfold load save
  rw [Utf8.read_toUTF8]
  dsimp only [text]
  rw [read_renderPretty, read]

end Snapshot

end Plotline
