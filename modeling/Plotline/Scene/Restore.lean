import Plotline.Scene.Schedule

/-!
Saved games of a whole scene.
-/

namespace Plotline.Scene

def capture (s : Scene) : List SnapshotEntry := s.runners.map (·.capture)

/-- Restores the runner that an entry names, and collects the nodes that are to start. -/
def restoreEntry (state : List (RunnerId × NodeId) × Scene) (entry : SnapshotEntry) :
    List (RunnerId × NodeId) × Scene :=
  let (ready, s) := state
  match s.runner? entry.runner with
  | none => (ready, s.note (.unknownSnapshotRunner entry.runner))
  | some r =>
    let active := (s.active.filter (·.1 = entry.runner)).map (·.2)
    let (nodes, r, journal) := r.restore entry s.settings.restorePolicy active s.channel.journal
    (ready ++ nodes.map (entry.runner, ·), s.putRunner r { s.channel with journal })

/-- Starts a node unless a request for it waits already. -/
def startUnlessWaiting (s : Scene) (target : RunnerId × NodeId) : Scene :=
  if s.pending.any fun q => q.runner = target.1 && q.node = target.2 then s else s.tryStart target.1 target.2

/-- Restores what the entries show. Requests for nodes that have started by their account are dropped. -/
def restore (entries : List SnapshotEntry) (s : Scene) : Scene :=
  let (ready, s) := entries.foldl restoreEntry ([], s)
  let s := { s with pending := s.pending.filter fun q => s.statusOf? q.runner q.node = some .notStarted }
  (ready.foldl startUnlessWaiting s).release

end Plotline.Scene
