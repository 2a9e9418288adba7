import Plotline.Interpreter.Basic
import Plotline.Runner.Restore

/-!
The scene: all runners of a story, the bus between them, and the one interpreter that they share. At most one
node is active; requests that come while it runs wait.
-/

namespace Plotline

/-- A request to start a node, numbered in the order of arrival. -/
structure Request where
  runner : RunnerId
  node : NodeId
  sequence : Nat
  deriving DecidableEq, Repr

/-- Runners are kept in the order of their ids. -/
structure Scene where
  settings : SchedulingSettings
  stage : Stage
  interpreter : Interpreter
  channel : Channel := {}
  runners : List Runner := []
  pending : List Request := []
  nextSequence : Nat := 0
  active : Option (RunnerId × NodeId) := none
  kickstarted : Bool := false

namespace Scene

def empty (settings : Settings) (stage : Stage) : Scene :=
  { settings := settings.scheduling, stage, interpreter := .ofSettings settings.interpreter }

def note (n : Note) (s : Scene) : Scene := { s with channel := s.channel.note n }

def runner? (s : Scene) (id : RunnerId) : Option Runner := s.runners.find? (·.id = id)

/-- Puts a changed runner in the place of the one with its id. -/
def putRunner (r : Runner) (ch : Channel) (s : Scene) : Scene :=
  { s with runners := s.runners.map fun x => if x.id = r.id then r else x, channel := ch }

def insertRunner (r : Runner) : List Runner → List Runner
  | [] => [r]
  | x :: xs => if x.id.before r.id then x :: insertRunner r xs else r :: x :: xs

def isEventRunning (s : Scene) : Bool := s.active.isSome

def statusOf? (s : Scene) (runner : RunnerId) (node : NodeId) : Option NodeStatus :=
  (s.runner? runner).bind (·.statusOf? node)

/-- Requests of a runner that is gone come last. -/
def priorityOf (s : Scene) (runner : RunnerId) : Int := ((s.runner? runner).map (·.priority)).getD 2147483647

/-- The first request is released before the second: its runner has the smaller priority, or it came first. -/
def goesBefore (s : Scene) (a b : Request) : Bool :=
  s.priorityOf a.runner < s.priorityOf b.runner
    || (s.priorityOf a.runner = s.priorityOf b.runner && a.sequence ≤ b.sequence)

def insertRequest (s : Scene) (a : Request) : List Request → List Request
  | [] => [a]
  | b :: rest => if s.goesBefore a b then a :: b :: rest else b :: s.insertRequest a rest

def releaseOrder (s : Scene) : List Request := s.pending.foldr s.insertRequest []

def flush (s : Scene) : Journal × Scene :=
  let (j, ch) := s.channel.flush
  (j, { s with channel := ch })

end Scene

end Plotline
