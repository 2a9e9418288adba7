import Mathlib.Logic.Relation
import Plotline.Proofs.Runner.Fresh
import Plotline.Proofs.Runner.Latch
import Plotline.Proofs.Scene.Operation
import Plotline.Proofs.Scene.Registry

/-!
What a scene can do in one step. Every operation is a sequence of such steps, so that an invariant has to be
looked at once for each kind of step, whatever calls whatever.
-/

namespace Plotline.Scene

/-- A scene in the midst of an operation. The events that are `due` were taken from the queue and are not settled
yet; while a scene is `releasing`, waiting requests are taken up as soon as no node is active. -/
structure Moment where
  scene : Scene
  due : List StoryEvent := []
  releasing : Bool := false

/-- A moment, with the node that was `called` for and has to be dealt with before anything else. -/
structure Turn extends Moment where
  called : Option (RunnerId × NodeId) := none

/-- No request waits in vain: a node is active, or none waits at all. -/
def Attended (s : Scene) : Prop := s.isEventRunning = true ∨ s.pending = []

/-- The node can run more than once. -/
def repeats (s : Scene) (runner : RunnerId) (node : NodeId) : Bool :=
  ((s.runner? runner).map (·.repeats node)).getD false

def condition? (s : Scene) (key : ConditionKey) : Option Condition :=
  (s.runner? key.runner).bind (·.condition? key.node key.index)

/-- If the event matches the condition of a node that runs only once, the condition is satisfied. -/
def Hears (s : Scene) (key : ConditionKey) (event : StoryEvent) : Prop :=
  ∀ c, s.condition? key = some c → s.repeats key.runner key.node = false → c.kind.matchedBy event = true →
    c.satisfied = true

/-- One step in the course of an operation. Only if it is `returning` may a jump complete its origin while that is
active again, and only `past` the gate is a node begun while another is active. -/
inductive Step (op : Operation) (returning past : Prop) : Turn → Turn → Prop
  | quiet {m : Moment} {ch : Channel} (grown : m.scene.channel.Quiet ch) :
      Step op returning past ⟨m, none⟩ ⟨{ m with scene := { m.scene with channel := ch } }, none⟩
  | kickstarted {m : Moment} :
      Step op returning past ⟨m, none⟩ ⟨{ m with scene := { m.scene with kickstarted := true } }, none⟩
  | directed {m : Moment} {i : Interpreter} {ch : Channel} (program : i.program = m.scene.interpreter.program)
      (emitted : i.emitted = m.scene.interpreter.emitted) (grown : m.scene.channel.Quiet ch) :
      Step op returning past ⟨m, none⟩
        ⟨{ m with scene := { m.scene with interpreter := i, channel := ch } }, none⟩
  -- Requests
  | called {m : Moment} (target : RunnerId × NodeId)
      (known : op.Plays → (m.scene.statusOf? target.1 target.2).isSome = true) :
      Step op returning past ⟨m, none⟩ ⟨m, some target⟩
  | queued {m : Moment} {runner : RunnerId} {node : NodeId} (held : m.scene.isEventRunning = true) :
      Step op returning past ⟨m, some (runner, node)⟩
        ⟨{ m with scene := m.scene.enqueue runner node }, none⟩
  | reordered {m : Moment} {pending : List Request} (same : m.scene.pending.Perm pending) :
      Step op returning past ⟨m, none⟩ ⟨{ m with scene := { m.scene with pending } }, none⟩
  | releases {m : Moment} : Step op returning past ⟨m, none⟩ ⟨{ m with releasing := true }, none⟩
  | taken {m : Moment} {request : Request} {pending : List Request} (releasing : m.releasing = true)
      (free : m.scene.active = none) (first : m.scene.pending = request :: pending) :
      Step op returning past ⟨m, none⟩
        ⟨{ m with
            scene := { m.scene with pending }.note (.releasing request.runner request.node request.sequence) },
          some (request.runner, request.node)⟩
  | released {m : Moment} (done : m.scene.Attended) :
      Step op returning past ⟨m, none⟩ ⟨{ m with releasing := false }, none⟩
  -- Nodes
  | unknown {m : Moment} {runner : RunnerId} {node : NodeId} (free : m.scene.active = none ∨ past)
      (missing : m.scene.runner? runner = none) :
      Step op returning past ⟨m, some (runner, node)⟩
        ⟨{ m with scene := m.scene.note (.startForUnknownRunner runner node) }, none⟩
  | refused {m : Moment} {runner : RunnerId} {node : NodeId} {x : Runner} (free : m.scene.active = none ∨ past)
      (found : m.scene.runner? runner = some x) (unready : x.statusOf? node ≠ some .notStarted) :
      Step op returning past ⟨m, some (runner, node)⟩ ⟨{ m with scene := m.scene.note (x.refusal node) }, none⟩
  | started {m : Moment} {runner : RunnerId} {node : NodeId} {x : Runner} {d : Node} {i : Interpreter}
      {ch : Channel} (free : m.scene.active = none ∨ past) (found : m.scene.runner? runner = some x)
      (waiting : x.statusOf? node = some .notStarted) (known : x.node? node = some d)
      (program : i.program = some d.program) (emitted : i.emitted = m.scene.interpreter.emitted)
      (grown : m.scene.channel.Grows [.nodeStarted runner x.storyboard.name node] [] ch)
      (opens : Journal.Opens (.note (.published (.nodeStarted runner x.storyboard.name node)))
        m.scene.channel.journal ch.journal) :
      Step op returning past ⟨m, some (runner, node)⟩
        ⟨{ m with
            scene :=
              { m.scene.putRunner (x.setStatus node .inProgress) ch with
                interpreter := i
                active := some (runner, node) } },
          none⟩
  /-- The program of the node is empty, so that it ends at once. -/
  | passed {m : Moment} {runner : RunnerId} {node : NodeId} {x : Runner} {ch : Channel}
      (free : m.scene.active = none ∨ past) (found : m.scene.runner? runner = some x)
      (waiting : x.statusOf? node = some .notStarted)
      (grown : m.scene.channel.Grows
        [.nodeStarted runner x.storyboard.name node, .nodeCompleted runner x.storyboard.name node,
          .programFinished runner node []] [] ch)
      (opens : Journal.Opens (.note (.published (.nodeStarted runner x.storyboard.name node)))
        m.scene.channel.journal ch.journal) :
      Step op returning past ⟨m, some (runner, node)⟩
        ⟨{ m with
            scene := { m.scene.putRunner ((x.setStatus node .inProgress).afterEnd node) ch with active := none }
            releasing := true },
          none⟩
  /-- Another program is loaded, so that the node ends without having run. -/
  | jammed {m : Moment} {runner : RunnerId} {node : NodeId} {x : Runner} {ch : Channel}
      (free : m.scene.active = none ∨ past) (busy : m.scene.interpreter.program ≠ none)
      (found : m.scene.runner? runner = some x) (waiting : x.statusOf? node = some .notStarted)
      (grown : m.scene.channel.Grows
        [.nodeStarted runner x.storyboard.name node, .nodeCompleted runner x.storyboard.name node] [] ch) :
      Step op returning past ⟨m, some (runner, node)⟩
        ⟨{ m with scene := m.scene.putRunner ((x.setStatus node .inProgress).afterEnd node) ch }, none⟩
  | resumed {m : Moment} {i : Interpreter} {ch : Channel} {triggers : List StoryEvent}
      (program : i.program = m.scene.interpreter.program) (emitted : i.emitted = [])
      (topics : ∀ event ∈ triggers, event.topic = .triggerRequested)
      (grown : m.scene.channel.Grows triggers [] ch) :
      Step op returning past ⟨m, none⟩
        ⟨{ m with scene := { m.scene with interpreter := i, channel := ch } }, none⟩
  | finished {m : Moment} {runner : RunnerId} {node : NodeId} {x : Runner} {rewards : List Reward}
      {i : Interpreter} {ch : Channel} {triggers : List StoryEvent} (active : m.scene.active = some (runner, node))
      (found : m.scene.runner? runner = some x) (program : i.program = none) (emitted : i.emitted = [])
      (topics : ∀ event ∈ triggers, event.topic = .triggerRequested)
      (grown : m.scene.channel.Grows (triggers ++ x.endNews node ++ [.programFinished runner node rewards])
        (if rewards.isEmpty then [] else [rewards]) ch) :
      Step op returning past ⟨m, none⟩
        ⟨{ m with
            scene := { m.scene.putRunner (x.afterEnd node) ch with interpreter := i, active := none }
            releasing := true },
          none⟩
  | branched {m : Moment} {runner : RunnerId} {node target : NodeId} {board : StoryboardName} {i : Interpreter}
      {ch : Channel} {triggers : List StoryEvent} (active : m.scene.active = some (runner, node))
      (program : i.program = none) (emitted : i.emitted = [])
      (topics : ∀ event ∈ triggers, event.topic = .triggerRequested)
      (grown : m.scene.channel.Grows (triggers ++ [.jumpRequested runner node board target]) [] ch) :
      Step op returning past ⟨m, none⟩
        ⟨{ m with scene := { m.scene with interpreter := i, channel := ch, active := none } }, none⟩
  /-- The program of a node that is no longer active has come to its end. -/
  | orphaned {m : Moment} {i : Interpreter} {ch : Channel} {triggers : List StoryEvent}
      (free : m.scene.active = none) (busy : m.scene.interpreter.program ≠ none) (program : i.program = none)
      (emitted : i.emitted = []) (topics : ∀ event ∈ triggers, event.topic = .triggerRequested)
      (grown : m.scene.channel.Grows triggers [] ch) :
      Step op returning past ⟨m, none⟩
        ⟨{ m with scene := { m.scene with interpreter := i, channel := ch } }, none⟩
  -- Delivery
  | batch {m : Moment} (asked : ∃ elapsed, op = .tick elapsed) :
      Step op returning past ⟨m, none⟩
        ⟨{ m with
            scene := { m.scene with channel := m.scene.channel.takeBatch.2 }
            due := m.due ++ m.scene.channel.bus.queue },
          none⟩
  | delivered {m : Moment} {key : ConditionKey} {event : StoryEvent} {rest : List StoryEvent} {x y : Runner}
      {ready : Option NodeId} {j : Journal} (first : m.due = event :: rest)
      (found : m.scene.runner? key.runner = some x)
      (made : x.deliver key event m.scene.channel.journal = (ready, y, j)) :
      Step op returning past ⟨m, none⟩
        ⟨{ m with scene := m.scene.putRunner y { m.scene.channel with journal := j } },
          ready.map fun node => (key.runner, node)⟩
  /-- A jump into the storyboard of a runner ends what is in progress there. -/
  | cleared {m : Moment} {x : Runner} {node : NodeId} {ch : Channel} (found : m.scene.runner? x.id = some x)
      (inactive : m.scene.active ≠ some (x.id, node)) (grown : m.scene.channel.Grows (x.endNews node) [] ch) :
      Step op returning past ⟨m, none⟩ ⟨{ m with scene := m.scene.putRunner (x.afterEnd node) ch }, none⟩
  | originEnded {m : Moment} {runner : RunnerId} {node target : NodeId} {board : StoryboardName}
      {rest : List StoryEvent} {x : Runner} {ch : Channel}
      (jump : m.due = .jumpRequested runner node board target :: rest)
      (back : m.scene.active = some (runner, node) → returning) (found : m.scene.runner? runner = some x)
      (grown : m.scene.channel.Grows (x.endNews node) [] ch) :
      Step op returning past ⟨m, none⟩ ⟨{ m with scene := m.scene.putRunner (x.afterEnd node) ch }, none⟩
  | settled {m : Moment} {event : StoryEvent} {rest : List StoryEvent} (first : m.due = event :: rest)
      (other : event.topic ≠ .jumpRequested)
      (heard : op.FromWorld → ∀ key id,
        m.scene.channel.bus.find? id = some ⟨id, event.topic, .condition key⟩ → m.scene.Hears key event) :
      Step op returning past ⟨m, none⟩ ⟨{ m with due := rest }, none⟩
  | jumpSettled {m : Moment} {runner : RunnerId} {node target : NodeId} {board : StoryboardName}
      {rest : List StoryEvent} (jump : m.due = .jumpRequested runner node board target :: rest)
      (ended : m.scene.statusOf? runner node ≠ some .inProgress) :
      Step op returning past ⟨m, none⟩ ⟨{ m with due := rest, releasing := true }, none⟩
  -- What only a host does
  | published {m : Moment} {event : StoryEvent} {ch : Channel} (asked : op = .publish event)
      (grown : m.scene.channel.Grows [event] [] ch) :
      Step op returning past ⟨m, none⟩ ⟨{ m with scene := { m.scene with channel := ch } }, none⟩
  | requested {m : Moment} {runner : RunnerId} {node : NodeId} (asked : op = .enqueue runner node) :
      Step op returning past ⟨m, none⟩ ⟨{ m with scene := m.scene.enqueue runner node }, none⟩
  | observes {m : Moment} {topic : Topic} (asked : op = .observe topic) :
      Step op returning past ⟨m, none⟩ ⟨{ m with scene := (m.scene.observe topic).2 }, none⟩
  | stopsObserving {m : Moment} {id : SubscriptionId} (asked : op = .stopObserving id) :
      Step op returning past ⟨m, none⟩ ⟨{ m with scene := (m.scene.stopObserving id).2 }, none⟩
  | joined {m : Moment} {x y : Runner} {ready : List NodeId} {ch : Channel} (asked : op = .register x)
      (fresh : m.scene.runner? y.id = none) (made : x.setUp m.scene.channel = (ready, y, ch)) :
      Step op returning past ⟨m, none⟩
        ⟨{ m with
            scene :=
              { m.scene with
                runners := insertRunner y m.scene.runners
                channel := ch.note (.registered y.id y.priority) } },
          none⟩
  | parted {m : Moment} {id : RunnerId} {x : Runner} (asked : op = .unregister id)
      (found : m.scene.runner? id = some x) (idle : ∀ node, m.scene.active ≠ some (id, node)) :
      Step op returning past ⟨m, none⟩
        ⟨{ m with
            scene :=
              { m.scene with
                pending := m.scene.pending.filter (·.runner ≠ id)
                runners := m.scene.runners.filter (·.id ≠ id)
                channel := (x.takeDown m.scene.channel).2.note (.unregistered id) } },
          none⟩
  | restored {m : Moment} {entries : List SnapshotEntry} {entry : SnapshotEntry} {x y : Runner}
      {nodes : List NodeId} {j : Journal} (asked : op = .restore entries) (member : entry ∈ entries)
      (found : m.scene.runner? entry.runner = some x)
      (made : x.restore entry m.scene.settings.restorePolicy
        ((m.scene.active.filter (·.1 = entry.runner)).map (·.2)) m.scene.channel.journal = (nodes, y, j)) :
      Step op returning past ⟨m, none⟩
        ⟨{ m with scene := m.scene.putRunner y { m.scene.channel with journal := j } }, none⟩
  | forgotten {m : Moment} {entries : List SnapshotEntry} (asked : op = .restore entries) :
      Step op returning past ⟨m, none⟩
        ⟨{ m with
            scene :=
              { m.scene with
                pending := m.scene.pending.filter fun q =>
                  m.scene.statusOf? q.runner q.node = some .notStarted } },
          none⟩

abbrev Turns (op : Operation) (returning past : Prop) : Turn → Turn → Prop :=
  Relation.ReflTransGen (Step op returning past)

/-- A sequence of steps, with nothing left to deal with at either end. -/
abbrev Steps (op : Operation) (returning past : Prop) (m m' : Moment) : Prop :=
  Turns op returning past ⟨m, none⟩ ⟨m', none⟩

end Plotline.Scene
