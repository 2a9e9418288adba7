import Plotline.Scene.Basic

/-!
Which node runs. A request starts its node at once if no node is active and waits otherwise. Whenever the
active node ends, waiting requests are released until one of them runs.
-/

namespace Plotline.Scene

/-- What became of an attempt to begin a node. -/
inductive Begun
  | refused
  | running
  /-- The program was empty, and the node has ended already. -/
  | ended
  deriving DecidableEq, Repr

def enqueue (runner : RunnerId) (node : NodeId) (s : Scene) : Scene :=
  { s with
    pending := s.pending ++ [⟨runner, node, s.nextSequence⟩]
    nextSequence := s.nextSequence + 1
    channel := s.channel.note (.queued runner node s.nextSequence) }

/-- Completes a node of a runner that is still there. -/
def completeNode (runner : RunnerId) (node : NodeId) (s : Scene) : Scene :=
  match s.runner? runner with
  | none => s
  | some r =>
    let (_, r, ch) := r.completeNode node s.channel
    s.putRunner r ch

/-- Ends a node: completes it, hands out the rewards, and makes its end known. -/
def close (runner : RunnerId) (node : NodeId) (rewards : List Reward) (s : Scene) : Scene :=
  let s := { s with active := none }.completeNode runner node
  let ch := if rewards.isEmpty then s.channel else s.channel.cue (.rewards rewards)
  { s with channel := ch.publish (.programFinished runner node rewards) }

/-- Begins a node without regard to what is active. -/
def beginNode (runner : RunnerId) (node : NodeId) (s : Scene) : Begun × Scene :=
  match s.runner? runner with
  | none => (.refused, s.note (.startForUnknownRunner runner node))
  | some r =>
    let (program, r, ch) := r.beginNode node s.channel
    let s := s.putRunner r ch
    match program with
    | none => (.refused, s)
    | some program =>
      if program.isEmpty then (.ended, (s.note (.emptyProgram runner node)).close runner node [])
      else
        let (result, interpreter, journal) := s.interpreter.start program s.channel.journal
        let s := { s with interpreter, channel := { s.channel with journal } }
        match result with
        | .ok () => (.running, { s with active := some (runner, node) })
        | .error error => (.refused, (s.note (.couldNotStart runner node error)).completeNode runner node)

/-- Releases the given requests in turn while no node is active; the others go on waiting. -/
def releaseAll : List Request → Scene → Scene
  | [], s => { s with pending := [] }
  | request :: rest, s =>
    if s.isEventRunning then { s with pending := request :: rest }
    else
      let s := { s with pending := rest }.note (.releasing request.runner request.node request.sequence)
      releaseAll rest (s.beginNode request.runner request.node).2

def release (s : Scene) : Scene := if s.isEventRunning then s else releaseAll s.releaseOrder s

/-- Starts a node, and says whether its program runs now. -/
def startNode (runner : RunnerId) (node : NodeId) (s : Scene) : Bool × Scene :=
  match s.beginNode runner node with
  | (.running, s) => (true, s)
  | (.ended, s) => (false, s.release)
  | (.refused, s) => (false, s)

def tryStart (runner : RunnerId) (node : NodeId) (s : Scene) : Scene :=
  if s.isEventRunning then s.enqueue runner node else (s.startNode runner node).2

def tryStartAll (runner : RunnerId) (nodes : List NodeId) (s : Scene) : Scene :=
  nodes.foldl (fun s node => s.tryStart runner node) s

def finishActive (rewards : List Reward) (s : Scene) : Scene :=
  match s.active with
  | none => s
  | some (runner, node) => (s.close runner node rewards).release

/-! ### Beginning the story -/

def leastPriority? (s : Scene) : Option Int :=
  match s.runners.map (·.priority) with
  | [] => none
  | p :: ps => some (ps.foldl min p)

/-- The runners that begin the story: of those with the smallest priority all, if they are on equal footing,
and else the first. -/
def openers (s : Scene) : List Runner :=
  match s.leastPriority? with
  | none => []
  | some least =>
    let candidates := s.runners.filter (·.priority = least)
    if least = s.settings.equalFootingPriority then candidates else candidates.take 1

def kickstartRunner (s : Scene) (r : Runner) : Scene :=
  match r.startNode? with
  | some node => (s.note (.kickstarted r.id node)).tryStart r.id node
  | none => s.note (.noStartNode r.id)

/-- The story begins once. -/
def kickstart (s : Scene) : Scene :=
  if s.kickstarted then s
  else
    let s := { s with kickstarted := true }
    s.openers.foldl kickstartRunner s

/-! ### Runners that come and go -/

/-- Adds a runner under a new id. Nodes that are ready at once are requested. -/
def register (r : Runner) (s : Scene) : Except SceneError Unit × Scene :=
  match s.runner? r.id with
  | some _ => (.error (.duplicateRunner r.id), s.note (.registeredTwice r.id))
  | none =>
    let (ready, r, ch) := r.setUp s.channel
    let s :=
      { s with
        runners := insertRunner r s.runners
        channel := ch.note (.registered r.id r.priority) }
    (.ok (), s.tryStartAll r.id ready)

def registerAll : List RunnerDefinition → Scene → Except SceneError Unit × Scene
  | [], s => (.ok (), s)
  | d :: ds, s =>
    match s.register (.ofDefinition d) with
    | (.error error, s) => (.error error, s)
    | (.ok (), s) => registerAll ds s

def ofPackage (package : StoryPackage) (settings : Settings) (stage : Stage) : Except SceneError Unit × Scene :=
  registerAll package.runners (empty settings stage)

/-- Removes a runner with its subscriptions and requests, unless its program is executing. -/
def unregister (id : RunnerId) (s : Scene) : Except SceneError Runner × Scene :=
  match s.runner? id with
  | none => (.error (.unknownRunner id), s.note (.unregisterOfUnknown id))
  | some r =>
    match s.active.filter (·.1 = id) with
    | some (_, node) => (.error (.runnerBusy id node), s.note (.unregisterOfBusy id node))
    | none =>
      let (r, ch) := r.takeDown s.channel
      (.ok r,
        { s with
          pending := s.pending.filter (·.runner ≠ id)
          runners := s.runners.filter (·.id ≠ id)
          channel := ch.note (.unregistered id) })

/-! ### Requests from outside -/

def publish (event : StoryEvent) (s : Scene) : Scene := { s with channel := s.channel.publish event }

def enterArea (area : String) (s : Scene) : Scene := s.publish (.areaEntered area)

def interact (interaction : String) (s : Scene) : Scene := s.publish (.interactionTriggered interaction)

def trigger (runner : RunnerId) (node : NodeId) (s : Scene) : Except SceneError Scene :=
  match s.runner? runner with
  | none => .error (.unknownRunner runner)
  | some r => if r.contains node then .ok (s.tryStart runner node) else .error (.unknownNode runner node)

def observe (topic : Topic) (s : Scene) : SubscriptionId × Scene :=
  let (id, ch) := s.channel.subscribe topic .observer
  (id, { s with channel := ch })

def stopObserving (id : SubscriptionId) (s : Scene) : Bool × Scene :=
  (s.channel.bus.holds id, { s with channel := s.channel.unsubscribe id })

def continueInput (s : Scene) : Except SceneError Scene :=
  s.interpreter.continueInput.map fun interpreter => { s with interpreter }

def selectChoice (index : Nat) (s : Scene) : Except SceneError Scene :=
  (s.interpreter.selectChoice index s.channel.journal).map fun (interpreter, journal) =>
    { s with interpreter, channel := { s.channel with journal } }

def requestSkip (s : Scene) : Scene := { s with interpreter := s.interpreter.requestSkip }

end Plotline.Scene
