import Plotline.Scene.Schedule

/-!
One tick of a scene: the story begins if it has not, the queued events are delivered, and the running program
goes on. Events published on the way wait for the next tick.
-/

namespace Plotline.Scene

def deliverCondition (key : ConditionKey) (event : StoryEvent) (s : Scene) : Scene :=
  match s.runner? key.runner with
  | none => s
  | some r =>
    let (ready, r, journal) := r.deliver key event s.channel.journal
    let s := s.putRunner r { s.channel with journal }
    match ready with
    | none => s
    | some node => s.tryStart key.runner node

/-- Requests a node that the story names; a name without a node is an error of the story. -/
def startKnownNode (runner : RunnerId) (node : NodeId) (s : Scene) : Scene :=
  if ((s.runner? runner).map (·.contains node)).getD false then s.tryStart runner node
  else s.note (.dataError (.unknownNode runner node))

/-- Brings an event to a runner, and says whether it was meant for it. -/
def deliverRunner (id : RunnerId) (event : StoryEvent) (s : Scene) : Bool × Scene :=
  match event with
  | .triggerRequested target node => if target = id then (true, s.startKnownNode id node) else (false, s)
  | .jumpRequested _ _ storyboard node =>
    match s.runner? id with
    | none => (false, s)
    | some r =>
      let keep := (s.active.filter (·.1 = id)).map (·.2)
      match r.receiveJump storyboard keep s.channel with
      | (false, r, ch) => (false, s.putRunner r ch)
      | (true, r, ch) =>
        (true, ((s.putRunner r ch).note (.enteredStoryboard storyboard node)).startKnownNode id node)
  | _ => (false, s)

/-- Delivers an event to one subscription; the flag says whether some runner has claimed it. -/
def deliverTo (event : StoryEvent) (state : Bool × Scene) (id : SubscriptionId) : Bool × Scene :=
  let (claimed, s) := state
  let (route, ch) := s.channel.route id event
  let s := { s with channel := ch }
  match route with
  | some (.condition key) => (claimed, s.deliverCondition key event)
  | some (.runner runner) =>
    let (mine, s) := s.deliverRunner runner event
    (claimed || mine, s)
  | none => (claimed, s)

/-- After a jump has been delivered its origin is complete, and waiting requests may go on. -/
def settle (event : StoryEvent) (claimed : Bool) (s : Scene) : Scene :=
  match event with
  | .triggerRequested runner _ => if claimed then s else s.note (.triggerUnclaimed runner)
  | .jumpRequested originRunner originNode storyboard _ =>
    let s := if claimed then s else s.note (.dataError (.unknownStoryboard storyboard))
    let s :=
      if s.statusOf? originRunner originNode = some .inProgress then s.completeNode originRunner originNode else s
    s.release
  | _ => s

/-- Delivers an event to those who listen to its topic now. -/
def deliverEvent (s : Scene) (event : StoryEvent) : Scene :=
  let (claimed, s) := (s.channel.bus.subscribersOf event.topic).foldl (deliverTo event) (false, s)
  s.settle event claimed

def drain (s : Scene) : Scene :=
  let (events, ch) := s.channel.takeBatch
  events.foldl deliverEvent { s with channel := ch }

/-- The active node branches: the jump is delivered with the next tick. -/
def branchActive (target : NodeId) (storyboard : Option StoryboardName) (s : Scene) : Scene :=
  match s.active with
  | none => s
  | some (runner, node) =>
    let s := { s with active := none }
    match storyboard.or ((s.runner? runner).map (·.storyboard.name)) with
    | none => s.note (.branchFromUnknownRunner runner)
    | some storyboard =>
      (s.note (.branched runner node storyboard target)).publish (.jumpRequested runner node storyboard target)

/-- Lets the interpreter go on, and publishes what the program emitted. -/
def resume (elapsed : Duration) (s : Scene) : Option ProgramOutcome × Scene :=
  let (outcome, interpreter, journal) := s.interpreter.resume s.stage elapsed s.channel.journal
  let (emitted, interpreter) := interpreter.takeEmitted
  (outcome, { s with interpreter, channel := { s.channel with journal }.publishAll emitted })

/-- Runs programs until one waits or branches, or none is left. Every program but the first comes from a
waiting request, so that `rounds` need not exceed their number by more than one. -/
def pumpWithin (rounds : Nat) (elapsed : Duration) (s : Scene) : Scene :=
  match rounds with
  | 0 => s
  | rounds + 1 =>
    if s.interpreter.isRunning then
      match s.resume elapsed with
      | (none, s) => s
      | (some (.finished rewards), s) => pumpWithin rounds 0 (s.finishActive rewards)
      | (some (.branched target storyboard), s) => s.branchActive target storyboard
    else s

def pump (elapsed : Duration) (s : Scene) : Scene := s.pumpWithin (s.pending.length + 1) elapsed

def tick (elapsed : Duration) (s : Scene) : Scene := s.kickstart.drain.pump elapsed

end Plotline.Scene
