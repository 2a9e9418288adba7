import Plotline.Bus.Channel
import Plotline.Story.Snapshot
import Plotline.Story.Storyboard

/-!
Runners. A runner owns a storyboard and keeps the statuses of its nodes. Of several nodes with one id the
first is the node; it is the one whose conditions are subscribed.
-/

namespace Plotline

/-- Before it is set up a runner knows no statuses and holds no subscriptions. -/
structure Runner where
  id : RunnerId
  priority : Int
  storyboard : Storyboard
  statuses : StatusTable := []
  subscriptions : List SubscriptionId := []
  deriving DecidableEq, Repr

namespace Runner

def ofDefinition (d : RunnerDefinition) : Runner :=
  { id := d.id, priority := d.priority, storyboard := d.storyboard }

def statusOf? (r : Runner) (node : NodeId) : Option NodeStatus := r.statuses.get? node

def contains (r : Runner) (node : NodeId) : Bool := (r.statusOf? node).isSome

/-- The first node with the id, once the runner is set up. -/
def node? (r : Runner) (node : NodeId) : Option Node :=
  if r.contains node then r.storyboard.node? node else none

def startNode? (r : Runner) : Option NodeId := r.storyboard.startNode?.map (·.id)

def inProgress (r : Runner) : List NodeId :=
  (r.storyboard.nodes.filter fun n => r.statusOf? n.id = some .inProgress).map (·.id)

def setStatus (node : NodeId) (status : NodeStatus) (r : Runner) : Runner :=
  { r with statuses := r.statuses.set node status }

def mapNodes (f : Node → Node) (r : Runner) : Runner :=
  { r with storyboard := { r.storyboard with nodes := r.storyboard.nodes.map f } }

def modifyFirst {α : Type} (p : α → Bool) (f : α → α) : List α → List α
  | [] => []
  | x :: xs => if p x then f x :: xs else x :: modifyFirst p f xs

def modifyNode (node : NodeId) (f : Node → Node) (r : Runner) : Runner :=
  { r with storyboard := { r.storyboard with nodes := modifyFirst (·.id = node) f r.storyboard.nodes } }

/-! ### Setting up and taking down -/

def conditionHandles (r : Runner) : List SubscriptionId :=
  r.storyboard.nodes.flatMap fun n => n.conditions.filterMap (·.subscription)

def takeDown (r : Runner) (ch : Channel) : Runner × Channel :=
  let ch := (ch.unsubscribeAll r.subscriptions).unsubscribeAll r.conditionHandles
  ({ r.mapNodes (·.mapConditions fun c => { c with subscription := none }) with subscriptions := [] }, ch)

/-- A status for each id, and what there is to say about the nodes. -/
def enlist (runner : RunnerId) (statuses : StatusTable) (j : Journal) : List Node → StatusTable × Journal
  | [] => (statuses, j)
  | n :: nodes =>
    if (statuses.get? n.id).isSome then enlist runner statuses (j.note (.duplicateNode runner n.id)) nodes
    else
      let j :=
        if n.archetype.accepts n.program.archetype then j
        else j.note (.foreignProgram runner n.id n.archetype n.program.archetype)
      enlist runner (statuses ++ [(n.id, .notStarted)]) j nodes

/-- Resets and subscribes the conditions from the one with number `index` on. -/
def subscribeConditions (runner : RunnerId) (node : NodeId) (index : Nat) (ch : Channel) :
    List Condition → List Condition × Channel
  | [] => ([], ch)
  | c :: conditions =>
    let (id, ch) := ch.subscribe c.kind.topic (.condition ⟨runner, node, index⟩)
    let (rest, ch) := subscribeConditions runner node (index + 1) ch conditions
    ({ c with satisfied := false, subscription := some id } :: rest, ch)

/-- Subscribes the conditions of every node whose id is new. -/
def subscribeNodes (runner : RunnerId) (seen : List NodeId) (ch : Channel) : List Node → List Node × Channel
  | [] => ([], ch)
  | n :: nodes =>
    if seen.contains n.id then
      let (rest, ch) := subscribeNodes runner seen ch nodes
      (n :: rest, ch)
    else
      let (conditions, ch) := subscribeConditions runner n.id 0 ch n.conditions
      let (rest, ch) := subscribeNodes runner (n.id :: seen) ch nodes
      ({ n with conditions } :: rest, ch)

def ownTopics : List Topic := [.jumpRequested, .triggerRequested]

/-- Shows the statuses to the conditions of the nodes that have not started and are `included`; the nodes that
become ready by that are returned. -/
def evaluate (included : Node → Bool) (r : Runner) (j : Journal) : List NodeId × Runner × Journal :=
  let affected := fun n : Node => r.statusOf? n.id = some .notStarted && included n
  let settled := fun n : Node => n.mapConditions (·.settle r.statuses)
  let changed := fun n : Node => n.conditions.any (·.newlySettled r.statuses)
  let ready := r.storyboard.nodes.filter fun n => affected n && changed n && (settled n).isReady
  let kinds := (r.storyboard.nodes.filter affected).flatMap fun n =>
    (n.conditions.filter (·.newlySettled r.statuses)).map (·.kind)
  (ready.map (·.id), r.mapNodes (fun n => if affected n then settled n else n),
    j.notes (kinds.map .satisfiedByStatus))

/-- Sets the runner up from the start, whatever went before, and returns the nodes that are ready at once. -/
def setUp (r : Runner) (ch : Channel) : List NodeId × Runner × Channel :=
  let (r, ch) := r.takeDown ch
  let (statuses, journal) := enlist r.id [] ch.journal r.storyboard.nodes
  let (nodes, ch) := subscribeNodes r.id [] { ch with journal } r.storyboard.nodes
  let (jumps, ch) := ch.subscribe .jumpRequested (.runner r.id)
  let (triggers, ch) := ch.subscribe .triggerRequested (.runner r.id)
  let r :=
    { r with
      storyboard := { r.storyboard with nodes }
      statuses
      subscriptions := [jumps, triggers] }
  let ch := ch.note (.initialized r.id r.storyboard.name statuses.length)
  let (ready, r, journal) := r.evaluate (fun _ => true) ch.journal
  (ready, r, { ch with journal })

/-! ### Running nodes -/

/-- Delivers an event to one condition, and returns the node if that was the last thing it waited for. -/
def deliver (key : ConditionKey) (event : StoryEvent) (r : Runner) (j : Journal) :
    Option NodeId × Runner × Journal :=
  match (r.node? key.node).bind (·.conditions[key.index]?) with
  | none => (none, r, j)
  | some condition =>
    if condition.newlyMatched event then
      let r := r.modifyNode key.node fun n =>
        { n with conditions := n.conditions.modify key.index (·.deliver event) }
      let j := j.note (.satisfied condition.kind)
      if r.statusOf? key.node = some .notStarted then
        if ((r.node? key.node).map (·.isReady)).getD false then (some key.node, r, j) else (none, r, j)
      else (none, r, j.note (.conditionIgnored r.id key.node (r.statusOf? key.node)))
    else (none, r, j)

/-- Marks a node that has not started as in progress and hands out its program. -/
def beginNode (node : NodeId) (r : Runner) (ch : Channel) : Option Program × Runner × Channel :=
  match r.statusOf? node with
  | none => (none, r, ch.note (.startOfUnknownNode r.id node))
  | some .notStarted =>
    match r.node? node with
    | none => (none, r, ch)
    | some n =>
      let ch := ch.publish (.nodeStarted r.id r.storyboard.name node)
      (some n.program, r.setStatus node .inProgress, ch.note (.nodeStarted r.id node))
  | some status => (none, r, ch.note (.startIgnored r.id node status))

/-- A repeatable node waits again from the start. -/
def rearm (node : NodeId) (r : Runner) (ch : Channel) : Runner × Channel :=
  match r.node? node with
  | some n =>
    if n.isRepeatable then
      ((r.modifyNode node (·.mapConditions (·.reset))).setStatus node .notStarted,
        ch.note (.nodeRearmed r.id node))
    else (r, ch)
  | none => (r, ch)

/-- Completes a node in progress; any other is left alone. -/
def completeNode (node : NodeId) (r : Runner) (ch : Channel) : Bool × Runner × Channel :=
  if r.statusOf? node = some .inProgress then
    let ch := ch.publish (.nodeCompleted r.id r.storyboard.name node)
    let (r, ch) := rearm node (r.setStatus node .completed) (ch.note (.nodeCompleted r.id node))
    (true, r, ch)
  else (false, r, ch.note (.notInProgress r.id node))

def completeAll (nodes : List NodeId) (r : Runner) (ch : Channel) : Runner × Channel :=
  nodes.foldl (fun (r, ch) node => (r.completeNode node ch).2) (r, ch)

/-- A jump into the runner's storyboard completes what is in progress there, the node to keep apart. -/
def receiveJump (storyboard : StoryboardName) (keep : Option NodeId) (r : Runner) (ch : Channel) :
    Bool × Runner × Channel :=
  if storyboard = r.storyboard.name then
    (true, r.completeAll (r.inProgress.filter fun node => some node ≠ keep) ch)
  else (false, r, ch)

/-! ### Saved games -/

def capture (r : Runner) : SnapshotEntry :=
  { runner := r.id
    storyboard := r.storyboard.name
    nodes := r.storyboard.nodes.filterMap fun n => (r.statusOf? n.id).map fun status => ⟨n.id, status⟩ }

end Runner

end Plotline
