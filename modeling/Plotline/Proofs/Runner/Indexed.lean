import Plotline.Proofs.Runner.Restoration
import Plotline.Proofs.Runner.Tables

/-!
Runners that keep an index. Beside the statuses such a runner has a table of places, which says for each id where in
the storyboard its node stands, and it goes by these places wherever a runner searches through its nodes. As long as
the two tables index the nodes, both do the same.
-/

namespace Plotline.Runner

structure Indexed where
  runner : Runner
  places : PlaceTable := []
  deriving DecidableEq, Repr

namespace Indexed

def statusOf? (x : Indexed) (node : NodeId) : Option NodeStatus := x.runner.statusOf? node

def contains (x : Indexed) (node : NodeId) : Bool := (x.places.lookup node).isSome

def node? (x : Indexed) (node : NodeId) : Option Node :=
  (x.places.lookup node).bind (x.runner.storyboard.nodes[·]?)

def setStatus (node : NodeId) (status : NodeStatus) (x : Indexed) : Indexed :=
  { x with runner := x.runner.setStatus node status }

def modifyNode (node : NodeId) (f : Node → Node) (x : Indexed) : Indexed :=
  match x.places.lookup node with
  | some place => { x with runner.storyboard.nodes := x.runner.storyboard.nodes.modify place f }
  | none => x

/-! ### Setting up and taking down -/

/-- Taking a runner down leaves both tables as they are. -/
def takeDown (x : Indexed) (ch : Channel) : Indexed × Channel :=
  let (r, ch) := x.runner.takeDown ch
  ({ x with runner := r }, ch)

/-- Enters the nodes from the one at `place` on into both tables, each id once. -/
def register (runner : RunnerId) (place : Nat) (places : PlaceTable) (statuses : StatusTable) (j : Journal) :
    List Node → PlaceTable × StatusTable × Journal
  | [] => (places, statuses, j)
  | n :: nodes =>
    if (places.lookup n.id).isSome then
      register runner (place + 1) places statuses (j.note (.duplicateNode runner n.id)) nodes
    else
      let j :=
        if n.archetype.accepts n.program.archetype then j
        else j.note (.foreignProgram runner n.id n.archetype n.program.archetype)
      register runner (place + 1) (places ++ [(n.id, place)]) (statuses.set n.id .notStarted) j nodes

/-- Subscribes the conditions of every node that stands where the table has its id. -/
def subscribeNodes (runner : RunnerId) (places : PlaceTable) (place : Nat) (ch : Channel) :
    List Node → List Node × Channel
  | [] => ([], ch)
  | n :: nodes =>
    if places.lookup n.id ≠ some place then
      let (rest, ch) := subscribeNodes runner places (place + 1) ch nodes
      (n :: rest, ch)
    else
      let (conditions, ch) := subscribeConditions runner n.id 0 ch n.conditions
      let (rest, ch) := subscribeNodes runner places (place + 1) ch nodes
      ({ n with conditions } :: rest, ch)

/-- Builds both tables anew, whatever was in them. -/
def setUp (x : Indexed) (ch : Channel) : List NodeId × Indexed × Channel :=
  let (x, ch) := x.takeDown ch
  let r := x.runner
  let (places, statuses, journal) := register r.id 0 [] [] ch.journal r.storyboard.nodes
  let (nodes, ch) := subscribeNodes r.id places 0 { ch with journal } r.storyboard.nodes
  let (jumps, ch) := ch.subscribe .jumpRequested (.runner r.id)
  let (triggers, ch) := ch.subscribe .triggerRequested (.runner r.id)
  let r :=
    { r with
      storyboard := { r.storyboard with nodes }
      statuses
      subscriptions := [jumps, triggers] }
  let ch := ch.note (.initialized r.id r.storyboard.name places.length)
  let (ready, r, journal) := r.evaluate (fun _ => true) ch.journal
  (ready, ⟨r, places⟩, { ch with journal })

/-! ### Running nodes -/

def deliver (key : ConditionKey) (event : StoryEvent) (x : Indexed) (j : Journal) :
    Option NodeId × Indexed × Journal :=
  match (x.node? key.node).bind (·.conditions[key.index]?) with
  | none => (none, x, j)
  | some condition =>
    if condition.newlyMatched event then
      let x := x.modifyNode key.node fun n =>
        { n with conditions := n.conditions.modify key.index (·.deliver event) }
      let j := j.note (.satisfied condition.kind)
      if x.statusOf? key.node = some .notStarted then
        if ((x.node? key.node).map (·.isReady)).getD false then (some key.node, x, j) else (none, x, j)
      else (none, x, j.note (.conditionIgnored x.runner.id key.node (x.statusOf? key.node)))
    else (none, x, j)

def beginNode (node : NodeId) (x : Indexed) (ch : Channel) : Option Program × Indexed × Channel :=
  match x.statusOf? node with
  | none => (none, x, ch.note (.startOfUnknownNode x.runner.id node))
  | some .notStarted =>
    match x.node? node with
    | none => (none, x, ch)
    | some n =>
      let ch := ch.publish (.nodeStarted x.runner.id x.runner.storyboard.name node)
      (some n.program, x.setStatus node .inProgress, ch.note (.nodeStarted x.runner.id node))
  | some status => (none, x, ch.note (.startIgnored x.runner.id node status))

def rearm (node : NodeId) (x : Indexed) (ch : Channel) : Indexed × Channel :=
  match x.node? node with
  | some n =>
    if n.isRepeatable then
      ((x.modifyNode node (·.mapConditions (·.reset))).setStatus node .notStarted,
        ch.note (.nodeRearmed x.runner.id node))
    else (x, ch)
  | none => (x, ch)

def completeNode (node : NodeId) (x : Indexed) (ch : Channel) : Bool × Indexed × Channel :=
  if x.statusOf? node = some .inProgress then
    let ch := ch.publish (.nodeCompleted x.runner.id x.runner.storyboard.name node)
    let (x, ch) := rearm node (x.setStatus node .completed) (ch.note (.nodeCompleted x.runner.id node))
    (true, x, ch)
  else (false, x, ch.note (.notInProgress x.runner.id node))

def completeAll (nodes : List NodeId) (x : Indexed) (ch : Channel) : Indexed × Channel :=
  nodes.foldl (fun (x, ch) node => (x.completeNode node ch).2) (x, ch)

def receiveJump (storyboard : StoryboardName) (keep : Option NodeId) (x : Indexed) (ch : Channel) :
    Bool × Indexed × Channel :=
  if storyboard = x.runner.storyboard.name then
    (true, x.completeAll (x.runner.inProgress.filter fun node => some node ≠ keep) ch)
  else (false, x, ch)

/-! ### Saved games -/

/-- The recorded statuses of the nodes whose places are known, the `active` one apart. -/
def restoration (x : Indexed) (policy : RestorePolicy) (active : Option NodeId) :
    List NodeState → Restoration → Journal → Restoration × Journal
  | [], taken, j => (taken, j)
  | state :: states, taken, j =>
    if !x.contains state.node then
      restoration x policy active states taken (j.note (.unknownSnapshotNode x.runner.id state.node))
    else if some state.node = active then restoration x policy active states taken j
    else restoration x policy active states (taken.take policy state) j

def restore (entry : SnapshotEntry) (policy : RestorePolicy) (active : Option NodeId) (x : Indexed)
    (j : Journal) : List NodeId × Indexed × Journal :=
  let r := x.runner
  let j :=
    if entry.storyboard = r.storyboard.name then j
    else j.note (.foreignSnapshot r.id entry.storyboard r.storyboard.name)
  let (taken, j) := x.restoration policy active entry.nodes { statuses := r.statuses } j
  let r := r.rewound taken
  let j := j.note (.restored r.id entry.nodes.length taken.changed.length)
  if taken.changed.isEmpty then (appendNew taken.restart [], { x with runner := r }, j)
  else
    let (ready, r, j) := r.evaluate taken.includes j
    (appendNew taken.restart ready, { x with runner := r }, j)

end Indexed

/-! ### Going by the places -/

private theorem modifyFirst_eq (p : Node → Bool) (f : Node → Node) (nodes : List Node) :
    modifyFirst p f nodes = match nodes.findIdx? p with
      | some place => nodes.modify place f
      | none => nodes := by
  induction nodes with
  | nil => rfl
  | cons n nodes ih =>
      rw [modifyFirst, List.findIdx?_cons]
      split
      · rfl
      · rw [ih]
        cases nodes.findIdx? p <;> rfl

namespace Indexed

variable {x : Indexed}

/-- The places and the statuses index the nodes of the runner. -/
def Sound (x : Indexed) : Prop := Indexes x.runner.storyboard.nodes x.places x.runner.statuses

/-- The places beside what has become of the runner. -/
def beside {α : Type} (x : Indexed) : Runner × α → Indexed × α
  | (r, rest) => ({ x with runner := r }, rest)

/-- The answer is the runner's own, and the places are kept beside it. -/
def along {α β : Type} (x : Indexed) : α × Runner × β → α × Indexed × β
  | (answer, r) => (answer, x.beside r)

namespace Sound

theorem steady {r : Runner} (sound : x.Sound) (steady : Steady x.runner r) : { x with runner := r }.Sound :=
  sound.congr steady.ids steady.keys

theorem contains (sound : x.Sound) (node : NodeId) : x.contains node = x.runner.contains node :=
  (sound.known node).symm

theorem node? (sound : x.Sound) (node : NodeId) : x.node? node = x.runner.node? node := by
  have found : x.node? node = x.runner.storyboard.node? node := sound.found node
  unfold Runner.node?
  rw [← sound.contains]
  split
  · exact found
  · rename_i unknown
    have placeless : x.places.lookup node = none := Option.not_isSome_iff_eq_none.mp unknown
    unfold Indexed.node?
    rw [placeless]
    rfl

theorem modifyNode (sound : x.Sound) (node : NodeId) (f : Node → Node) :
    x.modifyNode node f = { x with runner := x.runner.modifyNode node f } := by
  unfold Indexed.modifyNode Runner.modifyNode
  rw [sound.first, modifyFirst_eq]
  split <;> rfl

theorem deliver (sound : x.Sound) (key : ConditionKey) (event : StoryEvent) (j : Journal) :
    x.deliver key event j = x.along (x.runner.deliver key event j) := by
  have latched := sound.modifyNode key.node fun n =>
    { n with conditions := n.conditions.modify key.index (·.deliver event) }
  have latches := modifyNode_steady key.node x.runner (f := fun n =>
    { n with conditions := n.conditions.modify key.index (·.deliver event) })
    (Node.unlatched_modify key.index (f := (·.deliver event)) fun _ => rfl)
  have still := (sound.steady latches).node? key.node
  unfold Indexed.deliver Runner.deliver Indexed.statusOf?
  rw [sound.node?]
  cases (x.runner.node? key.node).bind (·.conditions[key.index]?) with
  | none => rfl
  | some condition =>
      dsimp only
      rw [latched, still]
      split
      · split
        · split <;> rfl
        · rfl
      · rfl

theorem beginNode (sound : x.Sound) (node : NodeId) (ch : Channel) :
    x.beginNode node ch = x.along (x.runner.beginNode node ch) := by
  unfold Indexed.beginNode Runner.beginNode Indexed.statusOf?
  rw [sound.node?]
  cases x.runner.statusOf? node with
  | none => rfl
  | some status =>
      cases status with
      | notStarted => cases x.runner.node? node <;> rfl
      | inProgress => rfl
      | completed => rfl

private theorem rearm (sound : x.Sound) (node : NodeId) (ch : Channel) :
    x.rearm node ch = x.beside (x.runner.rearm node ch) := by
  unfold Indexed.rearm Runner.rearm
  rw [sound.node?, sound.modifyNode]
  cases x.runner.node? node with
  | none => rfl
  | some d => cases again : d.isRepeatable <;> simp [again, beside, Indexed.setStatus]

theorem completeNode (sound : x.Sound) (node : NodeId) (ch : Channel) :
    x.completeNode node ch = x.along (x.runner.completeNode node ch) := by
  unfold Indexed.completeNode Runner.completeNode Indexed.statusOf?
  split
  · rename_i running
    have completed : (x.setStatus node .completed).Sound :=
      sound.steady (setStatus_steady (contains_of_status running) .completed)
    dsimp only
    rw [completed.rearm]
    rfl
  · rfl

theorem completeAll (sound : x.Sound) (nodes : List NodeId) (ch : Channel) :
    x.completeAll nodes ch = x.beside (x.runner.completeAll nodes ch) := by
  induction nodes generalizing x ch with
  | nil => rfl
  | cons node nodes ih =>
      have rest := ih (sound.steady (x.runner.completeNode_steady node ch)) (x.runner.completeNode node ch).2.2
      calc x.completeAll (node :: nodes) ch
        _ = (x.completeNode node ch).2.1.completeAll nodes (x.completeNode node ch).2.2 := rfl
        _ = x.beside (x.runner.completeAll (node :: nodes) ch) := by
          rw [sound.completeNode]
          exact rest

theorem receiveJump (sound : x.Sound) (board : StoryboardName) (keep : Option NodeId) (ch : Channel) :
    x.receiveJump board keep ch = x.along (x.runner.receiveJump board keep ch) := by
  unfold Indexed.receiveJump Runner.receiveJump
  split
  · rw [sound.completeAll]
    rfl
  · rfl

private theorem restoration (sound : x.Sound) (policy : RestorePolicy) (active : Option NodeId)
    (states : List NodeState) (taken : Restoration) (j : Journal) :
    x.restoration policy active states taken j = x.runner.restoration policy active states taken j := by
  induction states generalizing taken j with
  | nil => rfl
  | cons state states ih =>
      unfold Indexed.restoration Runner.restoration
      rw [sound.contains, ih, ih, ih]

theorem restore (sound : x.Sound) (entry : SnapshotEntry) (policy : RestorePolicy) (active : Option NodeId)
    (j : Journal) : x.restore entry policy active j = x.along (x.runner.restore entry policy active j) := by
  unfold Indexed.restore Runner.restore
  dsimp only
  rw [sound.restoration]
  generalize x.runner.restoration policy active entry.nodes { statuses := x.runner.statuses } _ = result
  obtain ⟨taken, journal⟩ := result
  dsimp only
  split <;> rfl

end Sound

/-- From `x` on the same has been made as without an index, and the index is one of the same ids. -/
structure Follows {α : Type} (x : Indexed) (made : α × Indexed × Channel) (plain : α × Runner × Channel) : Prop where
  answer : made.1 = plain.1
  runner : made.2.1.runner = plain.2.1
  channel : made.2.2 = plain.2.2
  sound : made.2.1.Sound
  ids : made.2.1.runner.storyboard.nodes.map (·.id) = x.runner.storyboard.nodes.map (·.id)

theorem Follows.of_steady {α : Type} {made : α × Indexed × Channel} {plain : α × Runner × Channel}
    (sound : x.Sound) (steady : Steady x.runner plain.2.1) (same : made = x.along plain) :
    Follows x made plain := by
  subst same
  exact ⟨rfl, rfl, rfl, sound.steady steady, steady.ids⟩

/-! ### Building the tables -/

/-- The nodes that are entered so far stand before the others. -/
private theorem register_indexes (runner : RunnerId) {before : List Node} {places : PlaceTable}
    {statuses : StatusTable} (indexes : Indexes before places statuses) (j : Journal) (nodes : List Node) :
    ∃ places', register runner before.length places statuses j nodes = (places', enlist runner statuses j nodes) ∧
      Indexes (before ++ nodes) places' (enlist runner statuses j nodes).1 := by
  induction nodes generalizing before places statuses j with
  | nil => exact ⟨places, rfl, by simpa [enlist] using indexes⟩
  | cons n nodes ih =>
      have next : before.length + 1 = (before ++ [n]).length := by simp
      rw [List.append_cons]
      unfold register enlist
      rw [indexes.known, next]
      split
      · rename_i old
        exact ih (indexes.addOld old) _
      · rename_i new
        have absent : statuses.get? n.id = none := by
          rwa [← indexes.known, Option.not_isSome_iff_eq_none] at new
        rw [set_new absent]
        exact ih (indexes.addNew new .notStarted) _

/-- A node stands at the place of its id exactly if none before it has the id. -/
private theorem lookup_eq_length_iff {places : PlaceTable} {before nodes : List Node} {n : Node}
    (first : ∀ node, places.lookup node = (before ++ n :: nodes).findIdx? (·.id = node)) :
    places.lookup n.id = some before.length ↔ n.id ∉ before.map (·.id) := by
  have here : (n :: nodes).findIdx? (·.id = n.id) = some 0 := by simp [List.findIdx?_cons]
  rw [first, List.findIdx?_append, here, Option.map_some, Nat.zero_add]
  cases earlier : before.findIdx? (·.id = n.id) with
  | none =>
      refine iff_of_true rfl fun member => ?_
      obtain ⟨m, there, same⟩ := List.mem_map.mp member
      simpa [same] using List.findIdx?_eq_none_iff.mp earlier m there
  | some place =>
      obtain ⟨within, same, -⟩ := List.findIdx?_eq_some_iff_getElem.mp earlier
      refine iff_of_false (fun last => Nat.ne_of_lt within (Option.some.inj last)) fun absent => absent ?_
      exact List.mem_map.mpr ⟨before[place], List.getElem_mem within, of_decide_eq_true same⟩

/-- To stand at the place of one's id is to come first with it. -/
private theorem subscribeNodes_eq (runner : RunnerId) {places : PlaceTable} (before : List Node) {nodes : List Node}
    (first : ∀ node, places.lookup node = (before ++ nodes).findIdx? (·.id = node)) {seen : List NodeId}
    (entered : ∀ node, node ∈ seen ↔ node ∈ before.map (·.id)) (ch : Channel) :
    subscribeNodes runner places before.length ch nodes = Runner.subscribeNodes runner seen ch nodes := by
  induction nodes generalizing before seen ch with
  | nil => rfl
  | cons n nodes ih =>
      have here := lookup_eq_length_iff first
      have next : before.length + 1 = (before ++ [n]).length := by simp
      have among : ∀ node, node ∈ (before ++ [n]).map (·.id) ↔ node ∈ seen ∨ node = n.id := by
        intro node
        rw [List.map_append, List.mem_append, ← entered, List.map_singleton, List.mem_singleton]
      -- the next node joins those before, so that the places are still those of all the nodes
      rw [List.append_cons] at first
      unfold subscribeNodes Runner.subscribeNodes
      by_cases old : n.id ∈ seen
      · have still : ∀ node, node ∈ seen ↔ node ∈ (before ++ [n]).map (·.id) := fun node =>
          (or_iff_left_of_imp fun same => same ▸ old).symm.trans (among node).symm
        rw [if_pos fun alone => here.mp alone ((entered n.id).mp old), if_pos (List.contains_iff_mem.mpr old), next,
          ih (before ++ [n]) first still]
      · have also : ∀ node, node ∈ n.id :: seen ↔ node ∈ (before ++ [n]).map (·.id) := fun node =>
          (List.mem_cons.trans or_comm).trans (among node).symm
        have alone := here.mpr fun member => old ((entered n.id).mpr member)
        rw [if_neg (not_not_intro alone), if_neg (List.contains_iff_mem.not.mpr old), next]
        dsimp only
        rw [ih (before ++ [n]) first also]

/-- Setting up makes tables that index the nodes, whatever was in them. -/
theorem setUp_follows (x : Indexed) (ch : Channel) : Follows x (x.setUp ch) (x.runner.setUp ch) := by
  have down := x.runner.takeDown_steady ch
  unfold setUp Runner.setUp takeDown
  generalize x.runner.takeDown ch = result at down ⊢
  obtain ⟨r, ch'⟩ := result
  obtain ⟨places, made, indexes⟩ := register_indexes r.id .nil ch'.journal r.storyboard.nodes
  rw [List.length_nil] at made
  rw [List.nil_append] at indexes
  have wired := fun given => subscribeNodes_eq r.id [] indexes.first (fun _ => Iff.rfl) given
  have ids := fun given => subscribeNodes_ids r.id [] given r.storyboard.nodes
  have shown := fun (y : Runner) (j : Journal) => (evaluate_alike (fun _ => true) y j).ids
  rw [List.length_nil] at wired
  dsimp only at down ⊢
  rw [made]
  dsimp only
  rw [wired, indexes.length_eq]
  refine ⟨rfl, rfl, rfl, indexes.congr ?_ rfl, ?_⟩
  · rw [shown]
    exact ids _
  · rw [shown]
    exact (ids _).trans down.ids

end Indexed

end Plotline.Runner
