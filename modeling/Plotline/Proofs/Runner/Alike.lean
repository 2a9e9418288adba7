import Plotline.Proofs.Bus.Growth
import Plotline.Runner.Restore

/-!
What no runner ever changes about itself while it is set up: its name and place, its nodes but for their latches,
and which nodes it knows. The module says for each operation of a runner that it keeps this, what becomes of the
statuses, and what it publishes.
-/

namespace Plotline

theorem StatusTable.get?_cons (known : NodeId) (status : NodeStatus) (tail : StatusTable) (node : NodeId) :
    get? ((known, status) :: tail) node = if node = known then some status else get? tail node := by
  unfold get?
  rw [List.lookup_cons]
  by_cases same : node = known
  · rw [beq_iff_eq.mpr same, if_pos same]
  · rw [beq_false_of_ne same, if_neg same]

theorem StatusTable.get?_set (table : StatusTable) (node other : NodeId) (status : NodeStatus) :
    (table.set node status).get? other = if other = node then some status else table.get? other := by
  induction table with
  | nil => exact get?_cons node status [] other
  | cons head tail ih =>
      obtain ⟨known, old⟩ := head
      by_cases atHead : known = node
      · rw [set, if_pos atHead, get?_cons, get?_cons, atHead]
        split <;> rfl
      · rw [set, if_neg atHead, get?_cons, get?_cons, ih]
        by_cases there : other = known
        · rw [if_pos there, if_pos there, if_neg (fun same => atHead (there.symm.trans same))]
        · rw [if_neg there, if_neg there]

/-- The node with no condition latched. -/
def Node.unlatched (n : Node) : Node := n.mapConditions (·.reset)

theorem Node.unlatched_mapConditions {f : Condition → Condition} (latches : ∀ c, (f c).reset = c.reset) (n : Node) :
    (n.mapConditions f).unlatched = n.unlatched := by
  unfold unlatched mapConditions
  simp [latches]

theorem Node.unlatched_modify (index : Nat) {f : Condition → Condition} (latches : ∀ c, (f c).reset = c.reset)
    (n : Node) : ({ n with conditions := n.conditions.modify index f } : Node).unlatched = n.unlatched := by
  have same : (n.conditions.modify index f).map (·.reset) = n.conditions.map (·.reset) := by
    apply List.ext_getElem?
    intro i
    rw [List.getElem?_map, List.getElem?_map, List.getElem?_modify]
    cases n.conditions[i]? with
    | none => rfl
    | some c => by_cases here : index = i <;> simp [here, latches]
  unfold unlatched mapConditions
  dsimp only
  rw [same]

namespace Runner

theorem statusOf?_setStatus (node other : NodeId) (status : NodeStatus) (r : Runner) :
    (r.setStatus node status).statusOf? other = if other = node then some status else r.statusOf? other :=
  StatusTable.get?_set r.statuses node other status

/-- The same runner, whatever has become of its statuses, latches and subscriptions. -/
structure Alike (r r' : Runner) : Prop where
  id : r'.id = r.id
  priority : r'.priority = r.priority
  board : r'.storyboard.name = r.storyboard.name
  nodes : r'.storyboard.nodes.map Node.unlatched = r.storyboard.nodes.map Node.unlatched
  known : ∀ node, r'.contains node = r.contains node

theorem Alike.refl (r : Runner) : r.Alike r := ⟨rfl, rfl, rfl, rfl, fun _ => rfl⟩

theorem Alike.symm {r r' : Runner} (alike : r.Alike r') : r'.Alike r :=
  ⟨alike.id.symm, alike.priority.symm, alike.board.symm, alike.nodes.symm, fun node => (alike.known node).symm⟩

theorem Alike.trans {r r' r'' : Runner} (first : r.Alike r') (last : r'.Alike r'') : r.Alike r'' where
  id := last.id.trans first.id
  priority := last.priority.trans first.priority
  board := last.board.trans first.board
  nodes := last.nodes.trans first.nodes
  known node := (last.known node).trans (first.known node)

theorem Alike.ids {r r' : Runner} (alike : r.Alike r') :
    r'.storyboard.nodes.map (·.id) = r.storyboard.nodes.map (·.id) := by
  have same := congrArg (List.map Node.id) alike.nodes
  rwa [List.map_map, List.map_map] at same

theorem node?_unlatched (board : Storyboard) (node : NodeId) :
    (board.node? node).map Node.unlatched = (board.nodes.map Node.unlatched).find? (·.id = node) := by
  rw [List.find?_map]
  rfl

/-- A node keeps all but its latches. -/
theorem Alike.node {r r' : Runner} (alike : r.Alike r') (node : NodeId) :
    (r'.node? node).map Node.unlatched = (r.node? node).map Node.unlatched := by
  unfold node?
  rw [alike.known node]
  split
  · rw [node?_unlatched, node?_unlatched, alike.nodes]
  · rfl

theorem Alike.program {r r' : Runner} {node : NodeId} {d : Node} (alike : r.Alike r') (found : r.node? node = some d) :
    ∃ d', r'.node? node = some d' ∧ d'.program = d.program := by
  have same := alike.node node
  rw [found] at same
  obtain ⟨d', found', unlatched⟩ := Option.map_eq_some_iff.mp same
  exact ⟨d', found', (congrArg Node.program unlatched :)⟩

theorem alike_setStatus {r : Runner} {node : NodeId} (known : r.contains node = true) (status : NodeStatus) :
    r.Alike (r.setStatus node status) := by
  refine ⟨rfl, rfl, rfl, rfl, ?_⟩
  intro other
  unfold contains at known ⊢
  rw [statusOf?_setStatus]
  by_cases same : other = node
  · rw [if_pos same, same, known]
    rfl
  · rw [if_neg same]

theorem alike_mapNodes (r : Runner) {f : Node → Node} (latches : ∀ n, (f n).unlatched = n.unlatched) :
    r.Alike (r.mapNodes f) := by
  refine ⟨rfl, rfl, rfl, ?_, fun _ => rfl⟩
  simp [mapNodes, latches]

private theorem modifyFirst_unlatched (p : Node → Bool) {f : Node → Node} (latches : ∀ n, (f n).unlatched = n.unlatched)
    (nodes : List Node) : (modifyFirst p f nodes).map Node.unlatched = nodes.map Node.unlatched := by
  induction nodes with
  | nil => rfl
  | cons n nodes ih =>
      unfold modifyFirst
      split
      · simp [latches]
      · simp [ih]

theorem alike_modifyNode (node : NodeId) (r : Runner) {f : Node → Node} (latches : ∀ n, (f n).unlatched = n.unlatched) :
    r.Alike (r.modifyNode node f) :=
  ⟨rfl, rfl, rfl, modifyFirst_unlatched _ latches _, fun _ => rfl⟩

/-! ### Ending a node -/

/-- The runner once a node of it has ended: one in progress is complete or waits again, any other is as before. -/
def afterEnd (node : NodeId) (r : Runner) : Runner := (r.completeNode node {}).2.1

/-- What the end of a node makes known. -/
def endNews (node : NodeId) (r : Runner) : List StoryEvent :=
  if r.statusOf? node = some .inProgress then [.nodeCompleted r.id r.storyboard.name node] else []

theorem eq_of_mem_endNews {node : NodeId} {r : Runner} {event : StoryEvent} (member : event ∈ r.endNews node) :
    event = .nodeCompleted r.id r.storyboard.name node := by
  unfold endNews at member
  split at member
  · exact List.mem_singleton.mp member
  · cases member

/-- The node can run more than once. -/
def repeats (r : Runner) (node : NodeId) : Bool := ((r.node? node).map (·.isRepeatable)).getD false

theorem Alike.repeats {r r' : Runner} (alike : r.Alike r') (node : NodeId) : r'.repeats node = r.repeats node := by
  have same := alike.node node
  unfold Runner.repeats
  cases found : r.node? node with
  | none =>
      rw [found, Option.map_none, Option.map_eq_none_iff] at same
      rw [same]
  | some d =>
      rw [found] at same
      obtain ⟨d', found', unlatched⟩ := Option.map_eq_some_iff.mp same
      rw [found']
      exact (congrArg Node.isRepeatable unlatched :)

private theorem rearm_runner (node : NodeId) (r : Runner) (ch other : Channel) :
    (rearm node r ch).1 = (rearm node r other).1 := by
  unfold rearm
  split
  · split <;> rfl
  · rfl

theorem completeNode_runner (node : NodeId) (r : Runner) (ch : Channel) :
    (r.completeNode node ch).2.1 = r.afterEnd node := by
  unfold afterEnd completeNode
  split
  · exact rearm_runner _ _ _ _
  · rfl

private theorem rearm_quiet (node : NodeId) (r : Runner) (ch : Channel) : ch.Quiet (rearm node r ch).2 := by
  unfold rearm
  split
  · split
    · exact Channel.note_quiet rfl ch
    · exact .refl ch
  · exact .refl ch

theorem completeNode_grows (node : NodeId) (r : Runner) (ch : Channel) (attached : ch.bus.attached = true) :
    Channel.Grows (r.endNews node) [] ch (r.completeNode node ch).2.2 := by
  unfold completeNode endNews
  split
  · have published := ch.publish_grows (.nodeCompleted r.id r.storyboard.name node) attached
    exact (published.thenQuiet (Channel.note_quiet rfl _)).thenQuiet (rearm_quiet _ _ _)
  · exact Channel.note_quiet rfl ch

theorem afterEnd_eq_self {node : NodeId} {r : Runner} (elsewhere : r.statusOf? node ≠ some .inProgress) :
    r.afterEnd node = r := by
  unfold afterEnd completeNode
  rw [if_neg elsewhere]

theorem contains_of_status {r : Runner} {node : NodeId} {status : NodeStatus}
    (known : r.statusOf? node = some status) : r.contains node = true := by
  unfold contains
  rw [known]
  rfl

theorem afterEnd_alike (node : NodeId) (r : Runner) : r.Alike (r.afterEnd node) := by
  by_cases running : r.statusOf? node = some .inProgress
  · have completed := alike_setStatus (contains_of_status running) .completed
    unfold afterEnd completeNode rearm
    rw [if_pos running]
    split
    · split
      · have known : (r.setStatus node .completed).contains node = true := by
          rw [completed.known, contains_of_status running]
        have reset := alike_modifyNode node (r.setStatus node .completed)
          fun n => Node.unlatched_mapConditions (f := (·.reset)) (fun _ => rfl) n
        exact (completed.trans reset).trans (alike_setStatus ((reset.known node).trans known) .notStarted)
      · exact completed
    · exact completed
  · rw [afterEnd_eq_self running]
    exact .refl r

theorem statusOf?_afterEnd_of_ne {node other : NodeId} (r : Runner) (different : other ≠ node) :
    (r.afterEnd node).statusOf? other = r.statusOf? other := by
  unfold afterEnd completeNode rearm
  split
  · split
    · split
      · rw [statusOf?_setStatus, if_neg different]
        exact (statusOf?_setStatus node other .completed r).trans (if_neg different)
      · exact (statusOf?_setStatus node other .completed r).trans (if_neg different)
    · exact (statusOf?_setStatus node other .completed r).trans (if_neg different)
  · rfl

/-- A node that was in progress waits again if it is repeatable, and is complete for good if it is not. -/
theorem statusOf?_afterEnd {node : NodeId} {r : Runner} (running : r.statusOf? node = some .inProgress) :
    (r.afterEnd node).statusOf? node = some (if r.repeats node then .notStarted else .completed) := by
  have completed := alike_setStatus (contains_of_status running) .completed
  rw [← completed.repeats node]
  unfold afterEnd completeNode rearm Runner.repeats
  rw [if_pos running]
  split
  · rename_i d found
    rw [found]
    cases again : d.isRepeatable <;> simp [statusOf?_setStatus, again]
  · rename_i missing
    rw [missing]
    simp [statusOf?_setStatus]

end Runner

end Plotline
