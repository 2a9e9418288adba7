import Plotline.Proofs.Bus.Subscription
import Plotline.Proofs.Runner.Fresh
import Plotline.Proofs.Runner.Latch
import Plotline.Proofs.Runner.Restoration
import Plotline.Proofs.Story.Shadowed

/-!
A runner beside the same runner without its shadowed nodes. Whatever both are asked to do, they stay alike but for these
nodes, and they publish the same. Only a restored game can make a difference to what they answer: it shows the statuses
to shadowed nodes too.
-/

namespace Plotline

/-! ### The channels of the two -/

/-- The channels have taken in the same events and hand out the same handles, whatever their journals say besides. -/
structure Channel.Agrees (a b : Channel) : Prop where
  attached : b.bus.attached = a.bus.attached
  queue : b.bus.queue = a.bus.queue
  nextId : b.bus.nextId = a.bus.nextId
  published : b.journal.published = a.journal.published

namespace Channel.Agrees

variable {a a' b b' : Channel}

theorem refl (ch : Channel) : Agrees ch ch := ⟨rfl, rfl, rfl, rfl⟩

theorem rewired (agrees : Agrees a b) (left : a.Rewired a') (right : b.Rewired b')
    (next : b'.bus.nextId = a'.bus.nextId) : Agrees a' b' := by
  have same : ∀ {j j' : Journal}, j.Quiet j' → j'.published = j.published := fun quiet => by simpa using quiet.published
  refine ⟨?_, ?_, next, ?_⟩
  · rw [right.attached, agrees.attached, left.attached]
  · rw [right.queue, agrees.queue, left.queue]
  · rw [same right.journal, agrees.published, same left.journal]

theorem quiet (agrees : Agrees a b) (left : a.Quiet a') (right : b.Quiet b') : Agrees a' b' :=
  agrees.rewired left.rewired right.rewired (by rw [right.nextId, agrees.nextId, left.nextId])

theorem notes (agrees : Agrees a b) {n m : Note} (left : n.isPlain = true) (right : m.isPlain = true) :
    Agrees (a.note n) (b.note m) :=
  agrees.quiet (note_quiet left a) (note_quiet right b)

theorem publish (agrees : Agrees a b) (event : StoryEvent) : Agrees (a.publish event) (b.publish event) := by
  cases attached : a.bus.attached with
  | true =>
      rw [publish_attached event attached, publish_attached event (agrees.attached.trans attached)]
      refine ⟨agrees.attached, ?_, agrees.nextId, ?_⟩
      · exact congrArg (· ++ [event]) agrees.queue
      · have told : ∀ j : Journal, (j.note (.published event)).published = j.published ++ [event] := fun j =>
          (Journal.published_grows event j).published
        rw [told, told, agrees.published]
  | false =>
      unfold Channel.publish tryPublish
      rw [agrees.attached, attached]
      exact agrees.notes rfl rfl

end Channel.Agrees

namespace Runner

variable {r : Runner} {a b : Channel}

/-- The runner without its shadowed nodes. -/
def pruned (r : Runner) : Runner := { r with storyboard := r.storyboard.firsts }

/-! ### Looking up and changing nodes -/

theorem node?_pruned (r : Runner) (node : NodeId) : r.pruned.node? node = r.node? node := by
  have known : r.pruned.contains node = r.contains node := rfl
  unfold node?
  rw [known]
  exact ite_congr rfl (fun _ => r.storyboard.node?_firsts node) fun _ => rfl

theorem mapNodes_pruned {f : Node → Node} (keeps : ∀ n, (f n).id = n.id) (r : Runner) :
    r.pruned.mapNodes f = (r.mapNodes f).pruned := by
  unfold mapNodes pruned Storyboard.firsts
  dsimp only
  rw [Node.firsts_map keeps]

theorem shadowed_mapNodes {f : Node → Node} (keeps : ∀ n, (f n).id = n.id) (r : Runner) :
    (r.mapNodes f).storyboard.shadowed = r.storyboard.shadowed.map f :=
  Node.shadowed_map keeps [] r.storyboard.nodes

theorem modifyNode_pruned {f : Node → Node} (keeps : ∀ n, (f n).id = n.id) (node : NodeId) (r : Runner) :
    r.pruned.modifyNode node f = (r.modifyNode node f).pruned := by
  unfold modifyNode pruned Storyboard.firsts
  dsimp only
  rw [(Node.firsts_modifyFirst keeps [] List.not_mem_nil r.storyboard.nodes).1]

theorem shadowed_modifyNode {f : Node → Node} (keeps : ∀ n, (f n).id = n.id) (node : NodeId) (r : Runner) :
    (r.modifyNode node f).storyboard.shadowed = r.storyboard.shadowed :=
  (Node.firsts_modifyFirst keeps [] List.not_mem_nil r.storyboard.nodes).2

theorem evaluate_pruned (included : Node → Bool) (r : Runner) (j j' : Journal) :
    (r.pruned.evaluate included j').2.1 = (r.evaluate included j).2.1.pruned := by
  apply mapNodes_pruned
  intro n
  split <;> rfl

/-! ### Setting up -/

private theorem takeDown_pruned (r : Runner) (a b : Channel) :
    (r.pruned.takeDown b).1 = (r.takeDown a).1.pruned := by
  have cleared := mapNodes_pruned (f := (·.mapConditions fun c => { c with subscription := none })) (fun _ => rfl) r
  unfold takeDown
  dsimp only
  rw [cleared]
  rfl

private theorem takeDown_nextId (r : Runner) (ch : Channel) : (r.takeDown ch).2.bus.nextId = ch.bus.nextId :=
  (Channel.unsubscribeAll_sheds _ _).nextId.trans (Channel.unsubscribeAll_sheds _ _).nextId

private theorem enlist_firsts (runner : RunnerId) (statuses : StatusTable) (seen : List NodeId)
    (same : ∀ node, node ∈ seen ↔ (statuses.get? node).isSome = true) (j j' : Journal) (nodes : List Node) :
    (enlist runner statuses j' (Node.firsts seen nodes)).1 = (enlist runner statuses j nodes).1 := by
  induction nodes generalizing statuses seen j j' with
  | nil => rfl
  | cons n nodes ih =>
      rw [Node.firsts, enlist]
      by_cases known : n.id ∈ seen
      · rw [if_pos (List.contains_iff_mem.mpr known), if_pos ((same n.id).mp known)]
        exact ih _ _ same _ _
      · rw [if_neg (mt List.contains_iff_mem.mp known), if_neg (mt (same n.id).mpr known), enlist,
          if_neg (mt (same n.id).mpr known)]
        refine ih _ _ (fun node => ?_) _ _
        have added : StatusTable.get? (statuses ++ [(n.id, .notStarted)]) node =
            (statuses.get? node).or (if node = n.id then some .notStarted else none) := by
          unfold StatusTable.get?
          rw [List.lookup_append, List.lookup_cons, List.lookup_nil]
          by_cases here : node = n.id
          · rw [if_pos here, beq_iff_eq.mpr here]
          · rw [if_neg here, beq_false_of_ne here]
        rw [added, List.mem_cons, same node]
        by_cases here : node = n.id
        · simp [here]
        · simp [here]

private theorem subscribeConditions_congr (runner : RunnerId) (node : NodeId) (index : Nat)
    (next : b.bus.nextId = a.bus.nextId) (conditions : List Condition) :
    (subscribeConditions runner node index b conditions).1 = (subscribeConditions runner node index a conditions).1 ∧
      (subscribeConditions runner node index b conditions).2.bus.nextId =
        (subscribeConditions runner node index a conditions).2.bus.nextId := by
  induction conditions generalizing index a b with
  | nil => exact ⟨rfl, next⟩
  | cons c conditions ih =>
      have handed : ∀ ch : Channel, (ch.subscribe c.kind.topic (.condition ⟨runner, node, index⟩)).1 =
          ⟨ch.bus.nextId⟩ := fun _ => rfl
      obtain ⟨rest, nextRest⟩ := ih (index + 1)
        (a := (a.subscribe c.kind.topic (.condition ⟨runner, node, index⟩)).2)
        (b := (b.subscribe c.kind.topic (.condition ⟨runner, node, index⟩)).2) (congrArg (· + 1) next)
      unfold subscribeConditions
      dsimp only
      rw [rest, nextRest, handed, handed, next]
      exact ⟨rfl, rfl⟩

/-- Only the first nodes are subscribed. -/
private theorem subscribeNodes_firsts (runner : RunnerId) (seen : List NodeId) (next : b.bus.nextId = a.bus.nextId)
    (nodes : List Node) :
    (subscribeNodes runner seen b (Node.firsts seen nodes)).1 =
        Node.firsts seen (subscribeNodes runner seen a nodes).1 ∧
      (subscribeNodes runner seen b (Node.firsts seen nodes)).2.bus.nextId =
        (subscribeNodes runner seen a nodes).2.bus.nextId ∧
      Node.shadowed seen (subscribeNodes runner seen a nodes).1 = Node.shadowed seen nodes := by
  induction nodes generalizing seen a b with
  | nil => exact ⟨rfl, next, rfl⟩
  | cons n nodes ih =>
      rw [Node.firsts, subscribeNodes, Node.shadowed]
      by_cases known : seen.contains n.id = true
      · obtain ⟨first, nextRest, later⟩ := ih seen next
        rw [if_pos known, if_pos known, if_pos known]
        dsimp only
        rw [Node.firsts, Node.shadowed, if_pos known, if_pos known]
        exact ⟨first, nextRest, congrArg (List.cons n) later⟩
      · obtain ⟨conditions, nextHere⟩ := subscribeConditions_congr runner n.id 0 next n.conditions
        obtain ⟨first, nextRest, later⟩ := ih (n.id :: seen) nextHere
        rw [if_neg known, if_neg known, if_neg known, subscribeNodes, if_neg known]
        dsimp only
        rw [Node.firsts, Node.shadowed, if_neg known, if_neg known, conditions, first]
        exact ⟨rfl, nextRest, later⟩

/-- The runner as it is set up, and the number of the next handle then. -/
private theorem setUp_eq (r : Runner) (ch : Channel) : ∃ journal,
    let down := r.takeDown ch
    let wired := subscribeNodes r.id [] { down.2 with journal } down.1.storyboard.nodes
    (r.setUp ch).1 = [] ∧
      (r.setUp ch).2.1 =
        { down.1 with
          storyboard := { down.1.storyboard with nodes := wired.1 }
          statuses := (enlist r.id [] down.2.journal down.1.storyboard.nodes).1
          subscriptions := [⟨wired.2.bus.nextId⟩, ⟨wired.2.bus.nextId + 1⟩] } ∧
      (r.setUp ch).2.2.bus.nextId = wired.2.bus.nextId + 2 := by
  have none : (r.setUp ch).1 = [] := (setUp_made rfl).1
  have fresh : (r.setUp ch).2.1.Fresh := (setUp_made rfl).2.2.1
  refine ⟨(enlist r.id [] (r.takeDown ch).2.journal (r.takeDown ch).1.storyboard.nodes).2, none, ?_⟩
  have incomplete : ∀ node, (r.setUp ch).2.1.statusOf? node ≠ some .completed := by
    intro node complete
    cases fresh.waiting node _ complete
  -- showing the nodes statuses of which none is complete changes nothing
  have unchanged : ∀ (y : Runner) (j : Journal),
      (∀ node, (y.evaluate (fun _ => true) j).2.1.statusOf? node ≠ some .completed) →
        y.evaluate (fun _ => true) j = ([], y, j) := fun y j none => evaluate_incomplete _ j none
  unfold setUp at incomplete ⊢
  dsimp only at incomplete ⊢
  rw [unchanged _ _ incomplete]
  exact ⟨rfl, rfl⟩

theorem setUp_pruned (agrees : a.Agrees b) :
    (r.pruned.setUp b).1 = (r.setUp a).1 ∧ (r.pruned.setUp b).2.1 = (r.setUp a).2.1.pruned ∧
      (r.setUp a).2.2.Agrees (r.pruned.setUp b).2.2 := by
  obtain ⟨journal, ready, made, next⟩ := r.setUp_eq a
  obtain ⟨journal', ready', made', next'⟩ := r.pruned.setUp_eq b
  have down := takeDown_pruned r a b
  have nodes : (r.pruned.takeDown b).1.storyboard.nodes = Node.firsts [] (r.takeDown a).1.storyboard.nodes := by
    rw [down]
    rfl
  have before : (r.pruned.takeDown b).2.bus.nextId = (r.takeDown a).2.bus.nextId := by
    rw [takeDown_nextId, takeDown_nextId, agrees.nextId]
  obtain ⟨wired, handles, -⟩ := subscribeNodes_firsts (a := { (r.takeDown a).2 with journal })
    (b := { (r.pruned.takeDown b).2 with journal := journal' }) r.id [] before (r.takeDown a).1.storyboard.nodes
  have table := enlist_firsts r.id [] [] (by simp [StatusTable.get?])
    (r.takeDown a).2.journal (r.pruned.takeDown b).2.journal (r.takeDown a).1.storyboard.nodes
  have sameId : r.pruned.id = r.id := rfl
  rw [nodes, sameId] at made' next'
  rw [wired, table, handles, down] at made'
  rw [handles, ← next] at next'
  refine ⟨ready'.trans ready.symm, ?_, ?_⟩
  · rw [made', made]
    rfl
  · exact agrees.rewired (r.setUp_rewired a) (r.pruned.setUp_rewired b) next'

theorem shadowed_setUp (r : Runner) (ch : Channel) :
    (r.setUp ch).2.1.storyboard.shadowed =
      r.storyboard.shadowed.map (·.mapConditions fun c => { c with subscription := none }) := by
  obtain ⟨journal, -, made, -⟩ := r.setUp_eq ch
  obtain ⟨-, -, later⟩ := subscribeNodes_firsts (a := { (r.takeDown ch).2 with journal })
    (b := { (r.takeDown ch).2 with journal }) r.id [] rfl (r.takeDown ch).1.storyboard.nodes
  rw [made]
  exact later.trans (shadowed_mapNodes (f := (·.mapConditions fun c => { c with subscription := none }))
    (fun _ => rfl) r)

/-! ### Running nodes -/

theorem deliver_pruned (key : ConditionKey) (event : StoryEvent) (agrees : a.Agrees b) :
    (r.pruned.deliver key event b.journal).1 = (r.deliver key event a.journal).1 ∧
      (r.pruned.deliver key event b.journal).2.1 = (r.deliver key event a.journal).2.1.pruned ∧
      Channel.Agrees { a with journal := (r.deliver key event a.journal).2.2 }
        { b with journal := (r.pruned.deliver key event b.journal).2.2 } := by
  have quiet := agrees.quiet (a.journal_quiet (r.deliver_quiet key event a.journal))
    (b.journal_quiet (r.pruned.deliver_quiet key event b.journal))
  refine ⟨?_, ?_, quiet⟩
  all_goals
    have latched := modifyNode_pruned (f := fun n =>
      { n with conditions := n.conditions.modify key.index (·.deliver event) }) (fun _ => rfl) key.node r
    have same : ∀ x : Runner, x.pruned.statusOf? key.node = x.statusOf? key.node := fun _ => rfl
    unfold deliver
    rw [node?_pruned]
    split
    · rfl
    · split
      · dsimp only
        rw [latched, same, node?_pruned]
        split
        · split <;> rfl
        · rfl
      · rfl

theorem shadowed_deliver (key : ConditionKey) (event : StoryEvent) (r : Runner) (j : Journal) :
    (r.deliver key event j).2.1.storyboard.shadowed = r.storyboard.shadowed := by
  cases made : r.deliver key event j with
  | mk ready result =>
      obtain ⟨r', j'⟩ := result
      rcases deliver_runner made with ⟨c, -, -, rfl⟩ | ⟨-, rfl, -⟩
      · refine shadowed_modifyNode ?_ key.node r
        exact fun _ => rfl
      · rfl

theorem beginNode_pruned (node : NodeId) (agrees : a.Agrees b) :
    (r.pruned.beginNode node b).1 = (r.beginNode node a).1 ∧
      (r.pruned.beginNode node b).2.1 = (r.beginNode node a).2.1.pruned ∧
      (r.beginNode node a).2.2.Agrees (r.pruned.beginNode node b).2.2 := by
  have same : r.pruned.statusOf? node = r.statusOf? node := rfl
  unfold beginNode
  rw [same, node?_pruned]
  split
  · exact ⟨rfl, rfl, agrees.notes rfl rfl⟩
  · split
    · exact ⟨rfl, rfl, agrees⟩
    · exact ⟨rfl, rfl, (agrees.publish _).notes rfl rfl⟩
  · exact ⟨rfl, rfl, agrees.notes rfl rfl⟩

theorem shadowed_beginNode (node : NodeId) (r : Runner) (ch : Channel) :
    (r.beginNode node ch).2.1.storyboard.shadowed = r.storyboard.shadowed := by
  unfold beginNode
  split
  · rfl
  · split <;> rfl
  · rfl

private theorem rearm_pruned (node : NodeId) (agrees : a.Agrees b) :
    (rearm node r.pruned b).1 = (rearm node r a).1.pruned ∧
      (rearm node r a).2.Agrees (rearm node r.pruned b).2 ∧
      (rearm node r a).1.storyboard.shadowed = r.storyboard.shadowed := by
  unfold rearm
  rw [node?_pruned]
  split
  · split
    · rw [modifyNode_pruned (f := (·.mapConditions (·.reset))) (fun _ => rfl)]
      exact ⟨rfl, agrees.notes rfl rfl, shadowed_modifyNode (f := (·.mapConditions (·.reset))) (fun _ => rfl) node r⟩
    · exact ⟨rfl, agrees, rfl⟩
  · exact ⟨rfl, agrees, rfl⟩

theorem completeNode_pruned (node : NodeId) (agrees : a.Agrees b) :
    (r.pruned.completeNode node b).1 = (r.completeNode node a).1 ∧
      (r.pruned.completeNode node b).2.1 = (r.completeNode node a).2.1.pruned ∧
      (r.completeNode node a).2.2.Agrees (r.pruned.completeNode node b).2.2 ∧
      (r.completeNode node a).2.1.storyboard.shadowed = r.storyboard.shadowed := by
  have same : r.pruned.statusOf? node = r.statusOf? node := rfl
  unfold completeNode
  rw [same]
  split
  · obtain ⟨runner, channel, later⟩ := rearm_pruned (r := r.setStatus node .completed) node
      ((agrees.publish (.nodeCompleted r.id r.storyboard.name node)).notes
        (n := .nodeCompleted r.id node) (m := .nodeCompleted r.id node) rfl rfl)
    exact ⟨rfl, runner, channel, later⟩
  · exact ⟨rfl, rfl, agrees.notes rfl rfl, rfl⟩

/-- A node that is listed again under a later definition has ended by then, and is left alone. -/
private theorem completeAll_pruned (p : NodeId → Bool) (seen : List NodeId) (nodes : List Node) (r : Runner)
    {a b : Channel} (agrees : a.Agrees b) (ended : ∀ node ∈ seen, p node = true → r.statusOf? node ≠ some .inProgress) :
    (r.pruned.completeAll (((Node.firsts seen nodes).filter fun n => p n.id).map (·.id)) b).1 =
        (r.completeAll ((nodes.filter fun n => p n.id).map (·.id)) a).1.pruned ∧
      (r.completeAll ((nodes.filter fun n => p n.id).map (·.id)) a).2.Agrees
        (r.pruned.completeAll (((Node.firsts seen nodes).filter fun n => p n.id).map (·.id)) b).2 ∧
      (r.completeAll ((nodes.filter fun n => p n.id).map (·.id)) a).1.storyboard.shadowed = r.storyboard.shadowed := by
  induction nodes generalizing seen r a b with
  | nil => exact ⟨rfl, agrees, rfl⟩
  | cons n nodes ih =>
      have stepped : ∀ (nodes : List NodeId) (x : Runner) (ch : Channel),
          x.completeAll (n.id :: nodes) ch =
            (x.completeNode n.id ch).2.1.completeAll nodes (x.completeNode n.id ch).2.2 := fun _ _ _ => rfl
      rw [Node.firsts]
      by_cases known : n.id ∈ seen
      · rw [if_pos (List.contains_iff_mem.mpr known)]
        cases among : p n.id with
        | false =>
            rw [List.filter_cons_of_neg (by simpa using among)]
            exact ih seen r agrees ended
        | true =>
            have idle : r.completeNode n.id a = (false, r, a.note (.notInProgress r.id n.id)) := by
              unfold completeNode
              rw [if_neg (ended n.id known among)]
            rw [List.filter_cons_of_pos (by simpa using among), List.map_cons, stepped, idle]
            exact ih seen r (agrees.quiet (Channel.note_quiet rfl a) (.refl b)) ended
      · rw [if_neg (mt List.contains_iff_mem.mp known)]
        cases among : p n.id with
        | false =>
            rw [List.filter_cons_of_neg (by simpa using among), List.filter_cons_of_neg (by simpa using among)]
            refine ih _ r agrees ?_
            intro node member included
            rcases List.mem_cons.mp member with rfl | before
            · cases among.symm.trans included
            · exact ended node before included
        | true =>
            obtain ⟨-, runner, channel, later⟩ := completeNode_pruned (r := r) n.id agrees
            rw [List.filter_cons_of_pos (by simpa using among), List.filter_cons_of_pos (by simpa using among),
              List.map_cons, List.map_cons, stepped, stepped, runner, ← later]
            refine ih _ _ channel ?_
            intro node member included
            rw [completeNode_runner, statusOf?_afterEnd_eq]
            split
            · exact fun running => r.endStatus_ne_inProgress n.id (Option.some.inj running)
            · rename_i other
              rcases List.mem_cons.mp member with rfl | before
              · exact fun running => other ⟨rfl, running⟩
              · exact ended node before included

theorem receiveJump_pruned (board : StoryboardName) (keep : Option NodeId) (agrees : a.Agrees b) :
    (r.pruned.receiveJump board keep b).1 = (r.receiveJump board keep a).1 ∧
      (r.pruned.receiveJump board keep b).2.1 = (r.receiveJump board keep a).2.1.pruned ∧
      (r.receiveJump board keep a).2.2.Agrees (r.pruned.receiveJump board keep b).2.2 ∧
      (r.receiveJump board keep a).2.1.storyboard.shadowed = r.storyboard.shadowed := by
  have same : r.pruned.storyboard.name = r.storyboard.name := rfl
  have listed : ∀ nodes : List Node,
      ((nodes.filter fun n => r.statusOf? n.id = some .inProgress).map (·.id)).filter (fun node => some node ≠ keep) =
        (nodes.filter fun n => decide (r.statusOf? n.id = some .inProgress) && decide (some n.id ≠ keep)).map (·.id) := by
    intro nodes
    rw [List.filter_map, List.filter_filter]
    congr 2
    funext n
    exact Bool.and_comm _ _
  have running : r.pruned.inProgress =
      ((Node.firsts [] r.storyboard.nodes).filter fun n => r.statusOf? n.id = some .inProgress).map (·.id) := rfl
  obtain ⟨runner, channel, later⟩ := completeAll_pruned
    (fun node => decide (r.statusOf? node = some .inProgress) && decide (some node ≠ keep)) []
    r.storyboard.nodes r agrees (fun _ member => nomatch member)
  unfold receiveJump
  rw [same]
  split
  · rw [running]
    unfold inProgress
    rw [listed, listed]
    exact ⟨rfl, runner, channel, later⟩
  · exact ⟨rfl, rfl, agrees, rfl⟩

end Runner

end Plotline
