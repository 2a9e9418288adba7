import Plotline.Proofs.Bus.Echo
import Plotline.Proofs.Runner.Status

/-!
A runner does the same whatever the log says. And a node that runs only once is spent for good when it has started,
unless a saved game is restored.
-/

namespace Plotline.Runner

variable {ch ch' : Channel} {j j' : Journal}

/-! ### The same for every log -/

private theorem enlist_echoes (runner : RunnerId) (statuses : StatusTable) (nodes : List Node) (echoes : j.Echoes j') :
    ∃ table k k', enlist runner statuses j nodes = (table, k) ∧ enlist runner statuses j' nodes = (table, k') ∧
      k.Echoes k' := by
  induction nodes generalizing statuses j j' with
  | nil => exact ⟨_, _, _, rfl, rfl, echoes⟩
  | cons n nodes ih =>
      unfold enlist
      split
      · exact ih statuses (echoes.note _)
      · dsimp only
        split
        · exact ih _ echoes
        · exact ih _ (echoes.note _)

private theorem subscribeConditions_echoes (runner : RunnerId) (node : NodeId) (index : Nat)
    (conditions : List Condition) (echoes : ch.Echoes ch') :
    ∃ made c c', subscribeConditions runner node index ch conditions = (made, c) ∧
      subscribeConditions runner node index ch' conditions = (made, c') ∧ c.Echoes c' := by
  induction conditions generalizing index ch ch' with
  | nil => exact ⟨_, _, _, rfl, rfl, echoes⟩
  | cons condition conditions ih =>
      obtain ⟨id, c, c', made, made', told⟩ :=
        echoes.subscribe condition.kind.topic (.condition ⟨runner, node, index⟩)
      obtain ⟨rest, d, d', others, others', toldOthers⟩ := ih (index + 1) told
      unfold subscribeConditions
      rw [made, made']
      dsimp only
      rw [others, others']
      exact ⟨_, _, _, rfl, rfl, toldOthers⟩

private theorem subscribeNodes_echoes (runner : RunnerId) (seen : List NodeId) (nodes : List Node)
    (echoes : ch.Echoes ch') :
    ∃ made c c', subscribeNodes runner seen ch nodes = (made, c) ∧ subscribeNodes runner seen ch' nodes = (made, c') ∧
      c.Echoes c' := by
  induction nodes generalizing seen ch ch' with
  | nil => exact ⟨_, _, _, rfl, rfl, echoes⟩
  | cons n nodes ih =>
      unfold subscribeNodes
      split
      · obtain ⟨rest, c, c', others, others', told⟩ := ih seen echoes
        rw [others, others']
        exact ⟨_, _, _, rfl, rfl, told⟩
      · obtain ⟨conditions, c, c', made, made', told⟩ := subscribeConditions_echoes runner n.id 0 n.conditions echoes
        obtain ⟨rest, d, d', others, others', toldOthers⟩ := ih (n.id :: seen) told
        rw [made, made']
        dsimp only
        rw [others, others']
        exact ⟨_, _, _, rfl, rfl, toldOthers⟩

theorem takeDown_echoes (r : Runner) (echoes : ch.Echoes ch') :
    ∃ r' c c', r.takeDown ch = (r', c) ∧ r.takeDown ch' = (r', c') ∧ c.Echoes c' :=
  ⟨_, _, _, rfl, rfl, (echoes.unsubscribeAll _).unsubscribeAll _⟩

theorem setUp_echoes (r : Runner) (echoes : ch.Echoes ch') :
    ∃ ready r' c c', r.setUp ch = (ready, r', c) ∧ r.setUp ch' = (ready, r', c') ∧ c.Echoes c' := by
  obtain ⟨down, c, c', taken, taken', told⟩ := r.takeDown_echoes echoes
  obtain ⟨table, k, k', listed, listed', toldListed⟩ :=
    enlist_echoes down.id [] down.storyboard.nodes told.journal
  obtain ⟨nodes, d, d', wired, wired', toldWired⟩ :=
    subscribeNodes_echoes down.id [] down.storyboard.nodes (told.withJournal toldListed)
  obtain ⟨jumps, e, e', first, first', toldFirst⟩ := toldWired.subscribe .jumpRequested (.runner down.id)
  obtain ⟨triggers, f, f', last, last', toldLast⟩ := toldFirst.subscribe .triggerRequested (.runner down.id)
  unfold setUp
  rw [taken, taken']
  dsimp only
  rw [listed, listed']
  dsimp only
  rw [wired, wired']
  dsimp only
  rw [first, first']
  dsimp only
  rw [last, last']
  have noted := toldLast.note (.initialized down.id down.storyboard.name table.length)
  exact ⟨_, _, _, _, rfl, rfl, noted.withJournal (noted.journal.notes _)⟩

theorem deliver_echoes (key : ConditionKey) (event : StoryEvent) (r : Runner) (echoes : j.Echoes j') :
    ∃ ready r' k k', r.deliver key event j = (ready, r', k) ∧ r.deliver key event j' = (ready, r', k') ∧
      k.Echoes k' := by
  unfold deliver
  split
  · exact ⟨_, _, _, _, rfl, rfl, echoes⟩
  · split
    · dsimp only
      split
      · split
        · exact ⟨_, _, _, _, rfl, rfl, echoes.note _⟩
        · exact ⟨_, _, _, _, rfl, rfl, echoes.note _⟩
      · exact ⟨_, _, _, _, rfl, rfl, (echoes.note _).note _⟩
    · exact ⟨_, _, _, _, rfl, rfl, echoes⟩

theorem beginNode_echoes (node : NodeId) (r : Runner) (echoes : ch.Echoes ch') :
    ∃ program r' c c', r.beginNode node ch = (program, r', c) ∧ r.beginNode node ch' = (program, r', c') ∧
      c.Echoes c' := by
  unfold beginNode
  split
  · exact ⟨_, _, _, _, rfl, rfl, echoes.note _⟩
  · split
    · exact ⟨_, _, _, _, rfl, rfl, echoes⟩
    · exact ⟨_, _, _, _, rfl, rfl, (echoes.publish _).note _⟩
  · exact ⟨_, _, _, _, rfl, rfl, echoes.note _⟩

private theorem rearm_echoes (node : NodeId) (r : Runner) (echoes : ch.Echoes ch') :
    ∃ r' c c', r.rearm node ch = (r', c) ∧ r.rearm node ch' = (r', c') ∧ c.Echoes c' := by
  unfold rearm
  split
  · split
    · exact ⟨_, _, _, rfl, rfl, echoes.note _⟩
    · exact ⟨_, _, _, rfl, rfl, echoes⟩
  · exact ⟨_, _, _, rfl, rfl, echoes⟩

theorem completeNode_echoes (node : NodeId) (r : Runner) (echoes : ch.Echoes ch') :
    (r.completeNode node ch).2.2.Echoes (r.completeNode node ch').2.2 := by
  unfold completeNode
  split
  · obtain ⟨r', c, c', rearmed, rearmed', told⟩ := rearm_echoes node (r.setStatus node .completed)
      ((echoes.publish (.nodeCompleted r.id r.storyboard.name node)).note (.nodeCompleted r.id node))
    dsimp only
    rw [rearmed, rearmed']
    exact told
  · exact echoes.note _

theorem completeAll_echoes (nodes : List NodeId) (r : Runner) (echoes : ch.Echoes ch') :
    ∃ r' c c', r.completeAll nodes ch = (r', c) ∧ r.completeAll nodes ch' = (r', c') ∧ c.Echoes c' := by
  induction nodes generalizing r ch ch' with
  | nil => exact ⟨_, _, _, rfl, rfl, echoes⟩
  | cons node nodes ih =>
      have next : ∀ channel, r.completeAll (node :: nodes) channel =
          (r.afterEnd node).completeAll nodes (r.completeNode node channel).2.2 := by
        intro channel
        rw [← completeNode_runner node r channel]
        rfl
      rw [next, next]
      exact ih (r.afterEnd node) (r.completeNode_echoes node echoes)

theorem receiveJump_echoes (board : StoryboardName) (keep : Option NodeId) (r : Runner) (echoes : ch.Echoes ch') :
    ∃ mine r' c c', r.receiveJump board keep ch = (mine, r', c) ∧ r.receiveJump board keep ch' = (mine, r', c') ∧
      c.Echoes c' := by
  unfold receiveJump
  split
  · obtain ⟨r', c, c', ended, ended', told⟩ :=
      completeAll_echoes (r.inProgress.filter fun node => some node ≠ keep) r echoes
    rw [ended, ended']
    exact ⟨_, _, _, _, rfl, rfl, told⟩
  · exact ⟨_, _, _, _, rfl, rfl, echoes⟩

/-! ### Nodes that are spent -/

/-- The node runs only once, and it has started. -/
structure Spent (r : Runner) (node : NodeId) : Prop where
  once : r.repeats node = false
  known : r.contains node = true
  begun : r.statusOf? node ≠ some .notStarted

instance (r : Runner) : DecidablePred r.Spent := fun node =>
  decidable_of_iff (r.repeats node = false ∧ r.contains node = true ∧ r.statusOf? node ≠ some .notStarted)
    ⟨fun ⟨once, known, begun⟩ => ⟨once, known, begun⟩, fun spent => ⟨spent.once, spent.known, spent.begun⟩⟩

/-- A node that is spent does not begin. -/
theorem Spent.refused {r : Runner} {node : NodeId} (spent : r.Spent node) (ch : Channel) :
    ∃ n, (Entry.note n).isRemark = true ∧ r.beginNode node ch = (none, r, ch.note n) := by
  unfold beginNode
  cases status : r.statusOf? node with
  | none => exact ⟨_, rfl, rfl⟩
  | some status' =>
      cases status' with
      | notStarted => exact absurd status spent.begun
      | inProgress => exact ⟨_, rfl, rfl⟩
      | completed => exact ⟨_, rfl, rfl⟩

/-- The runner has gone on, and what was spent still is. -/
structure Ages (r r' : Runner) : Prop extends Alike r r' where
  spent : ∀ node, r.Spent node → r'.Spent node

theorem Ages.refl (r : Runner) : r.Ages r := ⟨.refl r, fun _ spent => spent⟩

theorem Ages.trans {r r' r'' : Runner} (first : r.Ages r') (last : r'.Ages r'') : r.Ages r'' :=
  ⟨first.toAlike.trans last.toAlike, fun node spent => last.spent node (first.spent node spent)⟩

theorem ages_of_begun {r r' : Runner} (alike : r.Alike r')
    (begun : ∀ node, r.Spent node → r'.statusOf? node ≠ some .notStarted) : r.Ages r' :=
  ⟨alike, fun node spent =>
    ⟨(alike.repeats node).trans spent.once, (alike.known node).trans spent.known, begun node spent⟩⟩

theorem ages_of_statuses {r r' : Runner} (alike : r.Alike r') (same : r'.statuses = r.statuses) : r.Ages r' := by
  refine ages_of_begun alike fun node spent => ?_
  unfold statusOf?
  rw [same]
  exact spent.begun

theorem ages_setStatus {r : Runner} {node : NodeId} (waiting : r.statusOf? node = some .notStarted)
    (status : NodeStatus) : r.Ages (r.setStatus node status) := by
  refine ages_of_begun (alike_setStatus (contains_of_status waiting) status) fun other spent => ?_
  have different : other ≠ node := fun same => spent.begun (same ▸ waiting)
  rw [statusOf?_setStatus, if_neg different]
  exact spent.begun

theorem afterEnd_ages (node : NodeId) (r : Runner) : r.Ages (r.afterEnd node) := by
  refine ages_of_begun (r.afterEnd_alike node) fun other spent => ?_
  rw [statusOf?_afterEnd_eq]
  split
  · rename_i ended
    rw [endStatus, ← ended.1, spent.once]
    nofun
  · exact spent.begun

theorem beginNode_ages (node : NodeId) (r : Runner) (ch : Channel) : r.Ages (r.beginNode node ch).2.1 := by
  unfold beginNode
  split
  · exact .refl r
  · split
    · exact .refl r
    · exact ages_setStatus ‹_› _
  · exact .refl r

theorem completeAll_ages (nodes : List NodeId) (r : Runner) (ch : Channel) : r.Ages (r.completeAll nodes ch).1 := by
  induction nodes generalizing r ch with
  | nil => exact .refl r
  | cons node nodes ih =>
      have head : r.Ages (r.completeNode node ch).2.1 := by
        rw [completeNode_runner]
        exact r.afterEnd_ages node
      exact head.trans (ih _ _)

theorem receiveJump_ages (board : StoryboardName) (keep : Option NodeId) (r : Runner) (ch : Channel) :
    r.Ages (r.receiveJump board keep ch).2.1 := by
  unfold receiveJump
  split
  · exact completeAll_ages _ r ch
  · exact .refl r

end Plotline.Runner
