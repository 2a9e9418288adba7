import Plotline.Proofs.Runner.Upkeep

/-!
The latches of a runner's conditions. Only the end of a repeatable node releases a latch; whatever else is done to a
runner that is set up, what was satisfied stays so.
-/

namespace Plotline.Runner

/-- The condition in a slot of a node. -/
def condition? (r : Runner) (node : NodeId) (index : Nat) : Option Condition :=
  (r.node? node).bind (·.conditions[index]?)

/-- The condition in the slot is satisfied. -/
def Holds (r : Runner) (node : NodeId) (index : Nat) : Prop :=
  ∃ c, r.condition? node index = some c ∧ c.satisfied = true

/-- The slots of two runners of one kind agree but for the latches. -/
theorem Alike.condition {r r' : Runner} (alike : r.Alike r') (node : NodeId) (index : Nat) :
    (r'.condition? node index).map (·.reset) = (r.condition? node index).map (·.reset) := by
  have slot : ∀ x : Runner, (x.condition? node index).map (·.reset) =
      ((x.node? node).map Node.unlatched).bind (·.conditions[index]?) := by
    intro x
    unfold condition? Node.unlatched Node.mapConditions
    cases x.node? node <;> simp
  rw [slot, slot, alike.node]

theorem Alike.slot {r r' : Runner} (alike : r.Alike r') {node : NodeId} {index : Nat} {c' : Condition}
    (found : r'.condition? node index = some c') :
    ∃ c, r.condition? node index = some c ∧ c.kind = c'.kind ∧ c.subscription = c'.subscription := by
  have same := alike.condition node index
  rw [found, Option.map_some, eq_comm, Option.map_eq_some_iff] at same
  obtain ⟨c, found', reset⟩ := same
  exact ⟨c, found', (congrArg Condition.kind reset :), (congrArg Condition.subscription reset :)⟩

theorem Holds.condition {r : Runner} {node : NodeId} {index : Nat} (holds : r.Holds node index) {c : Condition}
    (found : r.condition? node index = some c) : c.satisfied = true := by
  obtain ⟨c', found', satisfied⟩ := holds
  rw [found] at found'
  cases found'
  exact satisfied

/-! ### Changing one node -/

private theorem find?_modifyFirst (node other : NodeId) {f : Node → Node} (keeps : ∀ n, (f n).id = n.id)
    (nodes : List Node) :
    (modifyFirst (·.id = node) f nodes).find? (·.id = other) =
      if other = node then (nodes.find? (·.id = node)).map f else nodes.find? (·.id = other) := by
  induction nodes with
  | nil => simp [modifyFirst]
  | cons n nodes ih =>
      unfold modifyFirst
      by_cases here : n.id = node
      · by_cases same : other = node
        · simp [here, same, keeps]
        · have different : n.id ≠ other := fun equal => same (equal.symm.trans here)
          simp [here, same, keeps, Ne.symm same]
      · by_cases same : other = node
        · subst same
          simp [here, ih]
        · simp [here, same, List.find?_cons, ih]

theorem node?_modifyNode (node other : NodeId) (r : Runner) {f : Node → Node} (keeps : ∀ n, (f n).id = n.id) :
    (r.modifyNode node f).node? other = if other = node then (r.node? node).map f else r.node? other := by
  have looked := find?_modifyFirst node other keeps r.storyboard.nodes
  have known : (r.modifyNode node f).contains other = r.contains other := rfl
  have board : (r.modifyNode node f).storyboard.node? other =
      (modifyFirst (·.id = node) f r.storyboard.nodes).find? (·.id = other) := rfl
  unfold node?
  rw [known, board, looked]
  unfold Storyboard.node?
  by_cases same : other = node
  · subst same
    simp only [if_pos]
    split <;> rfl
  · simp only [if_neg same]

theorem node?_setStatus {r : Runner} {node : NodeId} (known : r.contains node = true) (status : NodeStatus)
    (other : NodeId) : (r.setStatus node status).node? other = r.node? other := by
  unfold node?
  rw [(alike_setStatus known status).known other]
  rfl

/-! ### What is satisfied stays so -/

/-- The latches of nodes that run only once have not been released. -/
structure Latches (r r' : Runner) : Prop extends Alike r r' where
  latched : ∀ node index, r.repeats node = false → r.Holds node index → r'.Holds node index

theorem latches_of_nodes {r r' : Runner} (alike : r.Alike r') (same : ∀ node, r.repeats node = false →
    r'.node? node = r.node? node) : r.Latches r' := by
  refine ⟨alike, ?_⟩
  intro node index once holds
  unfold Holds condition? at holds ⊢
  rw [same node once]
  exact holds

theorem Latches.trans {r r' r'' : Runner} (first : r.Latches r') (last : r'.Latches r'') : r.Latches r'' := by
  refine ⟨first.toAlike.trans last.toAlike, ?_⟩
  intro node index once holds
  have onceStill : r'.repeats node = false := (first.repeats node).trans once
  exact last.latched node index onceStill (first.latched node index once holds)

theorem latches_setStatus {r : Runner} {node : NodeId} (known : r.contains node = true) (status : NodeStatus) :
    r.Latches (r.setStatus node status) :=
  latches_of_nodes (alike_setStatus known status) fun other _ => node?_setStatus known status other

private theorem afterEnd_running {node : NodeId} {r : Runner} (running : r.statusOf? node = some .inProgress) :
    r.afterEnd node =
      if r.repeats node = true then
        ((r.setStatus node .completed).modifyNode node (·.mapConditions (·.reset))).setStatus node .notStarted
      else r.setStatus node .completed := by
  have completed := alike_setStatus (contains_of_status running) .completed
  rw [← completed.repeats node]
  unfold afterEnd completeNode rearm Runner.repeats
  rw [if_pos running]
  dsimp only
  cases (r.setStatus node .completed).node? node with
  | none => rfl
  | some d =>
      dsimp only [Option.map_some, Option.getD_some]
      split <;> rfl

/-- A node that has come to its end waits anew if it can run again; every other node stays as it is. -/
theorem node?_afterEnd_eq (node : NodeId) (r : Runner) (other : NodeId) :
    (r.afterEnd node).node? other =
      if other = node ∧ r.statusOf? node = some .inProgress ∧ r.repeats node = true then
        (r.node? other).map (·.mapConditions (·.reset))
      else r.node? other := by
  by_cases running : r.statusOf? node = some .inProgress
  · have known := contains_of_status running
    have completed := node?_setStatus known .completed
    rw [afterEnd_running running]
    by_cases again : r.repeats node = true
    · have kept : ((r.setStatus node .completed).modifyNode node (·.mapConditions (·.reset))).contains node = true :=
        ((alike_setStatus known .completed).known node).trans known
      have modified := node?_modifyNode node other (r.setStatus node .completed) (f := (·.mapConditions (·.reset)))
        fun _ => rfl
      rw [if_pos again, node?_setStatus kept, modified, completed, completed]
      by_cases same : other = node
      · rw [if_pos same, if_pos ⟨same, running, again⟩, same]
      · rw [if_neg same, if_neg fun all => same all.1]
    · rw [if_neg again, if_neg fun all => again all.2.2]
      exact completed other
  · rw [afterEnd_eq_self running, if_neg fun all => running all.2.1]

/-- The end of a node changes no node that runs only once. -/
theorem node?_afterEnd (node : NodeId) {r : Runner} {other : NodeId} (once : r.repeats other = false) :
    (r.afterEnd node).node? other = r.node? other := by
  rw [node?_afterEnd_eq, if_neg]
  rintro ⟨rfl, -, again⟩
  cases once.symm.trans again

theorem afterEnd_latches (node : NodeId) (r : Runner) : r.Latches (r.afterEnd node) :=
  latches_of_nodes (r.afterEnd_alike node) fun _ once => node?_afterEnd node once

/-- A slot after its runner was brought an event. -/
theorem condition?_latched (key : ConditionKey) (event : StoryEvent) (r : Runner) (node : NodeId) (index : Nat) :
    (r.modifyNode key.node fun n =>
        { n with conditions := n.conditions.modify key.index (·.deliver event) }).condition? node index =
      (r.condition? node index).map fun c =>
        if node = key.node ∧ index = key.index then c.deliver event else c := by
  have looked := node?_modifyNode key.node node r (f := fun n =>
    { n with conditions := n.conditions.modify key.index (·.deliver event) }) (fun _ => rfl)
  unfold condition?
  rw [looked]
  by_cases here : node = key.node
  · subst here
    rw [if_pos rfl]
    cases r.node? key.node with
    | none => rfl
    | some n =>
        simp only [Option.map_some, Option.bind_some, List.getElem?_modify]
        by_cases slot : index = key.index
        · simp [slot]
        · simp [slot, Ne.symm slot]
  · rw [if_neg here]
    simp [here]

/-- What a delivery makes of the runner: nothing, or the addressed slot is brought the event. -/
theorem deliver_runner {key : ConditionKey} {event : StoryEvent} {r r' : Runner} {j j' : Journal}
    {ready : Option NodeId} (made : r.deliver key event j = (ready, r', j')) :
    (∃ c, r.condition? key.node key.index = some c ∧ c.newlyMatched event = true ∧
      r' = r.modifyNode key.node fun n => { n with conditions := n.conditions.modify key.index (·.deliver event) }) ∨
    ((∀ c, r.condition? key.node key.index = some c → c.newlyMatched event = false) ∧ r' = r ∧ ready = none) := by
  unfold deliver at made
  unfold condition?
  split at made
  · rename_i missing
    cases made
    exact Or.inr ⟨by simp [missing], rfl, rfl⟩
  · rename_i c found
    split at made
    · rename_i matched
      dsimp only at made
      refine Or.inl ⟨c, found, matched, ?_⟩
      split at made
      · split at made <;> cases made <;> rfl
      · cases made
        rfl
    · rename_i unmatched
      cases made
      refine Or.inr ⟨?_, rfl, rfl⟩
      intro c' found'
      rw [found] at found'
      cases found'
      simpa using unmatched

/-- A node is called for by the delivery that satisfies the last of its conditions. -/
theorem ready_of_deliver {key : ConditionKey} {event : StoryEvent} {r r' : Runner} {j j' : Journal}
    {ready : Option NodeId} (made : r.deliver key event j = (ready, r', j')) {c : Condition}
    (found : r.condition? key.node key.index = some c) (matched : c.newlyMatched event = true) {d : Node}
    (known : r'.node? key.node = some d) (isReady : d.isReady = true)
    (waiting : r.statusOf? key.node = some .notStarted) : ready = some key.node := by
  have changed : ∀ y : Runner, y.node? key.node = some d → ((y.node? key.node).map (·.isReady)).getD false = true := by
    intro y knownY
    rw [knownY]
    exact isReady
  unfold condition? at found
  unfold deliver at made
  rw [found] at made
  dsimp only at made
  rw [if_pos matched, if_pos (show Runner.statusOf? (r.modifyNode key.node _) key.node = _ from waiting)] at made
  split at made
  · cases made
    rfl
  · rename_i unready
    cases made
    exact absurd (changed _ known) unready

/-- A node that a delivery makes ready has not started. -/
theorem waiting_of_ready {key : ConditionKey} {event : StoryEvent} {r r' : Runner} {j j' : Journal}
    {ready : Option NodeId} (made : r.deliver key event j = (ready, r', j')) {node : NodeId}
    (isReady : ready = some node) : node = key.node ∧ r.statusOf? key.node = some .notStarted := by
  subst isReady
  unfold deliver at made
  split at made
  · cases made
  · split at made
    · dsimp only at made
      split at made
      · rename_i waiting
        split at made
        · cases made
          exact ⟨rfl, waiting⟩
        · cases made
      · cases made
    · cases made

theorem deliver_latches {key : ConditionKey} {event : StoryEvent} {r r' : Runner} {j j' : Journal}
    {ready : Option NodeId} (made : r.deliver key event j = (ready, r', j')) : r.Latches r' := by
  refine ⟨(deliver_made made).1, ?_⟩
  rintro node index - ⟨c, found, satisfied⟩
  rcases deliver_runner made with ⟨-, -, -, rfl⟩ | ⟨-, rfl, -⟩
  · refine ⟨_, (condition?_latched key event r node index).trans (by rw [found]; rfl), ?_⟩
    dsimp only
    split
    · simp [Condition.deliver, satisfied]
    · exact satisfied
  · exact ⟨c, found, satisfied⟩

/-- The addressed condition is satisfied after the delivery if the event matches it. -/
theorem deliver_holds {key : ConditionKey} {event : StoryEvent} {r r' : Runner} {j j' : Journal}
    {ready : Option NodeId} (made : r.deliver key event j = (ready, r', j')) {c : Condition}
    (found : r.condition? key.node key.index = some c) (matched : c.kind.matchedBy event = true) :
    r'.Holds key.node key.index := by
  rcases deliver_runner made with ⟨-, -, -, rfl⟩ | ⟨unmatched, rfl, -⟩
  · refine ⟨c.deliver event, (condition?_latched key event r key.node key.index).trans (by simp [found]), ?_⟩
    simp [Condition.deliver, matched]
  · have known := unmatched c found
    refine ⟨c, found, ?_⟩
    simpa [Condition.newlyMatched, matched] using known

/-! ### What is satisfied has been so before -/

/-- No latch of `r'` has newly been set. -/
def Eases (r r' : Runner) : Prop := ∀ node index, r'.Holds node index → r.Holds node index

theorem setStatus_eases {r : Runner} {node : NodeId} (known : r.contains node = true) (status : NodeStatus) :
    r.Eases (r.setStatus node status) := by
  intro other index holds
  unfold Holds condition? at holds ⊢
  rwa [node?_setStatus known status other] at holds

theorem afterEnd_eases (node : NodeId) (r : Runner) : r.Eases (r.afterEnd node) := by
  rintro other index ⟨c, slot, satisfied⟩
  unfold condition? at slot
  rw [node?_afterEnd_eq] at slot
  split at slot
  · obtain ⟨d, found, placed⟩ := Option.bind_eq_some_iff.mp slot
    obtain ⟨d', _, rfl⟩ := Option.map_eq_some_iff.mp found
    unfold Node.mapConditions at placed
    rw [List.getElem?_map] at placed
    obtain ⟨c', _, rfl⟩ := Option.map_eq_some_iff.mp placed
    cases satisfied
  · exact ⟨c, slot, satisfied⟩

/-- After a delivery a latch is set only if it was before, or if the event was brought to it and matches. -/
theorem holds_of_deliver {key : ConditionKey} {event : StoryEvent} {r r' : Runner} {j j' : Journal}
    {ready : Option NodeId} (made : r.deliver key event j = (ready, r', j')) {node : NodeId} {index : Nat}
    (holds : r'.Holds node index) :
    r.Holds node index ∨ ∃ c, r.condition? node index = some c ∧ c.kind.matchedBy event = true := by
  obtain ⟨c', slot', satisfied⟩ := holds
  rcases deliver_runner made with ⟨-, -, -, rfl⟩ | ⟨-, rfl, -⟩
  · rw [condition?_latched] at slot'
    obtain ⟨c, slot, rfl⟩ := Option.map_eq_some_iff.mp slot'
    split at satisfied
    · rcases Bool.or_eq_true_iff.mp satisfied with before | matched
      · exact Or.inl ⟨c, slot, before⟩
      · exact Or.inr ⟨c, slot, matched⟩
    · exact Or.inl ⟨c, slot, satisfied⟩
  · exact Or.inl ⟨c', slot', satisfied⟩

end Plotline.Runner
