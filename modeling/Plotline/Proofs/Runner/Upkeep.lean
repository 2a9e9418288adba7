import Plotline.Proofs.Runner.Alike

/-!
What the operations of a runner other than the end of a node do to it: setting up, latching conditions, restoring
and beginning a node.
-/

namespace Plotline.Runner

/-! ### Conditions -/

theorem evaluate_alike (included : Node → Bool) (r : Runner) (j : Journal) :
    r.Alike (r.evaluate included j).2.1 := by
  apply alike_mapNodes r
  intro n
  dsimp only
  split
  · exact Node.unlatched_mapConditions (f := (·.settle r.statuses)) (fun _ => rfl) n
  · rfl

theorem evaluate_quiet (included : Node → Bool) (r : Runner) (j : Journal) :
    j.Quiet (r.evaluate included j).2.2 := by
  apply Journal.notes_quiet
  intro n member
  obtain ⟨kind, _, rfl⟩ := List.mem_map.mp member
  rfl

theorem deliver_alike (key : ConditionKey) (event : StoryEvent) (r : Runner) (j : Journal) :
    r.Alike (r.deliver key event j).2.1 := by
  have latched := alike_modifyNode key.node r (f := fun n =>
    { n with conditions := n.conditions.modify key.index (·.deliver event) })
    (Node.unlatched_modify key.index (f := (·.deliver event)) fun _ => rfl)
  unfold deliver
  split
  · exact .refl r
  · split
    · dsimp only
      split
      · split <;> exact latched
      · exact latched
    · exact .refl r

theorem deliver_statuses (key : ConditionKey) (event : StoryEvent) (r : Runner) (j : Journal) :
    (r.deliver key event j).2.1.statuses = r.statuses := by
  unfold deliver
  split
  · rfl
  · split
    · dsimp only
      split
      · split <;> rfl
      · rfl
    · rfl

theorem deliver_quiet (key : ConditionKey) (event : StoryEvent) (r : Runner) (j : Journal) :
    j.Quiet (r.deliver key event j).2.2 := by
  unfold deliver
  split
  · exact .refl j
  · rename_i condition _
    have noted : j.Quiet (j.note (.satisfied condition.kind)) := Journal.note_quiet rfl j
    split
    · dsimp only
      split
      · split <;> exact noted
      · exact noted.trans (Journal.note_quiet rfl _)
    · exact .refl j

/-- A delivery sets latches of the runner and nothing else. -/
theorem deliver_made {key : ConditionKey} {event : StoryEvent} {r r' : Runner} {j j' : Journal}
    {ready : Option NodeId} (made : r.deliver key event j = (ready, r', j')) :
    r.Alike r' ∧ r'.statuses = r.statuses ∧ j.Quiet j' := by
  have alike := r.deliver_alike key event j
  have statuses := r.deliver_statuses key event j
  have quiet := r.deliver_quiet key event j
  rw [made] at alike statuses quiet
  exact ⟨alike, statuses, quiet⟩

/-! ### Restoring -/

/-- Restoring changes statuses of known nodes only, and never that of the active one. -/
structure Restoration.Keeps (r : Runner) (active : Option NodeId) (x : Restoration) : Prop where
  known : ∀ node, (x.statuses.get? node).isSome = r.contains node
  kept : ∀ node, some node = active → x.statuses.get? node = r.statusOf? node

private theorem Restoration.take_statuses (policy : RestorePolicy) (state : NodeState) (x : Restoration) :
    (x.take policy state).statuses = x.statuses.set state.node (restoredStatus policy state.status).1 := rfl

private theorem Restoration.Keeps.take {r : Runner} {active : Option NodeId} {x : Restoration} {state : NodeState}
    (keeps : x.Keeps r active) (known : r.contains state.node = true) (other : some state.node ≠ active)
    (policy : RestorePolicy) : (x.take policy state).Keeps r active := by
  refine ⟨?_, ?_⟩
  · intro node
    by_cases same : node = state.node
    · simp [take_statuses, StatusTable.get?_set, same, known]
    · simpa [take_statuses, StatusTable.get?_set, same] using keeps.known node
  · intro node isActive
    have different : node ≠ state.node := fun same => other (same ▸ isActive)
    simpa [take_statuses, StatusTable.get?_set, different] using keeps.kept node isActive

private theorem restoration_keeps (r : Runner) (policy : RestorePolicy) (active : Option NodeId)
    (states : List NodeState) (x : Restoration) (j : Journal) (keeps : x.Keeps r active) :
    (r.restoration policy active states x j).1.Keeps r active ∧ j.Quiet (r.restoration policy active states x j).2 := by
  induction states generalizing x j with
  | nil => exact ⟨keeps, .refl j⟩
  | cons state states ih =>
      unfold restoration
      cases known : r.contains state.node with
      | false =>
          have rest := ih x (j.note (.unknownSnapshotNode r.id state.node)) keeps
          exact ⟨rest.1, (Journal.note_quiet rfl j).trans rest.2⟩
      | true =>
          by_cases other : some state.node = active
          · simpa [other] using ih x j keeps
          · simpa [other] using ih (x.take policy state) j (keeps.take known other policy)

private theorem restored_alike {r : Runner} {active : Option NodeId} {x : Restoration} (keeps : x.Keeps r active)
    {f : Node → Node} (latches : ∀ n, (f n).unlatched = n.unlatched) :
    r.Alike ({ r with statuses := x.statuses }.mapNodes f) := by
  have taken : r.Alike { r with statuses := x.statuses } := ⟨rfl, rfl, rfl, rfl, keeps.known⟩
  exact taken.trans (alike_mapNodes _ latches)

/-- What restoring a runner keeps: its nature, and the status of the active node. -/
structure Restored (active : Option NodeId) (r r' : Runner) : Prop where
  alike : r.Alike r'
  kept : ∀ node, some node = active → r'.statusOf? node = r.statusOf? node

theorem restore_spec (entry : SnapshotEntry) (policy : RestorePolicy) (active : Option NodeId) (r : Runner)
    (j : Journal) :
    Restored active r (r.restore entry policy active j).2.1 ∧ j.Quiet (r.restore entry policy active j).2.2 := by
  have start : ({ statuses := r.statuses } : Restoration).Keeps r active := ⟨fun _ => rfl, fun _ _ => rfl⟩
  unfold restore
  dsimp only
  generalize named : (if entry.storyboard = r.storyboard.name then j
    else j.note (.foreignSnapshot r.id entry.storyboard r.storyboard.name)) = j'
  have greeted : j.Quiet j' := by
    rw [← named]
    split
    · exact .refl j
    · exact Journal.note_quiet rfl j
  obtain ⟨keeps, quiet⟩ := restoration_keeps r policy active entry.nodes _ j' start
  revert keeps quiet
  generalize r.restoration policy active entry.nodes { statuses := r.statuses } j' = result
  obtain ⟨x, journal⟩ := result
  intro keeps quiet
  have noted := (greeted.trans quiet).trans
    (Journal.note_quiet (n := .restored r.id entry.nodes.length x.changed.length) rfl journal)
  have alike : r.Alike ({ r with statuses := x.statuses }.mapNodes fun n =>
      if x.changed.contains n.id && decide (x.statuses.get? n.id = some NodeStatus.notStarted) then
        n.mapConditions (·.reset)
      else n) := by
    apply restored_alike keeps
    intro n
    split
    · exact Node.unlatched_mapConditions (f := (·.reset)) (fun _ => rfl) n
    · rfl
  dsimp only
  split
  · exact ⟨⟨alike, keeps.kept⟩, noted⟩
  · refine ⟨⟨alike.trans (evaluate_alike _ _ _), keeps.kept⟩, noted.trans (evaluate_quiet _ _ _)⟩

theorem restore_made {entry : SnapshotEntry} {policy : RestorePolicy} {active : Option NodeId} {r r' : Runner}
    {j j' : Journal} {nodes : List NodeId} (made : r.restore entry policy active j = (nodes, r', j')) :
    Restored active r r' ∧ j.Quiet j' := by
  have spec := r.restore_spec entry policy active j
  rw [made] at spec
  exact spec

/-! ### Setting up -/

private theorem enlist_quiet (runner : RunnerId) (statuses : StatusTable) (j : Journal) (nodes : List Node) :
    j.Quiet (enlist runner statuses j nodes).2 := by
  induction nodes generalizing statuses j with
  | nil => exact .refl j
  | cons n nodes ih =>
      unfold enlist
      split
      · exact (Journal.note_quiet rfl j).trans (ih _ _)
      · dsimp only
        split
        · exact ih _ _
        · exact (Journal.note_quiet rfl j).trans (ih _ _)

private theorem subscribeConditions_rewired (runner : RunnerId) (node : NodeId) (index : Nat) (ch : Channel)
    (conditions : List Condition) : ch.Rewired (subscribeConditions runner node index ch conditions).2 := by
  induction conditions generalizing index ch with
  | nil => exact .refl ch
  | cons c conditions ih => exact (ch.subscribe_rewired _ _).trans (ih _ _)

private theorem subscribeNodes_rewired (runner : RunnerId) (seen : List NodeId) (ch : Channel) (nodes : List Node) :
    ch.Rewired (subscribeNodes runner seen ch nodes).2 := by
  induction nodes generalizing seen ch with
  | nil => exact .refl ch
  | cons n nodes ih =>
      unfold subscribeNodes
      split
      · exact ih _ _
      · exact (subscribeConditions_rewired _ _ _ _ _).trans (ih _ _)

theorem takeDown_rewired (r : Runner) (ch : Channel) : ch.Rewired (r.takeDown ch).2 :=
  (ch.unsubscribeAll_rewired _).trans (Channel.unsubscribeAll_rewired _ _)

theorem setUp_rewired (r : Runner) (ch : Channel) : ch.Rewired (r.setUp ch).2.2 := by
  have down := r.takeDown_rewired ch
  unfold setUp
  dsimp only
  generalize r.takeDown ch = result at down ⊢
  obtain ⟨r', ch'⟩ := result
  have enlisted := enlist_quiet r'.id [] ch'.journal r'.storyboard.nodes
  have listed := down.thenQuiet (ch'.journal_quiet enlisted)
  have conditions := listed.trans (subscribeNodes_rewired r'.id [] _ r'.storyboard.nodes)
  have jumps := conditions.trans (Channel.subscribe_rewired .jumpRequested (.runner r'.id) _)
  have own := jumps.trans (Channel.subscribe_rewired .triggerRequested (.runner r'.id) _)
  exact (own.thenQuiet (Channel.note_quiet rfl _)).thenQuiet (Channel.journal_quiet _ (evaluate_quiet _ _ _))

/-! ### Beginning a node -/

/-- The runner knows exactly the nodes of its storyboard. -/
def Listed (r : Runner) : Prop := ∀ node, r.contains node = (r.storyboard.node? node).isSome

theorem Listed.node? {r : Runner} (listed : r.Listed) (node : NodeId) : r.node? node = r.storyboard.node? node := by
  unfold Runner.node?
  split
  · rfl
  · rename_i unknown
    rw [listed node, Bool.not_eq_true, Option.isSome_eq_false_iff, Option.isNone_iff_eq_none] at unknown
    exact unknown.symm

theorem Listed.found {r : Runner} (listed : r.Listed) {node : NodeId} {status : NodeStatus}
    (known : r.statusOf? node = some status) : ∃ d, r.node? node = some d := by
  have contained := contains_of_status known
  rw [listed node] at contained
  rw [listed.node?]
  exact Option.isSome_iff_exists.mp contained

theorem Alike.listed {r r' : Runner} (alike : r.Alike r') (listed : r.Listed) : r'.Listed := by
  intro node
  have same : (r'.storyboard.node? node).isSome = (r.storyboard.node? node).isSome :=
    calc (r'.storyboard.node? node).isSome
      _ = ((r'.storyboard.node? node).map Node.unlatched).isSome := by simp
      _ = ((r.storyboard.node? node).map Node.unlatched).isSome := by
        rw [node?_unlatched, node?_unlatched, alike.nodes]
      _ = (r.storyboard.node? node).isSome := by simp
  rw [alike.known, listed node, same]

/-- What there is to say when a node cannot begin. -/
def refusal (r : Runner) (node : NodeId) : Note :=
  match r.statusOf? node with
  | none => .startOfUnknownNode r.id node
  | some status => .startIgnored r.id node status

theorem refusal_isPlain (r : Runner) (node : NodeId) : (r.refusal node).isPlain = true := by
  unfold refusal
  split <;> rfl

/-- A node begins exactly if it has not started; otherwise nothing happens to the runner. -/
theorem beginNode_cases (node : NodeId) {r : Runner} (listed : r.Listed) (ch : Channel) :
    (r.beginNode node ch = (none, r, ch.note (r.refusal node)) ∧ r.statusOf? node ≠ some .notStarted) ∨
      ∃ d, r.beginNode node ch = (some d.program, r.setStatus node .inProgress,
          (ch.publish (.nodeStarted r.id r.storyboard.name node)).note (.nodeStarted r.id node)) ∧
        r.statusOf? node = some .notStarted ∧ r.node? node = some d := by
  unfold beginNode refusal
  cases status : r.statusOf? node with
  | none => exact Or.inl ⟨rfl, nofun⟩
  | some status' =>
      cases status' with
      | notStarted =>
          obtain ⟨d, found⟩ := listed.found status
          rw [found]
          exact Or.inr ⟨d, rfl, rfl, rfl⟩
      | inProgress => exact Or.inl ⟨rfl, nofun⟩
      | completed => exact Or.inl ⟨rfl, nofun⟩

end Plotline.Runner
