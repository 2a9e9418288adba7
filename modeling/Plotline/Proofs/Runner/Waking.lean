import Plotline.Proofs.Runner.Shadowed

/-!
Shadowed nodes that statuses can wake. A restored game shows the statuses to every definition of a node, and starts the
node if all conditions of one of them are satisfied by that. The module says which definitions this cannot come from.
-/

namespace Plotline

namespace Storyboard

variable {b : Storyboard} {n : Node}

/-- The condition is satisfied as soon as another node of the storyboard is complete. -/
def Awaits (b : Storyboard) (node : NodeId) (c : Condition) : Prop :=
  ∃ target, c.kind = .previousNodeCompleted target ∧ target ≠ node ∧ (b.node? target).isSome = true

/-- Other nodes that are complete can satisfy the last conditions of the node: of one that waits anew, or of one that
is not repeatable and has waited before. -/
inductive Wakes (b : Storyboard) (n : Node) : Prop
  | anew (nonempty : n.conditions ≠ []) (all : ∀ c ∈ n.conditions, b.Awaits n.id c)
  | further (once : n.isRepeatable = false) (lacks : ∃ c ∈ n.conditions, c.satisfied = false)
      (all : ∀ c ∈ n.conditions, c.satisfied = true ∨ b.Awaits n.id c)

/-- No shadowed node has a say: the storyboard does not begin with one, and no statuses wake one. -/
structure Inert (b : Storyboard) : Prop where
  begins : ∀ n, b.startNode? = some n → b.node? n.id = some n
  asleep : ∀ n ∈ b.shadowed, ¬ b.Wakes n

theorem Awaits.congr {b' : Storyboard} (same : ∀ node, (b'.node? node).isSome = (b.node? node).isSome)
    {node : NodeId} {c c' : Condition} (kind : c'.kind = c.kind) (awaits : b'.Awaits node c') : b.Awaits node c := by
  obtain ⟨target, isKind, other, known⟩ := awaits
  exact ⟨target, kind.symm.trans isKind, other, (same target).symm.trans known⟩

theorem Wakes.congr {b' : Storyboard} (same : ∀ node, (b'.node? node).isSome = (b.node? node).isSome)
    (wakes : b'.Wakes n) : b.Wakes n := by
  cases wakes with
  | anew nonempty all => exact .anew nonempty fun c slot => (all c slot).congr same rfl
  | further once lacks all =>
      exact .further once lacks fun c slot => (all c slot).imp_right fun awaits => awaits.congr same rfl

/-- What is done to the conditions gives the node no new chance to wake if it satisfies only those that await another
node, and releases all of them or none. -/
theorem Wakes.of_mapConditions {f : Condition → Condition} (kinds : ∀ c, (f c).kind = c.kind)
    (gained : ∀ c ∈ n.conditions, (f c).satisfied = true → c.satisfied = true ∨ b.Awaits n.id c)
    (lost : (∀ c ∈ n.conditions, (f c).satisfied = false → c.satisfied = false) ∨
      ∀ c ∈ n.conditions, (f c).satisfied = false)
    (wakes : b.Wakes (n.mapConditions f)) : b.Wakes n := by
  have unchanged : ∀ {c : Condition}, b.Awaits n.id (f c) → b.Awaits n.id c := fun awaits =>
    awaits.congr (fun _ => rfl) (kinds _)
  cases wakes with
  | anew nonempty all =>
      refine .anew (fun none => nonempty (List.map_eq_nil_iff.mpr none)) fun c slot => ?_
      exact unchanged (all (f c) (List.mem_map_of_mem slot))
  | further once lacks all =>
      obtain ⟨_, slot', unsatisfied⟩ := lacks
      obtain ⟨c, slot, rfl⟩ := List.mem_map.mp slot'
      rcases lost with kept | released
      · refine .further once ⟨c, slot, kept c slot unsatisfied⟩ fun c slot => ?_
        rcases all (f c) (List.mem_map_of_mem slot) with satisfied | awaits
        · exact gained c slot satisfied
        · exact Or.inr (unchanged awaits)
      · refine .anew (List.ne_nil_of_mem slot) fun c slot => ?_
        rcases all (f c) (List.mem_map_of_mem slot) with satisfied | awaits
        · rw [released c slot] at satisfied
          cases satisfied
        · exact unchanged awaits

end Storyboard

namespace Runner

variable {r : Runner} {entry : SnapshotEntry} {policy : RestorePolicy} {active : Option NodeId}

/-- The runner knows no node that its storyboard does not have. -/
def Knows (r : Runner) : Prop := ∀ node, r.contains node = true → (r.storyboard.node? node).isSome = true

theorem Listed.knows (listed : r.Listed) : r.Knows := fun node known => (listed node).symm.trans known

theorem Alike.sameNodes {r' : Runner} (alike : r.Alike r') (node : NodeId) :
    (r'.storyboard.node? node).isSome = (r.storyboard.node? node).isSome := by
  have same := congrArg Option.isSome (node?_unlatched r'.storyboard node)
  rw [alike.nodes, ← node?_unlatched] at same
  simpa using same

theorem Alike.knows {r' : Runner} (alike : r.Alike r') (knows : r.Knows) : r'.Knows := by
  intro node known
  rw [alike.sameNodes]
  exact knows node ((alike.known node).symm.trans known)

/-- No shadowed node of the runner can wake. -/
def Asleep (r : Runner) : Prop := ∀ n ∈ r.storyboard.shadowed, ¬ r.storyboard.Wakes n

theorem Asleep.of_alike {r' : Runner} (asleep : r.Asleep) (alike : r.Alike r')
    (same : r'.storyboard.shadowed = r.storyboard.shadowed) : r'.Asleep := by
  intro n member wakes
  rw [same] at member
  exact asleep n member (wakes.congr alike.sameNodes)

theorem Asleep.setUp (asleep : r.Asleep) (ch : Channel) : (r.setUp ch).2.1.Asleep := by
  intro n member wakes
  rw [shadowed_setUp] at member
  obtain ⟨m, among, rfl⟩ := List.mem_map.mp member
  refine asleep m among (Storyboard.Wakes.of_mapConditions (f := fun c => { c with subscription := none })
    (fun _ => rfl) (fun _ _ => Or.inl) (Or.inl ?_) (wakes.congr (r.setUp_sameNodes ch)))
  exact fun _ _ unsatisfied => unsatisfied

/-! ### Restoring -/

section

variable {x : Restoration} {n : Node}

private theorem awaits_of_settledBy (waiting : x.statuses.get? n.id = some .notStarted)
    (knows : ∀ node, (x.statuses.get? node).isSome = true → (r.storyboard.node? node).isSome = true) {c : Condition}
    (settled : c.kind.settledBy x.statuses = true) : r.storyboard.Awaits n.id c := by
  unfold ConditionKind.settledBy at settled
  split at settled
  · rename_i target kind
    have complete : x.statuses.get? target = some .completed := of_decide_eq_true settled
    refine ⟨target, kind, ?_, knows target (by rw [complete]; rfl)⟩
    rintro rfl
    cases waiting.symm.trans complete
  · cases settled

/-- A node is started by its statuses if it waits, is shown them, and lacks nothing any more by that. -/
def Ready (x : Restoration) (n : Node) : Bool :=
  (decide (x.statuses.get? n.id = some .notStarted) && x.includes n) && n.conditions.any (·.newlySettled x.statuses) &&
    (n.mapConditions (·.settle x.statuses)).isReady

private theorem wakes_of_ready
    (knows : ∀ node, (x.statuses.get? node).isSome = true → (r.storyboard.node? node).isSome = true)
    (ready : Ready x (x.rearm n) = true) : r.storyboard.Wakes n := by
  unfold Ready Restoration.includes at ready
  simp only [Bool.and_eq_true, decide_eq_true_eq, Bool.or_eq_true, x.rearm_id] at ready
  obtain ⟨⟨⟨waiting, included⟩, some⟩, all⟩ := ready
  obtain ⟨c, slot, newly⟩ := List.any_eq_true.mp some
  unfold Node.isReady at all
  rw [List.all_eq_true] at all
  unfold Restoration.rearm at included slot all
  by_cases changed : x.changed.contains n.id = true
  · rw [changed, waiting] at slot all
    obtain ⟨c', slot', -⟩ := List.mem_map.mp slot
    refine .anew (List.ne_nil_of_mem slot') fun c slot => ?_
    have satisfied := all _ (List.mem_map_of_mem (List.mem_map_of_mem slot))
    exact awaits_of_settledBy waiting knows (by simpa [Condition.settle, Condition.reset] using satisfied)
  · rw [Bool.not_eq_true] at changed
    rw [changed] at included slot all
    refine .further (by simpa using included) ⟨c, slot, ?_⟩ fun c slot => ?_
    · unfold Condition.newlySettled at newly
      simp only [Bool.and_eq_true, Bool.not_eq_true'] at newly
      exact newly.1
    · have satisfied := all _ (List.mem_map_of_mem slot)
      unfold Condition.settle at satisfied
      exact (Bool.or_eq_true_iff.mp satisfied).imp_right fun settled => awaits_of_settledBy waiting knows settled

/-- What becomes of a node that is restored. -/
private def shown (x : Restoration) (n : Node) : Node :=
  if decide (x.statuses.get? (x.rearm n).id = some .notStarted) && x.includes (x.rearm n) then
    (x.rearm n).mapConditions (·.settle x.statuses)
  else x.rearm n

private theorem shown_id (x : Restoration) (n : Node) : (shown x n).id = n.id := by
  unfold shown
  split <;> exact x.rearm_id n

private theorem wakes_of_rearm (wakes : r.storyboard.Wakes (x.rearm n)) : r.storyboard.Wakes n := by
  unfold Restoration.rearm at wakes
  split at wakes
  · refine Storyboard.Wakes.of_mapConditions (f := (·.reset)) (fun _ => rfl) ?_ (Or.inr fun _ _ => rfl) wakes
    intro _ _ satisfied
    cases satisfied
  · exact wakes

private theorem wakes_of_shown
    (knows : ∀ node, (x.statuses.get? node).isSome = true → (r.storyboard.node? node).isSome = true)
    (wakes : r.storyboard.Wakes (shown x n)) : r.storyboard.Wakes n := by
  unfold shown at wakes
  split at wakes
  · rename_i affected
    have waiting := of_decide_eq_true (Bool.and_eq_true_iff.mp affected).1
    refine wakes_of_rearm (Storyboard.Wakes.of_mapConditions (f := (·.settle x.statuses)) (fun _ => rfl)
      (fun c _ satisfied => ?_) (Or.inl fun c _ lacks => ?_) wakes)
    · exact (Bool.or_eq_true_iff.mp satisfied).imp_right fun settled => awaits_of_settledBy waiting knows settled
    · exact (Bool.or_eq_false_iff.mp lacks).1
  · exact wakes_of_rearm wakes

end

private theorem rewound_pruned (r : Runner) (x : Restoration) : r.pruned.rewound x = (r.rewound x).pruned :=
  mapNodes_pruned x.rearm_id { r with statuses := x.statuses }

theorem taken_pruned (r : Runner) : r.pruned.taken entry policy active = r.taken entry policy active := by
  have same : r.pruned.statuses = r.statuses := rfl
  exact restoration_congr same entry.nodes { statuses := r.statuses } [] []

theorem restore_pruned (entry : SnapshotEntry) (policy : RestorePolicy) (active : Option NodeId) (r : Runner)
    (j j' : Journal) :
    (r.pruned.restore entry policy active j').2.1 = (r.restore entry policy active j).2.1.pruned := by
  rw [(restore_eq entry j').2, (restore_eq entry j).2, taken_pruned, rewound_pruned]
  split
  · rfl
  · exact evaluate_pruned _ _ _ _

/-- The nodes that are ready are those whose definitions are, the shadowed ones among them. -/
theorem evaluate_rewound (r : Runner) (x : Restoration) :
    ((r.rewound x).evaluate x.includes []).1 =
      ((r.storyboard.nodes.map x.rearm).filter (Ready x)).map (·.id) := rfl

theorem Asleep.restart (asleep : r.Asleep) (knows : r.Knows) (entry : SnapshotEntry) (policy : RestorePolicy)
    (active : Option NodeId) (j j' : Journal) :
    (r.pruned.restore entry policy active j').1 = (r.restore entry policy active j).1 := by
  rw [(restore_eq entry j').1, (restore_eq entry j).1, taken_pruned, evaluate_rewound, evaluate_rewound]
  have among : r.pruned.storyboard.nodes.map (r.taken entry policy active).rearm =
      Node.firsts [] (r.storyboard.nodes.map (r.taken entry policy active).rearm) :=
    (Node.firsts_map (Restoration.rearm_id _) [] r.storyboard.nodes).symm
  rw [among, Node.filter_firsts]
  intro n member
  rw [Node.shadowed_map (Restoration.rearm_id _)] at member
  obtain ⟨m, shadowed, rfl⟩ := List.mem_map.mp member
  rw [Bool.eq_false_iff]
  intro ready
  refine asleep m shadowed (wakes_of_ready ?_ ready)
  intro node known
  rw [← statusOf?_restore entry j] at known
  exact knows node (((r.restore_spec entry policy active j).1.alike.known node).symm.trans known)

theorem Asleep.restore (asleep : r.Asleep) (knows : r.Knows) (entry : SnapshotEntry) (policy : RestorePolicy)
    (active : Option NodeId) (j : Journal) : (r.restore entry policy active j).2.1.Asleep := by
  have alike := (r.restore_spec entry policy active j).1.alike
  have known : ∀ node, ((r.taken entry policy active).statuses.get? node).isSome = true →
      (r.storyboard.node? node).isSome = true := by
    intro node known
    rw [← statusOf?_restore entry j] at known
    exact knows node ((alike.known node).symm.trans known)
  intro n member wakes
  have wakes := wakes.congr alike.sameNodes
  rw [(restore_eq entry j).2] at member
  split at member
  · rw [rewound, shadowed_mapNodes (Restoration.rearm_id _)] at member
    obtain ⟨m, shadowed, rfl⟩ := List.mem_map.mp member
    exact asleep m shadowed (wakes_of_rearm wakes)
  · have shows : ((r.rewound (r.taken entry policy active)).evaluate (r.taken entry policy active).includes []).2.1 =
        { r with statuses := (r.taken entry policy active).statuses }.mapNodes (shown (r.taken entry policy active)) := by
      unfold evaluate rewound mapNodes
      dsimp only
      rw [List.map_map]
      rfl
    rw [shows, shadowed_mapNodes (shown_id _)] at member
    obtain ⟨m, shadowed, rfl⟩ := List.mem_map.mp member
    exact asleep m shadowed (wakes_of_shown known wakes)

end Runner

end Plotline
