import Plotline.Proofs.Runner.Restoration

/-!
What a runner recalls of its latches when it is restored right after it was set up. A latch is not saved; what can be
read off the statuses is read anew, by those nodes that run only once.
-/

namespace Plotline.Runner

variable {x y : Runner} {policy : RestorePolicy}

theorem id_of_node? {r : Runner} {node : NodeId} {d : Node} (known : r.node? node = some d) : d.id = node := by
  unfold node? Storyboard.node? at known
  split at known
  · simpa using List.find?_some known
  · cases known

theorem node?_mapNodes {f : Node → Node} (keeps : ∀ n, (f n).id = n.id) (r : Runner) (node : NodeId) :
    (r.mapNodes f).node? node = (r.node? node).map f := by
  have looked : (r.mapNodes f).storyboard.node? node = (r.storyboard.node? node).map f := by
    unfold Storyboard.node? mapNodes
    dsimp only
    rw [List.find?_map]
    simp only [Function.comp_def, keeps]
  unfold node?
  rw [looked]
  have known : (r.mapNodes f).contains node = r.contains node := rfl
  rw [known]
  split <;> rfl

/-- Of the conditions of nodes that wait in `x` those are satisfied that the statuses there settle, unless the node can
run more than once. -/
def Recalls (x z : Runner) : Prop :=
  ∀ node index c, z.condition? node index = some c → x.statusOf? node = some .notStarted →
    (c.satisfied = true ↔ z.repeats node = false ∧ c.kind.settledBy x.statuses = true)

private theorem node?_rewound (alike : y.Alike x) {taken : Restoration}
    (agrees : ∀ node, taken.statuses.get? node = x.statusOf? node) {node : NodeId}
    (unchanged : taken.changed.contains node = false) : (y.rewound taken).node? node = y.node? node := by
  have known : { y with statuses := taken.statuses }.node? node = y.node? node := by
    have same : { y with statuses := taken.statuses }.contains node = y.contains node :=
      (congrArg Option.isSome (agrees node)).trans (alike.known node)
    unfold node?
    rw [same]
  have mapped := node?_mapNodes taken.rearm_id { y with statuses := taken.statuses } node
  unfold Runner.rewound
  rw [mapped, known]
  cases here : y.node? node with
  | none => rfl
  | some d =>
      unfold Restoration.rearm
      rw [Option.map_some, id_of_node? here, unchanged]
      rfl

/-- The nodes that wait in `x` are shown its statuses, if they run only once and any status is new. -/
private theorem node?_restored {bus : Bus} (primed : y.Primed bus) (alike : y.Alike x) (settled : x.Settled)
    (policy : RestorePolicy) (j : Journal) {node : NodeId} (waiting : x.statusOf? node = some .notStarted) :
    (y.restore x.capture policy none j).2.1.node? node = (y.node? node).map fun d =>
      if (y.taken x.capture policy none).changed = [] ∨ d.isRepeatable = true then d
      else d.mapConditions (·.settle (y.taken x.capture policy none).statuses) := by
  obtain ⟨nears, agrees⟩ : (y.taken x.capture policy none).Nears x ∧
      ∀ node, (y.taken x.capture policy none).statuses.get? node = x.statusOf? node :=
    restoration_capture policy primed.toFresh alike settled []
  rw [(restore_eq x.capture j).2]
  revert nears agrees
  generalize y.taken x.capture policy none = taken
  intro nears agrees
  have unchanged : taken.changed.contains node = false := by
    by_contra changed
    have complete := nears.changed node (by simpa using changed)
    cases complete.symm.trans waiting
  have rewound : (y.rewound taken).node? node = y.node? node := node?_rewound alike agrees unchanged
  by_cases none : taken.changed = []
  · rw [if_pos (by rw [none]; rfl), rewound]
    simp [none]
  · rw [if_neg (by simpa using none)]
    have shown : ((y.rewound taken).evaluate taken.includes []).2.1 = (y.rewound taken).mapNodes fun n =>
        if (y.rewound taken).statusOf? n.id = some .notStarted && taken.includes n then
          n.mapConditions (·.settle taken.statuses)
        else n := rfl
    rw [shown, node?_mapNodes, rewound]
    · cases here : y.node? node with
      | none => rfl
      | some d =>
          have same := id_of_node? here
          have waits : (y.rewound taken).statusOf? node = some .notStarted := (agrees node).trans waiting
          unfold Restoration.includes
          rw [Option.map_some, Option.map_some, same, waits, unchanged]
          cases again : d.isRepeatable <;> simp [none]
    · intro n
      split <;> rfl

/-- As long as no status is new, none of the saved nodes is complete. -/
private theorem incomplete_of_unchanged (fresh : y.Fresh)
    (agrees : ∀ node, (y.taken x.capture policy none).statuses.get? node = x.statusOf? node)
    (none : (y.taken x.capture policy none).changed = []) (kind : ConditionKind) :
    kind.settledBy x.statuses = false := by
  cases kind with
  | previousNodeCompleted target =>
      apply decide_eq_false
      intro complete
      have same : x.statusOf? target = y.statusOf? target := by
        rw [← agrees]
        by_contra other
        have changed := changed_of_ne other
        rw [none] at changed
        cases changed
      cases fresh.waiting target .completed (same.symm.trans complete)
  | areaEntered area => rfl
  | interactionTriggered interaction => rfl

theorem restore_recalls {bus : Bus} (primed : y.Primed bus) (alike : y.Alike x) (settled : x.Settled)
    (policy : RestorePolicy) (j : Journal) : Recalls x (y.restore x.capture policy none j).2.1 := by
  intro node index c slot waiting
  obtain ⟨d, known, slot⟩ := Option.bind_eq_some_iff.mp slot
  have repeats : (y.restore x.capture policy none j).2.1.repeats node = d.isRepeatable := by
    unfold Runner.repeats
    rw [known]
    rfl
  rw [node?_restored primed alike settled policy j waiting] at known
  obtain ⟨d₀, known₀, rfl⟩ := Option.map_eq_some_iff.mp known
  have agrees := (restoration_capture policy primed.toFresh alike settled []).2
  rw [repeats]
  split at slot
  · rename_i kept
    rw [if_pos kept, (primed.listens_of_node? known₀ slot).1]
    rcases kept with none | again
    · rw [incomplete_of_unchanged primed.toFresh agrees none]
      simp
    · rw [again]
      simp
  · rename_i shown
    rw [if_neg shown]
    obtain ⟨-, once⟩ := not_or.mp shown
    unfold Node.mapConditions at slot
    rw [List.getElem?_map] at slot
    obtain ⟨c₀, slot₀, rfl⟩ := Option.map_eq_some_iff.mp slot
    have same : c₀.kind.settledBy (y.taken x.capture policy none).statuses = c₀.kind.settledBy x.statuses :=
      settledBy_congr agrees c₀.kind
    have onceOnly : (d₀.mapConditions (·.settle (y.taken x.capture policy none).statuses)).isRepeatable = false :=
      eq_false_of_ne_true once
    rw [onceOnly]
    simp [Condition.settle, (primed.listens_of_node? known₀ slot₀).1, same]

end Plotline.Runner
