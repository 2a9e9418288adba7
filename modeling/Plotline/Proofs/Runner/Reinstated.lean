import Plotline.Proofs.Runner.Recall

/-!
Restoring a runner whatever has become of it. If no id occurs twice among its nodes or in the entry, the statuses are
those of the entry, the latches of every other node are as they were, what is to start is ready to, and restoring once
more finds nothing left to do.
-/

namespace Plotline.Runner

variable {r : Runner} {entry : SnapshotEntry} {policy : RestorePolicy} {active : Option NodeId}

/-! ### The nodes whose status changes -/

/-- As the entry tells of each node once, a status changes from what it was at the start. -/
private theorem recorded_of_changed (states : List NodeState) (x : Restoration) (j : Journal)
    (single : (states.map (·.node)).Nodup) {node : NodeId}
    (changed : node ∈ (r.restoration policy active states x j).1.changed) :
    node ∈ x.changed ∨ ∃ state ∈ states, state.node = node ∧ r.contains node = true ∧ some node ≠ active ∧
      x.statuses.get? node ≠ some (policy.due state.status) := by
  induction states generalizing x j with
  | nil => exact Or.inl changed
  | cons state states ih =>
      obtain ⟨unlisted, single⟩ := List.nodup_cons.mp single
      unfold restoration at changed
      split at changed
      · rcases ih _ _ single changed with before | ⟨other, member, found⟩
        · exact Or.inl before
        · exact Or.inr ⟨other, List.mem_cons_of_mem state member, found⟩
      · rename_i known
        split at changed
        · rcases ih _ _ single changed with before | ⟨other, member, found⟩
          · exact Or.inl before
          · exact Or.inr ⟨other, List.mem_cons_of_mem state member, found⟩
        · rename_i inactive
          rcases ih _ _ single changed with before | ⟨other, member, rfl, known', inactive', differs⟩
          · unfold Restoration.take at before
            rw [restoredStatus_eq] at before
            dsimp only at before
            split at before
            · exact Or.inl before
            · rename_i differs
              rcases List.mem_append.mp before with old | new
              · exact Or.inl old
              · obtain rfl := List.mem_singleton.mp new
                refine Or.inr ⟨state, List.mem_cons_self, rfl, by simpa using known, inactive, ?_⟩
                exact fun same => differs (by simp [same])
          · have elsewhere : other.node ≠ state.node := fun same =>
              unlisted (List.mem_map.mpr ⟨other, member, same⟩)
            refine Or.inr ⟨other, List.mem_cons_of_mem state member, rfl, known', inactive', ?_⟩
            rwa [Restoration.take, StatusTable.get?_set, if_neg elsewhere] at differs

/-- The nodes that count as changed are those whose status is another one than before. -/
theorem changed_iff (single : (entry.nodes.map (·.node)).Nodup) (node : NodeId) :
    (r.taken entry policy active).changed.contains node = true ↔
      (r.taken entry policy active).statuses.get? node ≠ r.statusOf? node := by
  refine ⟨?_, changed_of_ne⟩
  intro changed
  obtain ⟨state, member, rfl, known, inactive, differs⟩ :=
    (recorded_of_changed entry.nodes { statuses := r.statuses } [] single
      (List.contains_iff_mem.mp changed)).resolve_left List.not_mem_nil
  rw [get?_taken, if_pos ⟨known, inactive⟩, recorded_due single member]
  exact Ne.symm differs

/-! ### The nodes -/

/-- The node once it is shown the statuses that are taken over. -/
def Restoration.refresh (x : Restoration) (n : Node) : Node :=
  if decide (x.statuses.get? n.id = some .notStarted) && (!x.changed.isEmpty && x.includes n) then
    n.mapConditions (·.settle x.statuses)
  else n

theorem Restoration.refresh_id (x : Restoration) (n : Node) : (x.refresh n).id = n.id := by
  unfold refresh
  split <;> rfl

/-- The nodes are first reset where they are to wait anew, and then shown the statuses. -/
theorem restore_runner (entry : SnapshotEntry) (policy : RestorePolicy) (active : Option NodeId) (j : Journal) :
    (r.restore entry policy active j).2.1 =
      (r.rewound (r.taken entry policy active)).mapNodes (r.taken entry policy active).refresh := by
  rw [(restore_eq entry j).2]
  generalize r.taken entry policy active = x
  split
  · rename_i same
    have idle : x.refresh = fun n => n := by
      funext n
      simp [Restoration.refresh, same]
    rw [idle]
    simp [mapNodes]
  · rename_i differs
    have shown : x.refresh = fun n =>
        if (r.rewound x).statusOf? n.id = some .notStarted && x.includes n then n.mapConditions (·.settle x.statuses)
        else n := by
      funext n
      have status : (r.rewound x).statusOf? n.id = x.statuses.get? n.id := rfl
      simp [Restoration.refresh, differs, status]
    rw [shown]
    rfl

theorem node?_restore (entry : SnapshotEntry) (policy : RestorePolicy) (active : Option NodeId) (j : Journal)
    (node : NodeId) :
    (r.restore entry policy active j).2.1.node? node = (r.node? node).map fun d =>
      (r.taken entry policy active).refresh ((r.taken entry policy active).rearm d) := by
  have known : { r with statuses := (r.taken entry policy active).statuses }.node? node = r.node? node := by
    have same : { r with statuses := (r.taken entry policy active).statuses }.contains node = r.contains node := by
      rw [← (r.restore_spec entry policy active j).1.alike.known node]
      exact congrArg Option.isSome (statusOf?_restore entry j node).symm
    unfold node?
    rw [same]
  rw [restore_runner, node?_mapNodes (Restoration.refresh_id _), rewound, node?_mapNodes (Restoration.rearm_id _),
    known, Option.map_map]
  rfl

/-- A latch is released only where the status has changed. -/
theorem condition?_restore (single : (entry.nodes.map (·.node)).Nodup) {node : NodeId} {index : Nat} {c : Condition}
    (slot : r.condition? node index = some c) (satisfied : c.satisfied = true) (j : Journal)
    (same : (r.restore entry policy active j).2.1.statusOf? node = r.statusOf? node) :
    (r.restore entry policy active j).2.1.condition? node index = some c := by
  rw [statusOf?_restore] at same
  have unchanged : (r.taken entry policy active).changed.contains node = false := by
    rw [← Bool.not_eq_true, changed_iff single]
    exact fun differs => differs same
  obtain ⟨d, found, slot⟩ := Option.bind_eq_some_iff.mp slot
  have kept : (r.taken entry policy active).rearm d = d := by
    unfold Restoration.rearm
    rw [id_of_node? found, unchanged]
    rfl
  unfold condition?
  rw [node?_restore, found, Option.map_some, Option.bind_some, kept]
  unfold Restoration.refresh
  split
  · -- Showing it statuses leaves a satisfied condition as it is.
    have settled : c.settle (r.taken entry policy active).statuses = c := by
      unfold Condition.settle
      rw [satisfied, Bool.true_or, ← satisfied]
    simp [Node.mapConditions, slot, settled]
  · exact slot

/-! ### What is to start -/

theorem mem_appendNew {nodes ready : List NodeId} {node : NodeId} :
    node ∈ appendNew nodes ready ↔ node ∈ ready ∨ node ∈ nodes := by
  unfold appendNew
  induction nodes generalizing ready with
  | nil => simp
  | cons first nodes ih =>
      rw [List.foldl_cons, ih, List.mem_cons]
      by_cases here : first ∈ ready
      · simp only [List.contains_iff_mem, here, if_true]
        refine ⟨Or.imp_right Or.inr, ?_⟩
        rintro (before | rfl | later)
        · exact Or.inl before
        · exact Or.inl here
        · exact Or.inr later
      · simp [here, or_assoc]

/-- Where no node occurs twice, each is added in its turn. -/
theorem appendNew_of_nodup {nodes ready : List NodeId} (single : (ready ++ nodes).Nodup) :
    appendNew nodes ready = ready ++ nodes := by
  unfold appendNew
  induction nodes generalizing ready with
  | nil => exact (List.append_nil ready).symm
  | cons first nodes ih =>
      have new : first ∉ ready := fun old =>
        List.disjoint_of_nodup_append single old List.mem_cons_self
      rw [List.append_cons] at single
      rw [List.foldl_cons, List.contains_eq_mem, decide_eq_false new, if_neg Bool.false_ne_true, ih single,
        List.append_assoc, List.singleton_append]

theorem startedAgain_nodup (single : (entry.nodes.map (·.node)).Nodup) :
    (r.startedAgain entry policy active).Nodup :=
  single.sublist (List.filter_sublist.map _)

theorem waiting_of_startedAgain (single : (entry.nodes.map (·.node)).Nodup) {node : NodeId} (j : Journal)
    (again : node ∈ r.startedAgain entry policy active) :
    (r.restore entry policy active j).2.1.statusOf? node = some .notStarted := by
  obtain ⟨state, member, rfl⟩ := List.mem_map.mp again
  obtain ⟨member, starts⟩ := List.mem_filter.mp member
  obtain ⟨starts, reached⟩ := Bool.and_eq_true_iff.mp starts
  obtain ⟨known, inactive⟩ := Bool.and_eq_true_iff.mp reached
  rw [statusOf?_restore, get?_taken, if_pos ⟨known, of_decide_eq_true inactive⟩, recorded_due single member,
    RestorePolicy.due, starts]
  rfl

/-- A node that becomes ready waits, and all there is for it to wait for has come. -/
private theorem ready_of_evaluate (distinct : (r.storyboard.nodes.map (·.id)).Nodup) (j : Journal) {node : NodeId}
    (differs : (r.taken entry policy active).changed.isEmpty = false)
    (member : node ∈ ((r.rewound (r.taken entry policy active)).evaluate (r.taken entry policy active).includes []).1) :
    (r.restore entry policy active j).2.1.statusOf? node = some .notStarted ∧
      ∃ d, (r.restore entry policy active j).2.1.node? node = some d ∧ d.conditions ≠ [] ∧ d.isReady = true := by
  have alike := (r.restore_spec entry policy active j).1.alike
  obtain ⟨n, among, rfl⟩ := List.mem_map.mp member
  obtain ⟨listed, becomes⟩ := List.mem_filter.mp among
  simp only [Bool.and_eq_true] at becomes
  obtain ⟨⟨⟨waits, included⟩, fulfilled⟩, ready⟩ := becomes
  have status : (r.restore entry policy active j).2.1.statusOf? n.id = some .notStarted := by
    rw [statusOf?_restore]
    exact of_decide_eq_true waits
  have refreshed : (r.taken entry policy active).refresh n =
      n.mapConditions (·.settle (r.taken entry policy active).statuses) := by
    unfold Restoration.refresh
    rw [differs, included, decide_eq_true ((statusOf?_restore entry j n.id).symm.trans status)]
    rfl
  refine ⟨status, (r.taken entry policy active).refresh n, ?_, ?_, ?_⟩
  · have inside : (r.taken entry policy active).refresh n ∈ (r.restore entry policy active j).2.1.storyboard.nodes := by
      rw [restore_runner]
      exact List.mem_map_of_mem listed
    have ids := find?_of_nodup (alike.ids ▸ distinct) inside
    unfold node? Storyboard.node?
    rw [contains_of_status status, if_pos rfl, ← ids, Restoration.refresh_id]
  · obtain ⟨c, slot, -⟩ := List.any_eq_true.mp fulfilled
    rw [refreshed]
    exact List.map_eq_nil_iff.not.mpr (List.ne_nil_of_mem slot)
  · rw [refreshed]
    exact ready

theorem ready_of_restore (distinct : (r.storyboard.nodes.map (·.id)).Nodup)
    (single : (entry.nodes.map (·.node)).Nodup) (j : Journal) {node : NodeId}
    (member : node ∈ (r.restore entry policy active j).1) :
    (r.restore entry policy active j).2.1.statusOf? node = some .notStarted ∧
      (node ∈ r.startedAgain entry policy active ∨
        ∃ d, (r.restore entry policy active j).2.1.node? node = some d ∧ d.conditions ≠ [] ∧ d.isReady = true) := by
  rw [(restore_eq entry j).1, restart_taken_eq] at member
  rcases mem_appendNew.mp member with becomes | again
  · split at becomes
    · cases becomes
    · rename_i differs
      exact (ready_of_evaluate distinct j (by simpa using differs) becomes).imp_right Or.inr
  · exact ⟨waiting_of_startedAgain single j again, Or.inl again⟩

/-! ### Restoring once more -/

/-- The runner has every status already that the entry can give it. -/
def Accords (entry : SnapshotEntry) (policy : RestorePolicy) (active : Option NodeId) (r : Runner) : Prop :=
  ∀ state ∈ entry.nodes, r.contains state.node = true → some state.node ≠ active →
    r.statusOf? state.node = some (policy.due state.status)

private theorem restoration_accords (states : List NodeState) (x : Restoration) (j : Journal)
    (statuses : x.statuses = r.statuses)
    (accords : ∀ state ∈ states, r.contains state.node = true → some state.node ≠ active →
      r.statusOf? state.node = some (policy.due state.status)) :
    (r.restoration policy active states x j).1.statuses = x.statuses ∧
      (r.restoration policy active states x j).1.changed = x.changed := by
  induction states generalizing x j with
  | nil => exact ⟨rfl, rfl⟩
  | cons state states ih =>
      have later := fun other member => accords other (List.mem_cons_of_mem state member)
      unfold restoration
      split
      · exact ih _ _ statuses later
      · rename_i known
        split
        · exact ih _ _ statuses later
        · rename_i inactive
          have same : x.statuses.get? state.node = some (policy.due state.status) := by
            rw [statuses]
            exact accords state List.mem_cons_self (by simpa using known) inactive
          have kept : (x.take policy state).statuses = x.statuses ∧ (x.take policy state).changed = x.changed := by
            unfold Restoration.take
            rw [restoredStatus_eq]
            dsimp only
            rw [StatusTable.set_present same, same]
            simp
          obtain ⟨statuses', changed'⟩ := ih (x.take policy state) j (kept.1.trans statuses) later
          exact ⟨statuses'.trans kept.1, changed'.trans kept.2⟩

/-- Such a runner is left as it is, and only what the policy starts again is to start. -/
theorem restore_accords (single : (entry.nodes.map (·.node)).Nodup) (accords : r.Accords entry policy active)
    (j : Journal) :
    (r.restore entry policy active j).2.1 = r ∧
      (r.restore entry policy active j).1 = r.startedAgain entry policy active := by
  obtain ⟨statuses, changed⟩ : (r.taken entry policy active).statuses = r.statuses ∧
      (r.taken entry policy active).changed = [] :=
    restoration_accords entry.nodes { statuses := r.statuses } [] rfl accords
  obtain ⟨nodes, runner⟩ := @restore_eq r policy active entry j
  have unmoved : (r.taken entry policy active).changed.isEmpty = true := by rw [changed]; rfl
  rw [unmoved] at nodes runner
  constructor
  · rw [runner, if_pos rfl]
    unfold rewound mapNodes Restoration.rearm
    simp [statuses, changed]
  · rw [nodes, if_pos rfl, restart_taken_eq]
    exact appendNew_of_nodup (startedAgain_nodup single)

theorem accords_restore (single : (entry.nodes.map (·.node)).Nodup) (j : Journal) :
    (r.restore entry policy active j).2.1.Accords entry policy active := by
  intro state member known inactive
  rw [(r.restore_spec entry policy active j).1.alike.known] at known
  rw [statusOf?_restore, get?_taken, if_pos ⟨known, inactive⟩, recorded_due single member]
  rfl

/-- Restoring does what the entry says and no more, and having restored the runner, it has nothing more to do. -/
theorem restore_precise (distinct : (r.storyboard.nodes.map (·.id)).Nodup)
    (single : (entry.nodes.map (·.node)).Nodup) (policy : RestorePolicy) (active : Option NodeId) (j j' : Journal) :
    let nodes := (r.restore entry policy active j).1
    let r' := (r.restore entry policy active j).2.1
    (∀ state ∈ entry.nodes, r.contains state.node = true → some state.node ≠ active →
        r'.statusOf? state.node = some (policy.due state.status)) ∧
      (∀ node, (∀ state ∈ entry.nodes, state.node = node → r.contains node = false ∨ some node = active) →
        r'.statusOf? node = r.statusOf? node) ∧
      (∀ node index c, r.condition? node index = some c → c.satisfied = true →
        r'.statusOf? node = r.statusOf? node → r'.condition? node index = some c) ∧
      (∀ node ∈ nodes, r'.statusOf? node = some .notStarted ∧
        (node ∈ r.startedAgain entry policy active ∨
          ∃ d, r'.node? node = some d ∧ d.conditions ≠ [] ∧ d.isReady = true)) ∧
      (r'.restore entry policy active j').2.1 = r' ∧
      (r'.restore entry policy active j').1 = r.startedAgain entry policy active := by
  intro nodes r'
  have accords : r'.Accords entry policy active := accords_restore single j
  have known := (r.restore_spec entry policy active j).1.alike.known
  obtain ⟨unmoved, again⟩ := restore_accords single accords j'
  refine ⟨?_, ?_, fun node index c slot satisfied same => condition?_restore single slot satisfied j same,
    fun node member => ready_of_restore distinct single j member, unmoved, ?_⟩
  · intro state member among inactive
    exact accords state member ((known state.node).trans among) inactive
  · intro node untold
    rw [statusOf?_restore, get?_taken]
    split
    · rename_i open'
      have unrecorded : recorded entry policy node = none := by
        unfold recorded
        rw [Option.map_eq_none_iff, List.find?_eq_none]
        intro state member named
        rcases untold state (List.mem_reverse.mp member) (of_decide_eq_true named) with unknown | isActive
        · exact absurd open'.1 (by simp [unknown])
        · exact open'.2 isActive
      rw [unrecorded, Option.none_or]
    · rfl
  · have same : r'.restarts policy active = r.restarts policy active := by
      funext state
      unfold restarts
      rw [known]
    rw [again, startedAgain, same]
    rfl

/-- A smith who forges the blade once the fire burns, and grinds whenever there is something to grind. -/
private def smithy : Runner :=
  (setUp (.ofDefinition
    { id := ⟨"smith"⟩
      storyboard :=
        { name := ⟨"forge"⟩
          nodes :=
            [{ id := ⟨"fire"⟩, conditions := [{ kind := .areaEntered "hearth" }] },
             { id := ⟨"blade"⟩, conditions := [{ kind := .previousNodeCompleted ⟨"fire"⟩ }] },
             { id := ⟨"grinding"⟩, isRepeatable := true }] } }) {}).2.1

/-- The fire burns, and the smith is at the grindstone. -/
private def kindled : SnapshotEntry :=
  { runner := ⟨"smith"⟩, storyboard := ⟨"forge"⟩, nodes := [⟨⟨"fire"⟩, .completed⟩, ⟨⟨"grinding"⟩, .inProgress⟩] }

/-- The blade is to be forged and the grinding to start again; restored once more, only the grinding. -/
theorem smithy_precise :
    let smithy' := (smithy.restore kindled .restart none []).2.1
    (smithy.storyboard.nodes.map (·.id)).Nodup ∧ (kindled.nodes.map (·.node)).Nodup ∧
      smithy'.statusOf? ⟨"fire"⟩ = some .completed ∧ smithy'.statusOf? ⟨"blade"⟩ = smithy.statusOf? ⟨"blade"⟩ ∧
      (smithy.restore kindled .restart none []).1 = [⟨"blade"⟩, ⟨"grinding"⟩] ∧
      (smithy'.restore kindled .restart none []).1 = [⟨"grinding"⟩] ∧
      (smithy'.restore kindled .restart none []).2.1 = smithy' := by
  have distinct : (smithy.storyboard.nodes.map (·.id)).Nodup := by decide +kernel
  have single : (kindled.nodes.map (·.node)).Nodup := by decide
  obtain ⟨taken, kept, -, -, unmoved, again⟩ := restore_precise distinct single .restart none [] []
  have named : smithy.startedAgain kindled .restart none = [⟨"grinding"⟩] := by decide +kernel
  refine ⟨distinct, single, taken ⟨⟨"fire"⟩, .completed⟩ List.mem_cons_self (by decide +kernel) nofun,
    kept ⟨"blade"⟩ (by decide), by decide +kernel, again.trans named, unmoved⟩

end Plotline.Runner
