import Mathlib.Data.List.Induction
import Plotline.Proofs.Runner.Recall
import Plotline.Proofs.Runner.Task

/-!
How a node that waits becomes ready. A condition is satisfied once its slot is brought a matching event, and stays so;
the delivery that satisfies the last condition calls for the node, and no other delivery does, as long as the node has
not started.
-/

namespace Plotline

namespace Runner

/-- Neither is the runner set up nor is a game restored. -/
def Task.InPlay : Task → Prop
  | setUp | restore .. => False
  | _ => True

/-- The slot of the node is brought an event of the kind. -/
def Task.brings (node : NodeId) (slot : Nat) (kind : ConditionKind) : Task → Bool
  | deliver key event => key.node = node && key.index = slot && kind.matchedBy event
  | _ => false

end Runner

namespace Node

open Runner (Task)

/-- The node after the tasks, as long as it does not start. -/
def heard (tasks : List Task) (n : Node) : Node :=
  { n with
    conditions := n.conditions.mapIdx fun slot c =>
      { c with satisfied := c.satisfied || tasks.any (·.brings n.id slot c.kind) } }

/-- Each condition of the node has had a matching event brought to its slot. -/
def MetBy (tasks : List Task) (n : Node) : Prop :=
  ∀ slot c, n.conditions[slot]? = some c → ∃ task ∈ tasks, task.brings n.id slot c.kind = true

variable {n : Node}

@[simp] theorem heard_id (tasks : List Task) (n : Node) : (n.heard tasks).id = n.id := rfl

theorem heard_slot (tasks : List Task) (n : Node) (slot : Nat) :
    (n.heard tasks).conditions[slot]? = n.conditions[slot]?.map fun c =>
      { c with satisfied := c.satisfied || tasks.any (·.brings n.id slot c.kind) } :=
  List.getElem?_mapIdx

theorem eq_of_slots {n n' : Node} (bare : n'.bare = n.bare)
    (slots : ∀ slot : Nat, n'.conditions[slot]? = n.conditions[slot]?) : n' = n := by
  have conditions : n'.conditions = n.conditions := List.ext_getElem? slots
  cases n
  cases n'
  cases bare
  cases conditions
  rfl

/-- Tasks that bring no slot of the node what it waits for leave it as it is. -/
theorem heard_of_unmoved {tasks : List Task} (unmoved : ∀ slot c, n.conditions[slot]? = some c → ∀ task ∈ tasks,
    task.brings n.id slot c.kind = true → c.satisfied = true) : n.heard tasks = n := by
  refine eq_of_slots rfl fun slot => ?_
  rw [heard_slot]
  cases found : n.conditions[slot]? with
  | none => rfl
  | some c =>
      have same : (c.satisfied || tasks.any (·.brings n.id slot c.kind)) = c.satisfied := by
        cases satisfied : c.satisfied with
        | true => rfl
        | false =>
            rw [Bool.false_or, List.any_eq_false]
            intro task member brings
            cases satisfied.symm.trans (unmoved slot c found task member brings)
      rw [Option.map_some, same]

theorem heard_nil (n : Node) : n.heard [] = n := heard_of_unmoved nofun

theorem heard_append (tasks more : List Task) (n : Node) : n.heard (tasks ++ more) = (n.heard tasks).heard more := by
  refine eq_of_slots rfl fun slot => ?_
  rw [heard_slot, heard_slot, heard_slot, heard_id, Option.map_map]
  congr 1
  funext c
  simp [Bool.or_assoc]

/-- Bringing a slot of the node an event is all that a delivery to it does. -/
theorem heard_deliver {key : ConditionKey} (here : key.node = n.id) (event : StoryEvent) :
    n.heard [.deliver key event] = { n with conditions := n.conditions.modify key.index (·.deliver event) } := by
  refine eq_of_slots rfl fun slot => ?_
  rw [heard_slot, List.getElem?_modify]
  cases n.conditions[slot]? with
  | none => rfl
  | some c =>
      by_cases same : key.index = slot
      · simp [Task.brings, Condition.deliver, here, same]
      · simp [Task.brings, here, same]

theorem isReady_iff : n.isReady = true ↔ ∀ (slot : Nat) c, n.conditions[slot]? = some c → c.satisfied = true := by
  unfold isReady
  rw [List.all_eq_true]
  constructor
  · intro all slot c found
    exact all c (List.mem_of_getElem? found)
  · intro all c member
    obtain ⟨slot, found⟩ := List.mem_iff_getElem?.mp member
    exact all slot c found

/-- A node with nothing satisfied is ready after the tasks if they have brought it everything. -/
theorem isReady_heard_iff (unsatisfied : ∀ c ∈ n.conditions, c.satisfied = false) (tasks : List Task) :
    (n.heard tasks).isReady = true ↔ n.MetBy tasks := by
  have slots : ∀ (slot : Nat) c, n.conditions[slot]? = some c → c.satisfied = false :=
    fun slot c found => unsatisfied c (List.mem_of_getElem? found)
  rw [isReady_iff]
  constructor
  · intro all slot c found
    have satisfied := all slot _ ((heard_slot tasks n slot).trans (congrArg (Option.map _) found))
    dsimp only at satisfied
    rw [slots slot c found, Bool.false_or, List.any_eq_true] at satisfied
    exact satisfied
  · intro met slot c found
    rw [heard_slot] at found
    obtain ⟨c', found', rfl⟩ := Option.map_eq_some_iff.mp found
    rw [Bool.or_eq_true, List.any_eq_true]
    exact .inr (met slot c' found')

theorem MetBy.mono {tasks more : List Task} (met : n.MetBy tasks) (among : tasks ⊆ more) : n.MetBy more := by
  intro slot c found
  obtain ⟨task, member, brings⟩ := met slot c found
  exact ⟨task, among member, brings⟩

/-- One of the tasks brings the last of what the node waits for. -/
theorem MetBy.last {tasks : List Task} (met : n.MetBy tasks) (conditional : n.conditions ≠ []) :
    ∃ k < tasks.length, ¬ n.MetBy (tasks.take k) ∧ n.MetBy (tasks.take (k + 1)) := by
  induction tasks using List.reverseRecOn with
  | nil =>
      obtain ⟨c, rest, split⟩ := List.exists_cons_of_ne_nil conditional
      obtain ⟨task, member, -⟩ := met 0 c (by rw [split]; rfl)
      cases member
  | append_singleton tasks task ih =>
      rw [List.length_append, List.length_singleton]
      by_cases before : n.MetBy tasks
      · obtain ⟨k, lt, unmet, now⟩ := ih before
        refine ⟨k, Nat.lt_succ_of_lt lt, ?_⟩
        rw [List.take_append_of_le_length (Nat.le_of_lt lt), List.take_append_of_le_length lt]
        exact ⟨unmet, now⟩
      · refine ⟨tasks.length, Nat.lt_succ_self _, ?_⟩
        rw [List.take_left, List.take_of_length_le (by simp)]
        exact ⟨before, met⟩

end Node

namespace Runner

variable {r : Runner} {ch : Channel} {node : NodeId} {n : Node}

/-! ### One task -/

/-- A node that a delivery calls for is ready afterwards. -/
theorem isReady_of_deliver {key : ConditionKey} {event : StoryEvent} {r' : Runner} {j j' : Journal} {called : NodeId}
    (made : r.deliver key event j = (some called, r', j')) (found : r'.node? called = some n) : n.isReady = true := by
  unfold deliver at made
  split at made
  · cases made
  · split at made
    · dsimp only at made
      split at made
      · split at made
        · rename_i ready
          cases made
          rw [found] at ready
          exact ready
        · cases made
      · cases made
    · cases made

/-- What a delivery makes of a node that waits, and when it calls for it. -/
private theorem deliver_heard (key : ConditionKey) (event : StoryEvent) (found : r.node? node = some n)
    (waiting : r.statusOf? node = some .notStarted) {r' : Runner} {j j' : Journal} {called : Option NodeId}
    (made : r.deliver key event j = (called, r', j')) :
    r'.node? node = some (n.heard [.deliver key event]) ∧
      (called = some node ↔ n.isReady = false ∧ (n.heard [.deliver key event]).isReady = true) := by
  have named := id_of_node? found
  -- a delivery that changes nothing about the node does not call for it
  have still : r'.node? node = some n → called ≠ some node → n.heard [.deliver key event] = n →
      r'.node? node = some (n.heard [.deliver key event]) ∧
        (called = some node ↔ n.isReady = false ∧ (n.heard [.deliver key event]).isReady = true) := by
    intro kept uncalled unheard
    rw [unheard]
    refine ⟨kept, fun call => absurd call uncalled, ?_⟩
    rintro ⟨unready, ready⟩
    cases unready.symm.trans ready
  by_cases here : key.node = node
  · subst here
    rcases deliver_runner made with ⟨c, slot, matched, rfl⟩ | ⟨unmatched, rfl, rfl⟩
    · have looked := node?_modifyNode key.node key.node r (f := fun n =>
        { n with conditions := n.conditions.modify key.index (·.deliver event) }) (fun _ => rfl)
      rw [if_pos rfl, found, Option.map_some] at looked
      have placed : n.conditions[key.index]? = some c := by
        unfold condition? at slot
        rwa [found] at slot
      have unready : n.isReady = false := by
        refine eq_false_of_ne_true fun ready => ?_
        have satisfied := Node.isReady_iff.mp ready key.index c placed
        simp [Condition.newlyMatched, satisfied] at matched
      rw [Node.heard_deliver named.symm event]
      refine ⟨looked, ?_, ?_⟩
      · rintro rfl
        exact ⟨unready, isReady_of_deliver made looked⟩
      · rintro ⟨-, ready⟩
        exact ready_of_deliver made slot matched looked ready waiting
    · refine still found (Option.some_ne_none key.node).symm (Node.heard_of_unmoved ?_)
      intro slot c placed task member brings
      cases List.mem_singleton.mp member
      have met : (key.node = n.id ∧ key.index = slot) ∧ c.kind.matchedBy event = true := by
        simpa [Task.brings] using brings
      obtain ⟨⟨-, rfl⟩, fits⟩ := met
      have known := unmatched c (by unfold condition?; rw [found]; exact placed)
      simpa [Condition.newlyMatched, fits] using known
  · refine still ?_ ?_ (Node.heard_of_unmoved ?_)
    · rcases deliver_runner made with ⟨-, -, -, rfl⟩ | ⟨-, rfl, -⟩
      · have looked := node?_modifyNode key.node node r (f := fun n =>
          { n with conditions := n.conditions.modify key.index (·.deliver event) }) (fun _ => rfl)
        rw [if_neg (Ne.symm here)] at looked
        exact looked.trans found
      · exact found
    · intro call
      exact here (waiting_of_ready made call).1.symm
    · intro slot c placed task member brings
      cases List.mem_singleton.mp member
      simp [Task.brings, named, here] at brings

/-- The end of other nodes does not concern a node that waits. -/
private theorem completeAll_waiting (nodes : List NodeId) (waiting : r.statusOf? node = some .notStarted) :
    (r.completeAll nodes ch).1.node? node = r.node? node := by
  induction nodes generalizing r ch with
  | nil => rfl
  | cons ending nodes ih =>
      have idle : ¬ (node = ending ∧ r.statusOf? ending = some .inProgress) := by
        rintro ⟨rfl, running⟩
        cases waiting.symm.trans running
      have stepped : r.completeAll (ending :: nodes) ch =
          (r.afterEnd ending).completeAll nodes (r.completeNode ending ch).2.2 := by
        rw [← completeNode_runner ending r ch]
        rfl
      have waits : (r.afterEnd ending).statusOf? node = some .notStarted := by
        rw [statusOf?_afterEnd_eq, if_neg idle]
        exact waiting
      rw [stepped, ih waits, node?_afterEnd_eq, if_neg fun all => idle ⟨all.1, all.2.1⟩]

/-- What a task makes of a node that waits and goes on waiting, and when it calls for it. -/
theorem Task.perform_heard {task : Task} (inPlay : task.InPlay) {x : Runner × Channel}
    (found : x.1.node? node = some n) (waiting : x.1.statusOf? node = some .notStarted)
    (waits : (task.perform x).2.1.statusOf? node = some .notStarted) :
    (task.perform x).2.1.node? node = some (n.heard [task]) ∧
      ((task.perform x).1 = .woken (some node) ↔ n.isReady = false ∧ (n.heard [task]).isReady = true) := by
  obtain ⟨r, ch⟩ := x
  -- a task that is no delivery neither changes the node nor calls for it
  have still : (∀ slot kind, task.brings n.id slot kind = false) →
      (task.perform (r, ch)).2.1.node? node = r.node? node → (task.perform (r, ch)).1 ≠ .woken (some node) →
      (task.perform (r, ch)).2.1.node? node = some (n.heard [task]) ∧
        ((task.perform (r, ch)).1 = .woken (some node) ↔ n.isReady = false ∧ (n.heard [task]).isReady = true) := by
    intro brings kept uncalled
    have unheard : n.heard [task] = n := by
      refine Node.heard_of_unmoved fun slot c _ other member brought => ?_
      cases List.mem_singleton.mp member
      cases (brings slot c.kind).symm.trans brought
    rw [unheard]
    refine ⟨kept.trans found, fun call => absurd call uncalled, ?_⟩
    rintro ⟨unready, ready⟩
    cases unready.symm.trans ready
  cases task with
  | setUp => exact inPlay.elim
  | restore entry policy active => exact inPlay.elim
  | deliver key event =>
      obtain ⟨kept, call⟩ := deliver_heard key event found waiting (j := ch.journal) rfl
      refine ⟨kept, Iff.trans ?_ call⟩
      exact ⟨Answer.woken.inj, congrArg Answer.woken⟩
  | begin other =>
      refine still (fun _ _ => rfl) ?_ nofun
      unfold perform beginNode at waits ⊢
      dsimp only at waits ⊢
      split
      · rfl
      · rename_i fresh
        split
        · rfl
        · rename_i d known
          rw [fresh] at waits
          dsimp only at waits
          rw [known] at waits
          exact node?_setStatus (contains_of_status fresh) .inProgress node
      · rfl
  | complete other =>
      refine still (fun _ _ => rfl) ?_ nofun
      have ended : (perform (.complete other) (r, ch)).2.1 = r.afterEnd other := r.completeNode_runner other ch
      rw [ended, node?_afterEnd_eq, if_neg]
      rintro ⟨rfl, running, -⟩
      cases waiting.symm.trans running
  | jump board keep =>
      refine still (fun _ _ => rfl) ?_ nofun
      unfold perform receiveJump
      dsimp only
      split
      · exact completeAll_waiting _ waiting
      · rfl

/-! ### Any number of tasks -/

theorem work_heard {tasks : List Task} (inPlay : ∀ task ∈ tasks, task.InPlay) {x : Runner × Channel}
    (found : x.1.node? node = some n)
    (waiting : ∀ k, (work (tasks.take k) x).2.1.statusOf? node = some .notStarted) :
    (work tasks x).2.1.node? node = some (n.heard tasks) ∧
      ∀ k, (work tasks x).1[k]? = some (.woken (some node)) ↔
        k < tasks.length ∧ (n.heard (tasks.take k)).isReady = false ∧ (n.heard (tasks.take (k + 1))).isReady = true := by
  induction tasks generalizing x n with
  | nil => exact ⟨found.trans (congrArg some n.heard_nil.symm), by simp [work]⟩
  | cons task tasks ih =>
      obtain ⟨here, call⟩ := task.perform_heard (inPlay task List.mem_cons_self) found (waiting 0) (waiting 1)
      obtain ⟨later, calls⟩ := ih (x := (task.perform x).2)
        (fun other member => inPlay other (List.mem_cons_of_mem task member)) here (fun k => waiting (k + 1))
      refine ⟨later.trans (congrArg some (n.heard_append [task] tasks).symm), ?_⟩
      intro k
      cases k with
      | zero =>
          rw [List.take_zero, n.heard_nil, List.take_succ_cons, List.take_zero]
          change some (task.perform x).1 = _ ↔ _
          rw [Option.some_inj, call]
          simp
      | succ k =>
          rw [List.take_succ_cons, List.take_succ_cons]
          change (work tasks (task.perform x).2).1[k]? = _ ↔
            _ ∧ (n.heard ([task] ++ _)).isReady = _ ∧ (n.heard ([task] ++ _)).isReady = _
          rw [calls k, n.heard_append, n.heard_append, List.length_cons, Nat.add_lt_add_iff_right]

/-- A node that shares its id with no other is found under it. -/
private theorem node?_of_single (member : n ∈ r.storyboard.nodes)
    (single : ∀ m ∈ r.storyboard.nodes, m.id = n.id → m = n) (known : r.contains n.id = true) :
    r.node? n.id = some n := by
  unfold node?
  rw [if_pos known]
  unfold Storyboard.node?
  cases found : r.storyboard.nodes.find? (·.id = n.id) with
  | none => simpa using List.find?_eq_none.mp found n member
  | some m =>
      have same : m.id = n.id := by simpa using List.find?_some found
      rw [single m (List.mem_of_find?_eq_some found) same]

/-- What is brought to another node, or to a slot that the node does not have, leaves the node as it is. -/
private theorem heard_elsewhere {key : ConditionKey} {event : StoryEvent}
    (elsewhere : key.node ≠ n.id ∨ n.conditions.length ≤ key.index) : n.heard [.deliver key event] = n := by
  refine Node.heard_of_unmoved fun slot c placed task among brings => ?_
  cases List.mem_singleton.mp among
  obtain ⟨⟨sameNode, sameSlot⟩, -⟩ : (key.node = n.id ∧ key.index = slot) ∧ c.kind.matchedBy event = true := by
    simpa [Task.brings] using brings
  have within : slot < n.conditions.length := (List.getElem?_eq_some_iff.mp placed).1
  rcases elsewhere with other | beyond
  · exact absurd sameNode other
  · omega

/-- As long as a node with conditions has not started, each of them is satisfied exactly if its slot has been brought a
matching event. The node is called for by the delivery that satisfies the last of them and by no other, and what is
brought to other nodes or to slots that it does not have changes nothing about it. -/
theorem called_for_once {r : Runner} {n : Node} (member : n ∈ r.storyboard.nodes)
    (single : ∀ m ∈ r.storyboard.nodes, m.id = n.id → m = n) (conditional : n.conditions ≠ [])
    (unsatisfied : ∀ c ∈ n.conditions, c.satisfied = false) (ch : Channel) (tasks : List Task)
    (inPlay : ∀ task ∈ tasks, task.InPlay)
    (waiting : ∀ k, (work (tasks.take k) (r, ch)).2.1.statusOf? n.id = some .notStarted) :
    let called : Answer := .woken (some n.id)
    let answers := (work tasks (r, ch)).1
    let after := fun k => (work (tasks.take k) (r, ch)).2.1
    (∀ slot c, n.conditions[slot]? = some c → (work tasks (r, ch)).2.1.condition? n.id slot =
        some { c with satisfied := tasks.any (·.brings n.id slot c.kind) }) ∧
      (∀ k, answers[k]? = some called ↔
        k < tasks.length ∧ ¬ n.MetBy (tasks.take k) ∧ n.MetBy (tasks.take (k + 1))) ∧
      (∀ k k' : Nat, answers[k]? = some called → answers[k']? = some called → k = k') ∧
      (called ∈ answers ↔ n.MetBy tasks) ∧
      ∀ k key event, tasks[k]? = some (.deliver key event) → key.node ≠ n.id ∨ n.conditions.length ≤ key.index →
        answers[k]? ≠ some called ∧ (after (k + 1)).node? n.id = (after k).node? n.id := by
  intro called answers after
  have found : r.node? n.id = some n := node?_of_single member single (contains_of_status (waiting 0))
  have heard : ∀ k, (after k).node? n.id = some (n.heard (tasks.take k)) := fun k =>
    (work_heard (fun task among => inPlay task (List.mem_of_mem_take among)) found
      (fun k' => by rw [List.take_take]; exact waiting _)).1
  obtain ⟨whole, calls⟩ := work_heard inPlay found waiting
  have calledAt : ∀ k, answers[k]? = some called ↔
      k < tasks.length ∧ ¬ n.MetBy (tasks.take k) ∧ n.MetBy (tasks.take (k + 1)) := by
    intro k
    rw [calls k, ← Bool.not_eq_true, Node.isReady_heard_iff unsatisfied, Node.isReady_heard_iff unsatisfied]
  -- once everything has been brought, it has been brought for good
  have ordered : ∀ k k' : Nat, answers[k]? = some called → answers[k']? = some called → ¬ k < k' := by
    intro k k' now later lt
    obtain ⟨-, -, met⟩ := (calledAt k).mp now
    obtain ⟨-, unmet, -⟩ := (calledAt k').mp later
    exact unmet (met.mono (List.take_subset_take_left tasks lt))
  refine ⟨?_, calledAt, ?_, ?_, ?_⟩
  · intro slot c placed
    unfold condition?
    rw [whole, Option.bind_some, Node.heard_slot, placed, Option.map_some, unsatisfied c (List.mem_of_getElem? placed),
      Bool.false_or]
  · intro k k' now later
    have notBefore := ordered k k' now later
    have notAfter := ordered k' k later now
    omega
  · constructor
    · intro among
      obtain ⟨k, now⟩ := List.mem_iff_getElem?.mp among
      obtain ⟨-, -, met⟩ := (calledAt k).mp now
      exact met.mono (List.take_subset _ _)
    · intro met
      obtain ⟨k, last⟩ := met.last conditional
      exact List.mem_of_getElem? ((calledAt k).mpr last)
  · intro k key event here elsewhere
    have next : tasks.take (k + 1) = tasks.take k ++ [.deliver key event] := by
      rw [List.take_add_one, here]
      rfl
    have slots : (n.heard (tasks.take k)).conditions.length = n.conditions.length := List.length_mapIdx
    have same : n.heard (tasks.take (k + 1)) = n.heard (tasks.take k) := by
      rw [next, Node.heard_append]
      exact heard_elsewhere (slots ▸ elsewhere)
    rw [heard, heard, same, Ne, calls k, same]
    refine ⟨?_, rfl⟩
    rintro ⟨-, unready, ready⟩
    cases unready.symm.trans ready

/-- A steward who calls to the feast when the guests are in the hall, the gong was struck and grace was said. -/
def steward : RunnerDefinition :=
  { id := ⟨"steward"⟩
    storyboard :=
      { name := ⟨"castle"⟩
        nodes :=
          [{ id := ⟨"grace"⟩ },
            { id := ⟨"feast"⟩
              conditions :=
                [{ kind := .areaEntered "hall" }, { kind := .interactionTriggered "gong" },
                  { kind := .previousNodeCompleted ⟨"grace"⟩ }] }] } }

/-- The evening before the feast. The guests come by the yard first, and the gong is struck twice. -/
def evening : List Task :=
  let slot := fun index => (⟨⟨"steward"⟩, ⟨"feast"⟩, index⟩ : ConditionKey)
  [.deliver (slot 1) (.interactionTriggered "gong"), .begin ⟨"grace"⟩, .deliver (slot 0) (.areaEntered "yard"),
    .complete ⟨"grace"⟩, .deliver (slot 3) (.areaEntered "hall"),
    .deliver (slot 2) (.nodeCompleted ⟨"steward"⟩ ⟨"castle"⟩ ⟨"grace"⟩),
    .deliver (slot 1) (.interactionTriggered "gong"), .deliver (slot 0) (.areaEntered "hall"),
    .deliver (slot 0) (.areaEntered "hall")]

theorem feast_called_for_once :
    let r := ((Runner.ofDefinition steward).setUp {}).2.1
    let feast : Answer := .woken (some ⟨"feast"⟩)
    (work evening (r, {})).1[7]? = some feast ∧
      ∀ k : Nat, (work evening (r, {})).1[k]? = some feast → k = 7 := by
  intro r feast
  let n : Node :=
    { id := ⟨"feast"⟩
      conditions :=
        [{ kind := .areaEntered "hall", subscription := some ⟨0⟩ },
          { kind := .interactionTriggered "gong", subscription := some ⟨1⟩ },
          { kind := .previousNodeCompleted ⟨"grace"⟩, subscription := some ⟨2⟩ }] }
  have short : ∀ k < 10, (work (evening.take k) (r, {})).2.1.statusOf? n.id = some .notStarted := by decide +kernel
  have waiting : ∀ k, (work (evening.take k) (r, {})).2.1.statusOf? n.id = some .notStarted := by
    intro k
    rcases Nat.lt_or_ge k 10 with lt | ge
    · exact short k lt
    · rw [List.take_of_length_le (Nat.le_of_succ_le ge)]
      exact short 9 (by decide)
  obtain ⟨-, -, once, -, -⟩ := called_for_once (r := r) (n := n) (by decide +kernel) (by decide +kernel) (by decide)
    (by decide) {} evening (by simp [evening, Task.InPlay]) waiting
  have called : (work evening (r, {})).1[7]? = some feast := by decide +kernel
  exact ⟨called, fun k now => once k 7 now called⟩

end Runner

end Plotline
