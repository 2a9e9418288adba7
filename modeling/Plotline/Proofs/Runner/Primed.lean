import Mathlib.Data.List.Nodup
import Plotline.Proofs.Bus.Subscription
import Plotline.Proofs.Runner.Fresh
import Plotline.Proofs.Runner.Latch

/-!
A runner of a package whose nodes all have ids of their own. Once it is set up, each of its conditions is unsatisfied
and listens on the bus for what can satisfy it.
-/

namespace Plotline

/-- Where no key occurs twice, an element is found under its key. -/
theorem find?_of_nodup {α β : Type} [DecidableEq β] {key : α → β} {elements : List α}
    (distinct : (elements.map key).Nodup) {x : α} (member : x ∈ elements) :
    elements.find? (key · = key x) = some x := by
  cases found : elements.find? (key · = key x) with
  | none =>
      have other := List.find?_eq_none.mp found x member
      simp at other
  | some y =>
      have same : key y = key x := by simpa using List.find?_some found
      exact congrArg some (List.inj_on_of_nodup_map distinct (List.mem_of_find?_eq_some found) member same)

namespace Runner

variable {ch ch' : Channel}

/-- The slot holds an unsatisfied condition that listens to its topic. -/
def Listens (bus : Bus) (key : ConditionKey) (c : Condition) : Prop :=
  c.satisfied = false ∧ ∃ id, bus.find? id = some ⟨id, c.kind.topic, .condition key⟩

theorem Listens.widen {bus bus' : Bus} {key : ConditionKey} {c : Condition} (listens : Listens bus key c)
    (wider : bus.Widens bus') : Listens bus' key c := by
  obtain ⟨unsatisfied, id, found⟩ := listens
  exact ⟨unsatisfied, id, wider.kept id _ found⟩

/-- Nothing has happened to the runner since it was set up; its nodes have ids of their own, and its conditions
listen. -/
structure Primed (bus : Bus) (r : Runner) : Prop extends Fresh r where
  distinct : (r.storyboard.nodes.map (·.id)).Nodup
  listens : ∀ n ∈ r.storyboard.nodes, ∀ index c, n.conditions[index]? = some c → Listens bus ⟨r.id, n.id, index⟩ c

theorem Primed.widen {bus bus' : Bus} {r : Runner} (primed : r.Primed bus) (wider : bus.Widens bus') :
    r.Primed bus' :=
  { primed with listens := fun n member index c slot => (primed.listens n member index c slot).widen wider }

theorem Primed.listens_of_node? {bus : Bus} {r : Runner} (primed : r.Primed bus) {node : NodeId} {d : Node}
    (known : r.node? node = some d) {index : Nat} {c : Condition} (slot : d.conditions[index]? = some c) :
    Listens bus ⟨r.id, node, index⟩ c := by
  rw [primed.listed.node?] at known
  have same : d.id = node := by simpa using List.find?_some known
  rw [← same]
  exact primed.listens d (List.mem_of_find?_eq_some known) index c slot

theorem Primed.node?_of_mem {bus : Bus} {r : Runner} (primed : r.Primed bus) {n : Node}
    (member : n ∈ r.storyboard.nodes) : r.node? n.id = some n := by
  rw [primed.listed.node?]
  exact find?_of_nodup primed.distinct member

/-! ### Setting up -/

private theorem subscribeConditions_listens (runner : RunnerId) (node : NodeId) (index : Nat)
    (conditions : List Condition) (numbered : ch.bus.Numbered) :
    ch.bus.Widens (subscribeConditions runner node index ch conditions).2.bus ∧
      ∀ i c, (subscribeConditions runner node index ch conditions).1[i]? = some c →
        Listens (subscribeConditions runner node index ch conditions).2.bus ⟨runner, node, index + i⟩ c := by
  induction conditions generalizing index ch with
  | nil => exact ⟨.refl _, nofun⟩
  | cons c conditions ih =>
      have wider := ch.subscribe_widens c.kind.topic (.condition ⟨runner, node, index⟩)
      have made := Bus.find?_subscribe c.kind.topic (.condition ⟨runner, node, index⟩) numbered
      obtain ⟨widerRest, listens⟩ := ih (index + 1) (wider.numbered numbered)
      refine ⟨wider.trans widerRest, ?_⟩
      intro i c' slot
      cases i with
      | zero =>
          cases slot
          exact ⟨rfl, _, widerRest.kept _ _ made⟩
      | succ i =>
          have placed := listens i c' slot
          rwa [Nat.add_assoc, Nat.add_comm 1 i] at placed

private theorem subscribeNodes_listens (runner : RunnerId) (seen : List NodeId) (ch : Channel) (nodes : List Node)
    (numbered : ch.bus.Numbered) (distinct : (nodes.map (·.id)).Nodup) (new : ∀ n ∈ nodes, n.id ∉ seen) :
    ch.bus.Widens (subscribeNodes runner seen ch nodes).2.bus ∧
      ∀ n ∈ (subscribeNodes runner seen ch nodes).1, ∀ index c, n.conditions[index]? = some c →
        Listens (subscribeNodes runner seen ch nodes).2.bus ⟨runner, n.id, index⟩ c := by
  induction nodes generalizing seen ch with
  | nil => exact ⟨.refl _, nofun⟩
  | cons n nodes ih =>
      have unseen : seen.contains n.id = false := by simpa using new n List.mem_cons_self
      obtain ⟨other, distinctRest⟩ := List.nodup_cons.mp distinct
      have newRest : ∀ m ∈ nodes, m.id ∉ n.id :: seen := by
        intro m member old
        rcases List.mem_cons.mp old with same | before
        · exact other (List.mem_map.mpr ⟨m, member, same⟩)
        · exact new m (List.mem_cons_of_mem n member) before
      obtain ⟨wider, listens⟩ := subscribeConditions_listens runner n.id 0 n.conditions numbered
      obtain ⟨widerRest, listensRest⟩ := ih (n.id :: seen) _ (wider.numbered numbered) distinctRest newRest
      unfold subscribeNodes
      rw [unseen]
      refine ⟨wider.trans widerRest, ?_⟩
      intro m member index c slot
      rcases List.mem_cons.mp member with rfl | later
      · have placed := (listens index c slot).widen widerRest
        rwa [Nat.zero_add] at placed
      · exact listensRest m later index c slot

/-- The conditions of the nodes hold no subscription. -/
def Unsubscribed (nodes : List Node) : Prop := ∀ n ∈ nodes, ∀ c ∈ n.conditions, c.subscription = none

/-- Taking down what was never set up changes nothing but the latches. -/
theorem takeDown_new {r : Runner} (new : r.subscriptions = []) (unsubscribed : Unsubscribed r.storyboard.nodes)
    (ch : Channel) : (r.takeDown ch).2 = ch ∧
      (r.takeDown ch).1.storyboard.nodes.map (·.id) = r.storyboard.nodes.map (·.id) := by
  have handles : r.conditionHandles = [] := by
    unfold conditionHandles
    rw [List.flatMap_eq_nil_iff]
    intro n member
    rw [List.filterMap_eq_nil_iff]
    exact unsubscribed n member
  constructor
  · unfold takeDown
    rw [new, handles]
    rfl
  · simp [takeDown, mapNodes, Node.mapConditions, Function.comp_def]

theorem setUp_primed {r : Runner} (new : r.subscriptions = []) (unsubscribed : Unsubscribed r.storyboard.nodes)
    (distinct : (r.storyboard.nodes.map (·.id)).Nodup) (numbered : ch.bus.Numbered) :
    (r.setUp ch).2.1.Primed (r.setUp ch).2.2.bus ∧ ch.bus.Widens (r.setUp ch).2.2.bus := by
  obtain ⟨down, ids⟩ := takeDown_new new unsubscribed ch
  obtain ⟨journal, -, id, nodes, -, wider, -⟩ := r.setUp_parts ch
  rw [← ids] at distinct
  rw [down] at nodes wider
  have wired := subscribeNodes_ids r.id [] { ch with journal } (r.takeDown ch).1.storyboard.nodes
  obtain ⟨widens, listens⟩ := subscribeNodes_listens r.id [] { ch with journal } (r.takeDown ch).1.storyboard.nodes
    numbered distinct (fun _ _ => List.not_mem_nil)
  rw [← nodes] at wired listens
  refine ⟨⟨(setUp_made rfl).2.2.1, wired ▸ distinct, ?_⟩, Bus.Widens.trans widens wider⟩
  intro n member index c slot
  rw [id]
  exact (listens n member index c slot).widen wider

end Runner

end Plotline
