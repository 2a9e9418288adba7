import Plotline.Runner.Basic

/-!
Nodes that share an id. The first of them is the node, and it shadows the others. The module says what the two parts of a
list of nodes have to do with whatever is looked up or changed in it.
-/

namespace Plotline

namespace Node

/-- The first node of each id that was not `seen` before. -/
def firsts (seen : List NodeId) : List Node → List Node
  | [] => []
  | n :: nodes => if seen.contains n.id then firsts seen nodes else n :: firsts (n.id :: seen) nodes

/-- The nodes whose id has occurred before. -/
def shadowed (seen : List NodeId) : List Node → List Node
  | [] => []
  | n :: nodes => if seen.contains n.id then n :: shadowed seen nodes else shadowed (n.id :: seen) nodes

theorem firsts_map {f : Node → Node} (keeps : ∀ n, (f n).id = n.id) (seen : List NodeId) (nodes : List Node) :
    firsts seen (nodes.map f) = (firsts seen nodes).map f := by
  induction nodes generalizing seen with
  | nil => rfl
  | cons n nodes ih =>
      rw [List.map_cons, firsts, firsts, keeps, ih, ih]
      split <;> rfl

theorem shadowed_map {f : Node → Node} (keeps : ∀ n, (f n).id = n.id) (seen : List NodeId) (nodes : List Node) :
    shadowed seen (nodes.map f) = (shadowed seen nodes).map f := by
  induction nodes generalizing seen with
  | nil => rfl
  | cons n nodes ih =>
      rw [List.map_cons, shadowed, shadowed, keeps, ih, ih]
      split <;> rfl

theorem firsts_perm (seen : List NodeId) (nodes : List Node) :
    nodes.Perm (firsts seen nodes ++ shadowed seen nodes) := by
  induction nodes generalizing seen with
  | nil => exact .refl _
  | cons n nodes ih =>
      rw [firsts, shadowed]
      split
      · exact (List.Perm.cons n (ih seen)).trans List.perm_middle.symm
      · exact .cons n (ih (n.id :: seen))

theorem mem_of_shadowed {seen : List NodeId} {nodes : List Node} {n : Node} (member : n ∈ shadowed seen nodes) :
    n ∈ nodes :=
  (firsts_perm seen nodes).mem_iff.mpr (List.mem_append_right _ member)

theorem find?_firsts (seen : List NodeId) (nodes : List Node) (node : NodeId) :
    (firsts seen nodes).find? (·.id = node) = if node ∈ seen then none else nodes.find? (·.id = node) := by
  induction nodes generalizing seen with
  | nil => simp [firsts]
  | cons n nodes ih =>
      rw [firsts]
      by_cases known : n.id ∈ seen
      · rw [if_pos (List.contains_iff_mem.mpr known), ih]
        by_cases here : n.id = node
        · rw [if_pos (here ▸ known), if_pos (here ▸ known)]
        · rw [List.find?_cons_of_neg (by simpa using here)]
      · rw [if_neg (mt List.contains_iff_mem.mp known)]
        by_cases here : n.id = node
        · rw [if_neg (here ▸ known)]
          simp [here]
        · rw [List.find?_cons_of_neg (by simpa using here), ih, List.find?_cons_of_neg (by simpa using here)]
          simp [Ne.symm here]

/-- What is done to the first node of an id leaves the nodes alone that are shadowed. -/
theorem firsts_modifyFirst {f : Node → Node} (keeps : ∀ n, (f n).id = n.id) {node : NodeId} (seen : List NodeId)
    (new : node ∉ seen) (nodes : List Node) :
    firsts seen (Runner.modifyFirst (·.id = node) f nodes) =
        Runner.modifyFirst (·.id = node) f (firsts seen nodes) ∧
      shadowed seen (Runner.modifyFirst (·.id = node) f nodes) = shadowed seen nodes := by
  induction nodes generalizing seen with
  | nil => exact ⟨rfl, rfl⟩
  | cons n nodes ih =>
      rw [Runner.modifyFirst]
      by_cases here : n.id = node
      · have unseen : ¬ seen.contains n.id = true := by simpa [here] using new
        rw [if_pos (by simpa using here), firsts, shadowed, firsts, shadowed, keeps, if_neg unseen, if_neg unseen,
          if_neg unseen, if_neg unseen, Runner.modifyFirst, if_pos (by simpa using here)]
        exact ⟨rfl, rfl⟩
      · rw [if_neg (by simpa using here), firsts, shadowed, firsts, shadowed]
        split
        · obtain ⟨first, later⟩ := ih seen new
          exact ⟨first, congrArg (List.cons n) later⟩
        · obtain ⟨first, later⟩ := ih (n.id :: seen) (by simp [new, Ne.symm here])
          rw [Runner.modifyFirst, if_neg (by simpa using here)]
          exact ⟨congrArg (List.cons n) first, later⟩

/-- A selection to which no shadowed node belongs can be made among the first nodes. -/
theorem filter_firsts {p : Node → Bool} {seen : List NodeId} {nodes : List Node}
    (none : ∀ n ∈ shadowed seen nodes, p n = false) : (firsts seen nodes).filter p = nodes.filter p := by
  induction nodes generalizing seen with
  | nil => rfl
  | cons n nodes ih =>
      rw [firsts]
      rw [shadowed] at none
      split at none
      · rename_i known
        rw [if_pos known, ih fun m member => none m (List.mem_cons_of_mem n member),
          List.filter_cons_of_neg (by simpa using none n List.mem_cons_self)]
      · rename_i new
        rw [if_neg new, List.filter_cons, List.filter_cons, ih none]

/-- Otherwise the selection is longer than the one among the first nodes. -/
theorem filter_firsts_lt {p : Node → Bool} {seen : List NodeId} {nodes : List Node} {n : Node}
    (member : n ∈ shadowed seen nodes) (chosen : p n = true) :
    ((firsts seen nodes).filter p).length < (nodes.filter p).length := by
  have parts := ((firsts_perm seen nodes).filter p).length_eq
  have some : 0 < ((shadowed seen nodes).filter p).length :=
    List.length_pos_of_mem (List.mem_filter.mpr ⟨member, chosen⟩)
  rw [List.filter_append, List.length_append] at parts
  omega

end Node

namespace Storyboard

/-- The storyboard without the nodes that are shadowed. -/
def firsts (b : Storyboard) : Storyboard := { b with nodes := Node.firsts [] b.nodes }

/-- The nodes that are shadowed by an earlier one. -/
def shadowed (b : Storyboard) : List Node := Node.shadowed [] b.nodes

theorem node?_firsts (b : Storyboard) (node : NodeId) : b.firsts.node? node = b.node? node := by
  unfold node? firsts
  rw [Node.find?_firsts, if_neg List.not_mem_nil]

private theorem find?_isStart_firsts (seen : List NodeId) {nodes : List Node} {n : Node}
    (start : nodes.find? (·.isStart) = some n) :
    (((Node.firsts seen nodes).find? (·.isStart)).map (·.id) = some n.id) ↔
      n.id ∉ seen ∧ nodes.find? (·.id = n.id) = some n := by
  induction nodes generalizing seen with
  | nil => cases start
  | cons m nodes ih =>
      rw [Node.firsts]
      by_cases begins : m.isStart = true
      · rw [List.find?_cons_of_pos begins] at start
        cases start
        by_cases known : n.id ∈ seen
        · rw [if_pos (List.contains_iff_mem.mpr known)]
          refine ⟨fun same => ?_, fun both => absurd known both.1⟩
          -- whatever is found among the first nodes has an id that was not seen
          obtain ⟨other, found, sameId⟩ := Option.map_eq_some_iff.mp same
          have among := List.find?_eq_none.mp
            ((Node.find?_firsts seen nodes n.id).trans (if_pos known)) other (List.mem_of_find?_eq_some found)
          exact absurd (by simpa using sameId) among
        · rw [if_neg (mt List.contains_iff_mem.mp known), List.find?_cons_of_pos begins]
          simp [known]
      · rw [List.find?_cons_of_neg begins] at start
        by_cases known : m.id ∈ seen
        · rw [if_pos (List.contains_iff_mem.mpr known), ih seen start]
          refine and_congr_right fun new => ?_
          have other : m.id ≠ n.id := fun same => new (same ▸ known)
          rw [List.find?_cons_of_neg (by simpa using other)]
        · rw [if_neg (mt List.contains_iff_mem.mp known), List.find?_cons_of_neg begins, ih (m.id :: seen) start]
          by_cases same : m.id = n.id
          · rw [List.find?_cons_of_pos (by simpa using same)]
            refine ⟨fun both => absurd (by simp [same]) both.1, ?_⟩
            rintro ⟨-, equal⟩
            -- the node that begins the story is another one
            have began : n.isStart = true := by simpa using List.find?_some start
            rw [← Option.some.inj equal] at began
            exact absurd began begins
          · rw [List.find?_cons_of_neg (by simpa using same), List.mem_cons, not_or]
            simp [Ne.symm same]

/-- Leaving the shadowed nodes out changes nothing about where the storyboard begins unless it begins with one of
them. -/
theorem startNode?_firsts (b : Storyboard) :
    b.firsts.startNode?.map (·.id) = b.startNode?.map (·.id) ↔
      ∀ n, b.startNode? = some n → b.node? n.id = some n := by
  unfold startNode? node? firsts
  cases start : b.nodes.find? (·.isStart) with
  | none =>
      have none : (Node.firsts [] b.nodes).find? (·.isStart) = none := by
        rw [List.find?_eq_none] at start ⊢
        exact fun n member => start n ((Node.firsts_perm [] b.nodes).mem_iff.mpr (List.mem_append_left _ member))
      dsimp only
      rw [none]
      exact ⟨fun _ _ => nofun, fun _ => rfl⟩
  | some n =>
      have begins := find?_isStart_firsts [] start
      dsimp only
      rw [Option.map_some, begins]
      simp

end Storyboard

end Plotline
