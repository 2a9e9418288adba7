import Plotline.Proofs.Runner.Upkeep
import Plotline.Scene.Basic

/-!
Looking runners up after one of them was replaced, added or removed.
-/

namespace Plotline.Scene

theorem activeNode_eq {s : Scene} {id : RunnerId} {node : NodeId} (active : s.active = some (id, node)) :
    (s.active.filter (·.1 = id)).map (·.2) = some node := by
  rw [active, Option.filter_some, decide_eq_true rfl]
  rfl

theorem id_of_runner? {s : Scene} {id : RunnerId} {x : Runner} (found : s.runner? id = some x) : x.id = id := by
  simpa using List.find?_some found

/-- A runner that takes the place of another under its id is the one found there. -/
theorem runner?_putRunner {s : Scene} {x y : Runner} (found : s.runner? x.id = some x) (same : y.id = x.id)
    (ch : Channel) (id : RunnerId) :
    (s.putRunner y ch).runner? id = if id = x.id then some y else s.runner? id := by
  have samePlace : ((fun z : Runner => decide (z.id = id)) ∘ fun z => if z.id = y.id then y else z) =
      fun z : Runner => decide (z.id = id) := by
    funext other
    dsimp only [Function.comp]
    split
    · rename_i equal
      rw [equal]
    · rfl
  have looked : (s.putRunner y ch).runner? id =
      (s.runner? id).map fun z => if z.id = y.id then y else z := by
    unfold runner? putRunner
    rw [List.find?_map, samePlace]
  rw [looked]
  by_cases here : id = x.id
  · rw [if_pos here, here, found, Option.map_some, if_pos same.symm]
  · rw [if_neg here]
    cases other : s.runner? id with
    | none => rfl
    | some z =>
        have different : z.id ≠ y.id := fun equal => here ((id_of_runner? other).symm.trans (equal.trans same))
        rw [Option.map_some, if_neg different]

theorem runner?_putRunner_self {s : Scene} {x y : Runner} (found : s.runner? x.id = some x) (same : y.id = x.id)
    (ch : Channel) : (s.putRunner y ch).runner? x.id = some y := by
  rw [runner?_putRunner found same, if_pos rfl]

/-- What is read off a runner in the same way before and after stays the same for all runners. -/
theorem read_putRunner {α : Type} {s : Scene} {x y : Runner} (found : s.runner? x.id = some x) (id : y.id = x.id)
    (read : Option Runner → α) (same : read (some y) = read (some x)) (ch : Channel) (runner : RunnerId) :
    read ((s.putRunner y ch).runner? runner) = read (s.runner? runner) := by
  rw [runner?_putRunner found id]
  by_cases here : runner = x.id
  · rw [if_pos here, here, found, same]
  · rw [if_neg here]

theorem putRunner_priorityOf {s : Scene} {x y : Runner} (found : s.runner? x.id = some x) (id : y.id = x.id)
    (priority : y.priority = x.priority) (ch : Channel) : (s.putRunner y ch).priorityOf = s.priorityOf := by
  funext runner
  exact read_putRunner found id (fun r => (r.map Runner.priority).getD 2147483647) priority ch runner

theorem putRunner_putRunner {y z : Runner} (same : z.id = y.id) (ch ch' : Channel) (s : Scene) :
    (s.putRunner y ch).putRunner z ch' = s.putRunner z ch' := by
  have runners : ((s.putRunner y ch).putRunner z ch').runners = (s.putRunner z ch').runners := by
    unfold putRunner
    rw [List.map_map]
    apply List.map_congr_left
    intro x _
    by_cases here : x.id = y.id <;> simp [here, same]
  unfold putRunner at runners ⊢
  dsimp only at runners ⊢
  rw [runners]

theorem statusOf?_putRunner {s : Scene} {x y : Runner} (found : s.runner? x.id = some x) (same : y.id = x.id)
    (ch : Channel) (runner : RunnerId) (node : NodeId) :
    (s.putRunner y ch).statusOf? runner node =
      if runner = x.id then y.statusOf? node else s.statusOf? runner node := by
  unfold statusOf?
  rw [runner?_putRunner found same]
  split <;> rfl

theorem statusOf?_of_runner? {s : Scene} {id : RunnerId} {x : Runner} (found : s.runner? id = some x)
    (node : NodeId) : s.statusOf? id node = x.statusOf? node := by
  unfold statusOf?
  rw [found]
  rfl

/-- Each runner is the one that is found under its id. -/
def Owned (s : Scene) : Prop := ∀ x ∈ s.runners, s.runner? x.id = some x

/-- A runner put back as it is changes nothing. -/
theorem putRunner_self {s : Scene} (owned : s.Owned) {id : RunnerId} {x : Runner} (found : s.runner? id = some x)
    (ch : Channel) : s.putRunner x ch = { s with channel := ch } := by
  have each : ∀ z ∈ s.runners, (if z.id = x.id then x else z) = z := by
    intro z member
    split
    · rename_i equal
      have foundZ := owned z member
      rw [equal, id_of_runner? found, found] at foundZ
      exact Option.some.inj foundZ
    · rfl
  have same : (s.runners.map fun z => if z.id = x.id then x else z) = s.runners :=
    (List.map_congr_left each).trans (List.map_id s.runners)
  unfold putRunner
  rw [same]

theorem mem_putRunner {s : Scene} {x y z : Runner} (same : y.id = x.id) {ch : Channel}
    (member : z ∈ (s.putRunner y ch).runners) : z = y ∨ (z ∈ s.runners ∧ z.id ≠ x.id) := by
  obtain ⟨w, old, new⟩ := List.mem_map.mp member
  rw [same] at new
  by_cases here : w.id = x.id
  · rw [if_pos here] at new
    exact Or.inl new.symm
  · rw [if_neg here] at new
    exact Or.inr (new ▸ ⟨old, here⟩)

theorem Owned.putRunner {s : Scene} (owned : s.Owned) {x y : Runner} (found : s.runner? x.id = some x)
    (same : y.id = x.id) (ch : Channel) : (s.putRunner y ch).Owned := by
  intro z member
  rcases mem_putRunner same member with rfl | ⟨old, other⟩
  · rw [same, runner?_putRunner_self found same]
  · rw [runner?_putRunner found same, if_neg other]
    exact owned z old

theorem ne_of_runner?_none {s : Scene} {id : RunnerId} (fresh : s.runner? id = none) : ∀ x ∈ s.runners, x.id ≠ id := by
  intro x member
  simpa using List.find?_eq_none.mp fresh x member

theorem runner?_filter {s : Scene} {gone id : RunnerId} (other : id ≠ gone) :
    (s.runners.filter (·.id ≠ gone)).find? (·.id = id) = s.runner? id := by
  rw [List.find?_filter]
  unfold runner?
  congr 1
  funext x
  by_cases same : x.id = id <;> simp [same, other]

theorem Owned.part {s : Scene} (owned : s.Owned) (gone : RunnerId) (pending : List Request) (ch : Channel) :
    Owned { s with pending, runners := s.runners.filter (·.id ≠ gone), channel := ch } := by
  intro z member
  obtain ⟨old, other⟩ := List.mem_filter.mp member
  exact (runner?_filter (by simpa using other)).trans (owned z old)

theorem mem_insertRunner {y z : Runner} {runners : List Runner} (member : z ∈ insertRunner y runners) :
    z = y ∨ z ∈ runners := by
  induction runners with
  | nil => exact Or.inl (List.mem_singleton.mp member)
  | cons x runners ih =>
      unfold insertRunner at member
      split at member
      · rcases List.mem_cons.mp member with rfl | later
        · exact Or.inr List.mem_cons_self
        · rcases ih later with new | old
          · exact Or.inl new
          · exact Or.inr (List.mem_cons_of_mem x old)
      · exact List.mem_cons.mp member

theorem find?_insertRunner (y : Runner) (runners : List Runner) (id : RunnerId)
    (fresh : ∀ x ∈ runners, x.id ≠ y.id) :
    (insertRunner y runners).find? (·.id = id) =
      if id = y.id then some y else runners.find? (·.id = id) := by
  induction runners with
  | nil =>
      unfold insertRunner
      by_cases same : id = y.id
      · simp [same]
      · simp [same, Ne.symm same]
  | cons x runners ih =>
      have rest := ih fun other member => fresh other (List.mem_cons_of_mem x member)
      have different : x.id ≠ y.id := fresh x List.mem_cons_self
      unfold insertRunner
      by_cases same : id = y.id
      · subst same
        split
        · rw [List.find?_cons_of_neg (by simpa using different), rest, if_pos rfl, if_pos rfl]
        · simp
      · rw [if_neg same] at rest ⊢
        split
        · rw [List.find?_cons, List.find?_cons, rest]
        · rw [List.find?_cons_of_neg (by simpa using Ne.symm same)]

theorem runner?_insertRunner {s : Scene} {y : Runner} (fresh : s.runner? y.id = none) (ch : Channel) (id : RunnerId) :
    ({ s with runners := insertRunner y s.runners, channel := ch } : Scene).runner? id =
      if id = y.id then some y else s.runner? id :=
  find?_insertRunner y s.runners id (ne_of_runner?_none fresh)

theorem Owned.insertRunner {s : Scene} (owned : s.Owned) {y : Runner} (fresh : s.runner? y.id = none) (ch : Channel) :
    Owned { s with runners := Scene.insertRunner y s.runners, channel := ch } := by
  intro z member
  rw [runner?_insertRunner fresh ch]
  rcases mem_insertRunner member with rfl | old
  · rw [if_pos rfl]
  · rw [if_neg (ne_of_runner?_none fresh z old)]
    exact owned z old

end Plotline.Scene
