import Plotline.Proofs.Scene.Outlook
import Plotline.Proofs.Scene.Perform

/-!
Nodes that are started past the gate, while another is active. Such a node never runs: it ends at once, and so does
every node for which a request waits if the program of the first is empty, because the gate is then open although a
program is still loaded.
-/

namespace Plotline

def Request.target (request : Request) : RunnerId × NodeId := (request.runner, request.node)

namespace Outlook

/-- No node is active any more, and those of the targets that had not started have ended without having run. -/
structure Ends (targets : List (RunnerId × NodeId)) (o o' : Outlook) : Prop where
  active : o'.active = none
  interpreter : o'.interpreter = o.interpreter
  repeats : o'.repeats = o.repeats
  statusOf : ∀ runner node, o'.statusOf runner node =
    if o.statusOf runner node = some .notStarted ∧ (runner, node) ∈ targets then some (o.endStatus runner node)
    else o.statusOf runner node

variable {jams : Prop} {o o' o'' : Outlook} {runner : RunnerId} {node : NodeId} {events : List StoryEvent}
  {taken : List Request} {targets more : List (RunnerId × NodeId)}

namespace Ends

theorem trans (first : Ends targets o o') (last : Ends more o' o'') : Ends (targets ++ more) o o'' where
  active := last.active
  interpreter := last.interpreter.trans first.interpreter
  repeats := last.repeats.trans first.repeats
  statusOf r n := by
    have same : o'.endStatus r n = o.endStatus r n := by rw [endStatus, first.repeats, endStatus]
    rw [last.statusOf, same, first.statusOf]
    by_cases waiting : o.statusOf r n = some .notStarted
    · by_cases early : (r, n) ∈ targets
      · -- a node that can run again waits once more, and may end a second time
        simp [waiting, early]
      · simp [waiting, early]
    · simp [waiting]

theorem of_mem (ends : Ends targets o o') (same : ∀ target, target ∈ targets ↔ target ∈ more) : Ends more o o' := by
  refine ⟨ends.active, ends.interpreter, ends.repeats, fun r n => ?_⟩
  rw [ends.statusOf]
  simp only [same]

end Ends

/-- A node that has not started has a new status when it has ended, and no other node has. -/
theorem spent_statusOf (waiting : o.statusOf runner node = some .notStarted) (r : RunnerId) (n : NodeId) :
    (o.spent runner node).statusOf r n =
      if o.statusOf r n = some .notStarted ∧ (r, n) ∈ [(runner, node)] then some (o.endStatus r n)
      else o.statusOf r n := by
  unfold spent marked endStatus
  dsimp only
  by_cases here : (r, n) = (runner, node)
  · obtain ⟨rfl, rfl⟩ := Prod.mk.inj here
    have both : o.statusOf r n = some .notStarted ∧ (r, n) ∈ [(r, n)] := ⟨waiting, List.mem_singleton_self _⟩
    rw [if_pos rfl, if_pos both]
  · rw [if_neg here, if_neg fun both => here (List.mem_singleton.mp both.2)]

theorem spent_statusOf_eq_iff (waiting : o.statusOf runner node = some .notStarted) :
    (o.spent runner node).statusOf = o.statusOf ↔ o.repeats runner node = true := by
  constructor
  · intro same
    have there := (congrFun (congrFun same runner) node).trans waiting
    rw [spent_statusOf waiting, if_pos ⟨waiting, List.mem_singleton_self _⟩, endStatus] at there
    cases again : o.repeats runner node with
    | true => rfl
    | false => simp [again] at there
  · intro again
    funext r n
    rw [spent_statusOf waiting]
    by_cases here : (r, n) = (runner, node)
    · obtain ⟨rfl, rfl⟩ := Prod.mk.inj here
      rw [if_pos ⟨waiting, List.mem_singleton_self _⟩, waiting, endStatus, if_pos again]
    · exact if_neg fun both => here (List.mem_singleton.mp both.2)

/-- Nothing that is called for can run while a program is loaded. -/
theorem Fate.ends (fate : Fate jams o runner node events o') (free : o.active = none)
    (busy : o.interpreter.program ≠ none) : Ends [(runner, node)] o o' := by
  cases fate with
  | passedOver unready =>
      refine ⟨free, rfl, rfl, fun r n => ?_⟩
      rw [if_neg]
      rintro ⟨waiting, here⟩
      cases List.mem_singleton.mp here
      exact unready waiting
  | ended waiting => exact ⟨rfl, rfl, rfl, spent_statusOf waiting⟩
  | jammed _ waiting => exact ⟨free, rfl, rfl, spent_statusOf waiting⟩
  | begun _ _ _ idle => exact absurd idle busy

theorem Course.ends (course : Course jams o taken events o') (free : o.active = none)
    (busy : o.interpreter.program ≠ none) : Ends (taken.map Request.target) o o' := by
  induction course with
  | rests => exact ⟨free, rfl, rfl, fun r n => (if_neg fun both => absurd both.2 List.not_mem_nil).symm⟩
  | @takes o o' o'' request rest taken events more _ first fate course ih =>
      have ends := fate.ends free busy
      have head : Ends [request.target] o o' := ⟨ends.active, ends.interpreter, ends.repeats, ends.statusOf⟩
      exact head.trans (ih head.active (head.interpreter.symm ▸ busy))

end Outlook

namespace Scene

open Outlook

variable {s : Scene} {runner : RunnerId} {node : NodeId}

/-- What is active and loaded, what waits, and how far each node has come. -/
def position (s : Scene) :
    Option (RunnerId × NodeId) × Interpreter × List Request × (RunnerId → NodeId → Option NodeStatus) :=
  (s.active, s.interpreter, s.pending, s.statusOf?)

/-- While a program is loaded all requests that wait come to their end without running. -/
theorem release_ends (coherent : s.Coherent) (free : s.active = none) (busy : s.interpreter.program ≠ none) :
    s.release.pending = [] ∧ s.outlook.Ends (s.pending.map Request.target) s.release.outlook := by
  obtain ⟨taken, events, course, -⟩ := release_course coherent free fun _ => trivial
  have ends := course.ends free busy
  have left : s.release.pending = [] := course.settled.resolve_left (by simp [ends.active])
  have order : s.releaseOrder = taken := by
    have split := course.taken_append
    rw [show s.release.outlook.pending = [] from left, List.append_nil] at split
    exact split
  have same : ∀ target, target ∈ taken.map Request.target ↔ target ∈ s.pending.map Request.target := fun target =>
    (order ▸ s.releaseOrder_perm.symm.map Request.target).mem_iff
  have all := ends.of_mem same
  exact ⟨left, all.active, all.interpreter, all.repeats, all.statusOf⟩

/-- A node that is started while another is active is marked as ended, and its program never runs. If the program is
not empty, this is all, so that nothing has changed if the node is repeatable. If it is empty, the gate is opened under
the program that is loaded, and the nodes of all waiting requests are marked as ended, too. -/
theorem started_past_gate (reached : Reached (fun _ _ => True) s) (held : s.isEventRunning = true)
    (waiting : s.statusOf? runner node = some .notStarted) :
    (s.startNode runner node).1 = false ∧
      ∃ program, s.outlook.programOf runner node = some program ∧
        (program.isEmpty = false → (s.startNode runner node).2.outlook = s.outlook.spent runner node) ∧
        (program.isEmpty = true → (s.startNode runner node).2.pending = [] ∧
          s.outlook.Ends ((runner, node) :: s.pending.map Request.target) (s.startNode runner node).2.outlook) ∧
        ((s.startNode runner node).2.position = s.position ↔
          program.isEmpty = false ∧ s.repeats runner node = true) := by
  have coherent : s.Coherent := reached.coherent
  obtain ⟨⟨runner', node'⟩, active⟩ := Option.isSome_iff_exists.mp held
  have busy : s.interpreter.program ≠ none := by
    obtain ⟨x, d, _, _, program⟩ := coherent.loaded runner' node' active
    rw [program]
    nofun
  have begins := beginNode_begins coherent runner node
  have coherent' := beginNode_coherent coherent runner node
  unfold startNode
  generalize s.beginNode runner node = result at begins coherent' ⊢
  obtain ⟨begun, s'⟩ := result
  cases begins with
  | unknown missing => simp [statusOf?, missing] at waiting
  | refused found unready => exact absurd ((statusOf?_of_runner? found node).symm.trans waiting) unready
  | started _ _ _ _ idle => exact absurd idle busy
  | @passed x d ch found unstarted known empty grown opens =>
      have opened : Ends [(runner, node)] s.outlook
          (Scene.outlook { s.putRunner ((x.setStatus node .inProgress).afterEnd node) ch with active := none }) := by
        rw [closed_outlook found unstarted]
        exact ⟨rfl, rfl, rfl, spent_statusOf waiting⟩
      obtain ⟨left, ends⟩ := release_ends coherent' rfl busy
      refine ⟨rfl, d.program, programOf_found found known, by simp [empty], fun _ => ⟨left, opened.trans ends⟩, ?_⟩
      refine iff_of_false (fun same => ?_) (by simp [empty])
      have still := (Prod.mk.inj same).1
      rw [active] at still
      cases ends.active.symm.trans still
  | @jammed x d ch found unstarted known filled _ grown =>
      have seen := passed_outlook found unstarted ch
      refine ⟨rfl, d.program, programOf_found found known, fun _ => seen, by simp [filled], ?_⟩
      have statuses : (s.putRunner ((x.setStatus node .inProgress).afterEnd node) ch).statusOf? =
          (s.outlook.spent runner node).statusOf := (congrArg Outlook.statusOf seen :)
      constructor
      · intro same
        exact ⟨filled, (spent_statusOf_eq_iff waiting).mp (statuses.symm.trans (congrArg (·.2.2.2) same))⟩
      · rintro ⟨-, again⟩
        have unchanged := statuses.trans ((spent_statusOf_eq_iff waiting).mpr again)
        exact congrArg (fun statuses => (s.active, s.interpreter, s.pending, statuses)) unchanged

/-- A troupe with three plays, and a bow for which there is no program. -/
def troupe : Runner :=
  let play (id : String) (line : String) : Node :=
    { id := ⟨id⟩, program := { instructions := [.dialogue "A" line none] } }
  { id := ⟨"troupe"⟩
    priority := 0
    storyboard :=
      { name := ⟨"theatre"⟩
        nodes := [play "prologue" "Hush!", play "farce" "Ha!", play "tragedy" "Alas!", { id := ⟨"bow"⟩ }] } }

/-- The prologue is on, and the farce waits for its end. -/
def matinee : List Operation := [.register troupe, .trigger ⟨"troupe"⟩ ⟨"prologue"⟩, .trigger ⟨"troupe"⟩ ⟨"farce"⟩]

/-- By the bow the prologue loses the gate, and the farce is over although it has not run. -/
theorem troupe_started_past_gate : ∃ s, Reached (fun _ _ => True) s ∧ s.isEventRunning = true ∧
    s.statusOf? ⟨"troupe"⟩ ⟨"bow"⟩ = some .notStarted ∧ s.statusOf? ⟨"troupe"⟩ ⟨"farce"⟩ = some .notStarted ∧
      (s.startNode ⟨"troupe"⟩ ⟨"bow"⟩).1 = false ∧ (s.startNode ⟨"troupe"⟩ ⟨"bow"⟩).2.active = none ∧
        (s.startNode ⟨"troupe"⟩ ⟨"bow"⟩).2.pending = [] ∧
        (s.startNode ⟨"troupe"⟩ ⟨"bow"⟩).2.interpreter = s.interpreter ∧
        (s.startNode ⟨"troupe"⟩ ⟨"bow"⟩).2.statusOf? ⟨"troupe"⟩ ⟨"farce"⟩ = some .completed := by
  let s := run matinee (empty {} .instant)
  have reached : Reached (fun _ _ => True) s := reached_run matinee {} .instant
  have bow : s.statusOf? ⟨"troupe"⟩ ⟨"bow"⟩ = some .notStarted := by decide +kernel
  have farce : s.statusOf? ⟨"troupe"⟩ ⟨"farce"⟩ = some .notStarted := by decide +kernel
  obtain ⟨idle, program, known, -, empty, -⟩ := started_past_gate reached (by decide +kernel) bow
  have none : program = {} := by
    have bow : s.outlook.programOf ⟨"troupe"⟩ ⟨"bow"⟩ = some {} := by decide +kernel
    exact Option.some.inj (known.symm.trans bow)
  obtain ⟨left, ends⟩ := empty (none ▸ rfl)
  have ended := ends.statusOf ⟨"troupe"⟩ ⟨"farce"⟩
  rw [if_pos ⟨farce, by decide +kernel⟩] at ended
  exact ⟨s, reached, by decide +kernel, bow, farce, idle, ends.active, left, ends.interpreter, ended⟩

/-- It is not true that a node started past the gate makes no difference. -/
theorem gate_opened_by_bow :
    ¬ ∀ s, Reached (fun _ _ => True) s → s.isEventRunning = true → ∀ runner node,
      s.statusOf? runner node = some .notStarted →
        (s.startNode runner node).1 = false ∧ (s.startNode runner node).2.position = s.position := by
  intro always
  have reached : Reached (fun _ _ => True) (run matinee (empty {} .instant)) := reached_run matinee {} .instant
  have same := (always _ reached (by decide +kernel) ⟨"troupe"⟩ ⟨"bow"⟩ (by decide +kernel)).2
  have lost : ((run matinee (empty {} .instant)).startNode ⟨"troupe"⟩ ⟨"bow"⟩).2.active ≠
      (run matinee (empty {} .instant)).active := by decide +kernel
  exact lost (congrArg (·.1) same)

end Scene

end Plotline
