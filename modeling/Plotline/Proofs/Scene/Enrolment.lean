import Mathlib.Data.List.Perm.Basic
import Mathlib.Data.List.Nodup
import Plotline.Proofs.Scene.Outlook

/-!
Runners that are registered. Whoever comes first has the older subscriptions, but that is the only difference: for the
release of requests it does not matter in which order runners came.
-/

namespace Plotline

namespace Runner

private theorem node?_bare (board : Storyboard) (node : NodeId) :
    (board.node? node).map Node.bare = (board.nodes.map Node.bare).find? (·.id = node) := by
  rw [List.find?_map]
  rfl

/-- Setting up makes no difference to what a node is, conditions apart. -/
private theorem setUp_node? (r : Runner) (ch : Channel) (node : NodeId) :
    ((r.setUp ch).2.1.node? node).map Node.bare = (r.storyboard.node? node).map Node.bare := by
  have listed : (r.setUp ch).2.1.Listed := (setUp_made rfl).2.2.1.listed
  obtain ⟨journal, -, -, nodes, -⟩ := r.setUp_parts ch
  have down : (r.takeDown ch).1.storyboard.nodes.map Node.bare = r.storyboard.nodes.map Node.bare :=
    List.map_map
  rw [listed.node?, node?_bare, nodes, subscribeNodes_bare, down, node?_bare]

private theorem setUp_statusOf? (r : Runner) (ch : Channel) (node : NodeId) :
    (r.setUp ch).2.1.statusOf? node = (r.storyboard.node? node).map fun _ => .notStarted := by
  have fresh : (r.setUp ch).2.1.Fresh := (setUp_made rfl).2.2.1
  have known : ((r.setUp ch).2.1.statusOf? node).isSome = (r.storyboard.node? node).isSome :=
    (fresh.listed node).trans (r.setUp_sameNodes ch node)
  cases status : (r.setUp ch).2.1.statusOf? node with
  | none =>
      rw [status] at known
      rw [Option.isNone_iff_eq_none.mp (Option.isSome_eq_false_iff.mp known.symm), Option.map_none]
  | some status' =>
      rw [status] at known
      obtain ⟨d, found⟩ := Option.isSome_iff_exists.mp known.symm
      rw [found, fresh.waiting node status' status, Option.map_some]

private theorem setUp_place (r : Runner) (ch : Channel) :
    (r.setUp ch).2.1.priority = r.priority ∧ (r.setUp ch).2.1.storyboard.name = r.storyboard.name :=
  ⟨rfl, rfl⟩

end Runner

/-- The outlook once a runner has been registered. -/
def Outlook.joined (o : Outlook) (r : Runner) : Outlook :=
  { o with
    priorityOf := fun id => if id = r.id then r.priority else o.priorityOf id
    boardOf := fun id => if id = r.id then some r.storyboard.name else o.boardOf id
    programOf := fun id node => if id = r.id then (r.storyboard.node? node).map (·.program) else o.programOf id node
    repeats := fun id node =>
      if id = r.id then ((r.storyboard.node? node).map (·.isRepeatable)).getD false else o.repeats id node
    statusOf := fun id node =>
      if id = r.id then (r.storyboard.node? node).map fun _ => .notStarted else o.statusOf id node }

theorem Outlook.joined_comm (o : Outlook) {x y : Runner} (different : x.id ≠ y.id) :
    (o.joined x).joined y = (o.joined y).joined x := by
  have exclusive {α : Type} (id : RunnerId) (first second third : α) :
      (if id = y.id then first else if id = x.id then second else third) =
        if id = x.id then second else if id = y.id then first else third := by
    by_cases here : id = x.id
    · rw [if_pos here, if_neg fun there => different (here.symm.trans there), if_pos here]
    · rw [if_neg here, if_neg here]
  simp only [joined, exclusive]

namespace Scene

variable {s : Scene}

/-- No node is ready at once, so that a runner joins and nothing else happens. -/
theorem register_fresh {r : Runner} (fresh : s.runner? r.id = none) :
    (s.register r).2 =
      { s with
        runners := insertRunner (r.setUp s.channel).2.1 s.runners
        channel := (r.setUp s.channel).2.2.note (.registered (r.setUp s.channel).2.1.id r.priority) } := by
  have ready : (r.setUp s.channel).1 = [] := (Runner.setUp_made rfl).1
  unfold register
  rw [fresh]
  dsimp only
  rw [ready]
  rfl

theorem runner?_register {r : Runner} (fresh : s.runner? r.id = none) (id : RunnerId) :
    (s.register r).2.runner? id = if id = r.id then some (r.setUp s.channel).2.1 else s.runner? id := by
  have same : (r.setUp s.channel).2.1.id = r.id := (Runner.setUp_made rfl).2.1
  rw [register_fresh fresh, runner?_insertRunner (same.symm ▸ fresh), same]

theorem register_outlook {r : Runner} (fresh : s.runner? r.id = none) :
    (s.register r).2.outlook = s.outlook.joined r := by
  have looked := runner?_register fresh
  have node := r.setUp_node? s.channel
  obtain ⟨priority, board⟩ := r.setUp_place s.channel
  have priorities : (s.register r).2.priorityOf = fun id => if id = r.id then r.priority else s.priorityOf id := by
    funext id
    unfold priorityOf
    rw [looked]
    split
    · exact priority
    · rfl
  have boards (id : RunnerId) : ((s.register r).2.runner? id).map (·.storyboard.name) =
      if id = r.id then some r.storyboard.name else (s.runner? id).map (·.storyboard.name) := by
    rw [looked]
    split
    · exact congrArg some board
    · rfl
  have programs (id : RunnerId) (n : NodeId) :
      (((s.register r).2.runner? id).bind fun x => (x.node? n).map (·.program)) =
        if id = r.id then (r.storyboard.node? n).map (·.program)
        else (s.runner? id).bind fun x => (x.node? n).map (·.program) := by
    rw [looked]
    split
    · have same := congrArg (Option.map Node.program) (node n)
      rwa [Option.map_map, Option.map_map] at same
    · rfl
  have repeats : (s.register r).2.repeats = fun id n =>
      if id = r.id then ((r.storyboard.node? n).map (·.isRepeatable)).getD false else s.repeats id n := by
    funext id n
    unfold repeats
    rw [looked]
    split
    · have same := congrArg (Option.map Node.isRepeatable) (node n)
      rw [Option.map_map, Option.map_map] at same
      exact congrArg (·.getD false) same
    · rfl
  have statuses : (s.register r).2.statusOf? = fun id n =>
      if id = r.id then (r.storyboard.node? n).map fun _ => .notStarted else s.statusOf? id n := by
    funext id n
    unfold statusOf?
    rw [looked]
    split
    · exact r.setUp_statusOf? s.channel n
    · rfl
  simp only [outlook, Outlook.joined, priorities, boards, programs, repeats, statuses]
  rw [register_fresh fresh]

theorem run_register_outlook (xs : List Runner) (s : Scene) (distinct : (xs.map (·.id)).Nodup)
    (fresh : ∀ x ∈ xs, s.runner? x.id = none) :
    (run (xs.map .register) s).outlook = xs.foldl Outlook.joined s.outlook := by
  induction xs generalizing s with
  | nil => rfl
  | cons x xs ih =>
      obtain ⟨new, rest⟩ := List.nodup_cons.mp distinct
      have freshX := fresh x List.mem_cons_self
      have still : ∀ y ∈ xs, (s.register x).2.runner? y.id = none := by
        intro y member
        have different : y.id ≠ x.id := fun same => new (List.mem_map.mpr ⟨y, member, same⟩)
        rw [runner?_register freshX, if_neg different]
        exact fresh y (List.mem_cons_of_mem x member)
      rw [List.foldl_cons, ← register_outlook freshX, ← ih (s.register x).2 rest still]
      rfl

/-- Runners may come in any order. -/
theorem enrolled_outlook {xs ys : List Runner} (same : xs.Perm ys) (distinct : (xs.map (·.id)).Nodup)
    (fresh : ∀ x ∈ xs, s.runner? x.id = none) :
    (run (xs.map .register) s).outlook = (run (ys.map .register) s).outlook := by
  have distinct' : (ys.map (·.id)).Nodup := (same.map _).nodup_iff.mp distinct
  have fresh' : ∀ y ∈ ys, s.runner? y.id = none := fun y member => fresh y (same.mem_iff.mpr member)
  rw [run_register_outlook xs s distinct fresh, run_register_outlook ys s distinct' fresh']
  apply same.foldl_eq'
  intro x memberX y memberY o
  by_cases equal : x.id = y.id
  · rw [List.inj_on_of_nodup_map distinct memberX memberY equal]
  · exact o.joined_comm equal

/-- Registering brings runners and subscriptions, and nothing else. -/
theorem run_register_rest (xs : List Runner) (s : Scene) (distinct : (xs.map (·.id)).Nodup)
    (fresh : ∀ x ∈ xs, s.runner? x.id = none) :
    ∃ runners ch, run (xs.map .register) s = { s with runners, channel := ch } ∧
      ch.bus.queue = s.channel.bus.queue := by
  induction xs generalizing s with
  | nil => exact ⟨s.runners, s.channel, rfl, rfl⟩
  | cons x xs ih =>
      obtain ⟨new, rest⟩ := List.nodup_cons.mp distinct
      have freshX := fresh x List.mem_cons_self
      have rewired : s.channel.Rewired (x.setUp s.channel).2.2 := (Runner.setUp_made rfl).2.2.2
      have still : ∀ y ∈ xs, (s.register x).2.runner? y.id = none := by
        intro y member
        have different : y.id ≠ x.id := fun same => new (List.mem_map.mpr ⟨y, member, same⟩)
        rw [runner?_register freshX, if_neg different]
        exact fresh y (List.mem_cons_of_mem x member)
      obtain ⟨runners, ch, made, queue⟩ := ih (s.register x).2 rest still
      rw [register_fresh freshX] at made queue
      refine ⟨runners, ch, ?_, queue.trans rewired.queue⟩
      rw [List.map_cons]
      exact (congrArg (run (xs.map .register)) (register_fresh freshX)).trans made

/-- Definitions with ids of their own are all registered. -/
theorem registerAll_fresh (definitions : List RunnerDefinition) (s : Scene) (distinct : (definitions.map (·.id)).Nodup)
    (fresh : ∀ d ∈ definitions, s.runner? d.id = none) :
    registerAll definitions s = (.ok (), run ((definitions.map Runner.ofDefinition).map .register) s) := by
  induction definitions generalizing s with
  | nil => rfl
  | cons d ds ih =>
      obtain ⟨new, rest⟩ := List.nodup_cons.mp distinct
      have freshD : s.runner? (Runner.ofDefinition d).id = none := fresh d List.mem_cons_self
      have granted : s.register (.ofDefinition d) = (.ok (), (s.register (.ofDefinition d)).2) := by
        unfold register
        rw [freshD]
      have still : ∀ e ∈ ds, (s.register (.ofDefinition d)).2.runner? e.id = none := by
        intro e member
        have different : e.id ≠ (Runner.ofDefinition d).id := fun same => new (List.mem_map.mpr ⟨e, member, same⟩)
        rw [runner?_register freshD, if_neg different]
        exact fresh e (List.mem_cons_of_mem d member)
      rw [registerAll, granted]
      exact ih (s.register (.ofDefinition d)).2 rest still

end Scene

/-! ### What is known of those who have been registered -/

namespace Outlook

variable {o : Outlook} {x y : Runner}

/-- The outlook knows the runner as one to whom nothing has happened. -/
structure Knows (o : Outlook) (x : Runner) : Prop where
  status : ∀ node, o.statusOf x.id node = (x.storyboard.node? node).map fun _ => .notStarted
  program : ∀ node, o.programOf x.id node = (x.storyboard.node? node).map (·.program)
  board : o.boardOf x.id = some x.storyboard.name
  repeats : ∀ node, o.repeats x.id node = ((x.storyboard.node? node).map (·.isRepeatable)).getD false

theorem joined_knows (o : Outlook) (x : Runner) : (o.joined x).Knows x where
  status _ := if_pos rfl
  program _ := if_pos rfl
  board := if_pos rfl
  repeats _ := if_pos rfl

theorem Knows.joined (knows : o.Knows x) (other : x.id ≠ y.id) : (o.joined y).Knows x where
  status node := (if_neg other).trans (knows.status node)
  program node := (if_neg other).trans (knows.program node)
  board := (if_neg other).trans knows.board
  repeats node := (if_neg other).trans (knows.repeats node)

theorem Knows.joined_all (knows : o.Knows x) (xs : List Runner) (other : ∀ y ∈ xs, x.id ≠ y.id) :
    (xs.foldl Outlook.joined o).Knows x := by
  induction xs generalizing o with
  | nil => exact knows
  | cons y ys ih =>
      have next : (o.joined y).Knows x := knows.joined (other y List.mem_cons_self)
      exact ih next fun z member => other z (List.mem_cons_of_mem y member)

theorem knows_of_mem {xs : List Runner} (o : Outlook) (distinct : (xs.map (·.id)).Nodup) (member : x ∈ xs) :
    (xs.foldl Outlook.joined o).Knows x := by
  induction xs generalizing o with
  | nil => cases member
  | cons y ys ih =>
      obtain ⟨new, rest⟩ := List.nodup_cons.mp distinct
      rcases List.mem_cons.mp member with rfl | later
      · exact (o.joined_knows x).joined_all ys fun z among same => new (List.mem_map.mpr ⟨z, among, same.symm⟩)
      · exact ih (o.joined y) rest later

/-- Of those who have not been registered no more is known than before. -/
theorem statusOf_joined_all (xs : List Runner) (o : Outlook) {id : RunnerId} (none : ∀ x ∈ xs, id ≠ x.id) :
    (xs.foldl Outlook.joined o).statusOf id = o.statusOf id := by
  induction xs generalizing o with
  | nil => rfl
  | cons y ys ih =>
      rw [List.foldl_cons, ih (o.joined y) fun z member => none z (List.mem_cons_of_mem y member)]
      funext node
      exact if_neg (none y List.mem_cons_self)

end Outlook

end Plotline
