import Plotline.Proofs.Runner.Upkeep
import Plotline.Proofs.Bus.Subscription

/-!
A runner that has just been set up: it knows exactly the nodes of its storyboard, none of them has started, and so
none is ready by its statuses alone.
-/

namespace Plotline

/-- The node as it is apart from its conditions. -/
def Node.bare (n : Node) : Node := { n with conditions := [] }

namespace Runner

private theorem get?_enlist (runner : RunnerId) (statuses : StatusTable) (j : Journal) (nodes : List Node)
    (node : NodeId) :
    (enlist runner statuses j nodes).1.get? node =
      (statuses.get? node).or (if nodes.any (·.id = node) then some .notStarted else none) := by
  induction nodes generalizing statuses j with
  | nil => simp [enlist]
  | cons n nodes ih =>
      unfold enlist
      split
      · rename_i known
        rw [ih]
        by_cases same : n.id = node
        · obtain ⟨status, is⟩ := Option.isSome_iff_exists.mp known
          rw [← same, is, Option.some_or, Option.some_or]
        · simp [same]
      · rename_i unknown
        dsimp only
        rw [ih]
        unfold StatusTable.get? at unknown ⊢
        rw [List.lookup_append, Option.or_assoc]
        congr 1
        by_cases same : n.id = node
        · simp [same]
        · have other : (node == n.id) = false := beq_false_of_ne (Ne.symm same)
          simp [same, List.lookup_cons, other]

theorem subscribeNodes_ids (runner : RunnerId) (seen : List NodeId) (ch : Channel) (nodes : List Node) :
    (subscribeNodes runner seen ch nodes).1.map (·.id) = nodes.map (·.id) := by
  induction nodes generalizing seen ch with
  | nil => rfl
  | cons n nodes ih =>
      unfold subscribeNodes
      split
      · simpa using ih seen ch
      · simpa using ih (n.id :: seen) _

theorem subscribeNodes_bare (runner : RunnerId) (seen : List NodeId) (ch : Channel) (nodes : List Node) :
    (subscribeNodes runner seen ch nodes).1.map Node.bare = nodes.map Node.bare := by
  induction nodes generalizing seen ch with
  | nil => rfl
  | cons n nodes ih =>
      unfold subscribeNodes
      split
      · exact congrArg (n.bare :: ·) (ih seen ch)
      · exact congrArg (n.bare :: ·) (ih (n.id :: seen) _)

/-- Statuses of which none is complete settle nothing. -/
theorem evaluate_incomplete {r : Runner} (included : Node → Bool) (j : Journal)
    (incomplete : ∀ node, r.statusOf? node ≠ some .completed) : r.evaluate included j = ([], r, j) := by
  have unsettled : ∀ kind : ConditionKind, kind.settledBy r.statuses = false := by
    intro kind
    unfold ConditionKind.settledBy
    cases kind with
    | previousNodeCompleted target => simpa [statusOf?] using incomplete target
    | areaEntered area => rfl
    | interactionTriggered interaction => rfl
  have same : ∀ n : Node, n.mapConditions (·.settle r.statuses) = n := by
    intro n
    unfold Node.mapConditions Condition.settle
    simp [unsettled]
  have none : ∀ conditions : List Condition, conditions.filter (·.newlySettled r.statuses) = [] := by
    intro conditions
    rw [List.filter_eq_nil_iff]
    intro c _
    simp [Condition.newlySettled, unsettled]
  have result : (r.evaluate included j).2.1 = r := by
    unfold evaluate mapNodes
    simp [same]
  have journal : (r.evaluate included j).2.2 = j := by
    have kinds : ∀ nodes : List Node,
        (nodes.flatMap fun n => (n.conditions.filter (·.newlySettled r.statuses)).map (·.kind)) = [] := by
      intro nodes
      rw [List.flatMap_eq_nil_iff]
      intro n _
      rw [none, List.map_nil]
    unfold evaluate
    dsimp only
    rw [kinds]
    rfl
  have ready : (r.evaluate included j).1 = [] := by
    unfold evaluate
    simp [Condition.newlySettled, unsettled]
  exact Prod.ext ready (Prod.ext result journal)

/-- What setting up makes of a runner: its nodes are subscribed, and each of them has not started. -/
theorem setUp_parts (r : Runner) (ch : Channel) : ∃ journal,
    let down := (r.takeDown ch).1
    let wired := subscribeNodes r.id [] { (r.takeDown ch).2 with journal } down.storyboard.nodes
    let jumps := wired.2.bus.subscribe .jumpRequested (.runner r.id)
    let triggers := jumps.2.subscribe .triggerRequested (.runner r.id)
    (r.setUp ch).1 = [] ∧ (r.setUp ch).2.1.id = r.id ∧ (r.setUp ch).2.1.storyboard.nodes = wired.1 ∧
      (∀ node, (r.setUp ch).2.1.statusOf? node =
        if down.storyboard.nodes.any (·.id = node) then some .notStarted else none) ∧
      wired.2.bus.Widens (r.setUp ch).2.2.bus ∧ (r.setUp ch).2.1.subscriptions = [jumps.1, triggers.1] ∧
      (r.setUp ch).2.2.bus = triggers.2 := by
  unfold setUp
  dsimp only
  have id : (r.takeDown ch).1.id = r.id := rfl
  revert id
  generalize r.takeDown ch = result
  obtain ⟨r', ch'⟩ := result
  dsimp only
  intro id
  have statuses := get?_enlist r'.id [] ch'.journal r'.storyboard.nodes
  revert statuses
  generalize enlist r'.id [] ch'.journal r'.storyboard.nodes = enlisted
  obtain ⟨table, journal⟩ := enlisted
  intro statuses
  have known : ∀ node, StatusTable.get? table node =
      if r'.storyboard.nodes.any (·.id = node) then some .notStarted else none := statuses
  have incomplete : ∀ node, StatusTable.get? table node ≠ some .completed := by
    intro node
    rw [known]
    split <;> nofun
  have unchanged : ∀ (y : Runner) (j : Journal), y.statuses = table → y.evaluate (fun _ => true) j = ([], y, j) := by
    rintro y j rfl
    exact evaluate_incomplete _ j incomplete
  rw [id]
  refine ⟨journal, ?_⟩
  rw [unchanged _ _ rfl]
  exact ⟨rfl, rfl, rfl, known, (Channel.subscribe_widens _ _ _).trans (Channel.subscribe_widens _ _ _), rfl, rfl⟩

/-- Nothing has happened to the runner since it was set up. -/
structure Fresh (r : Runner) : Prop where
  listed : r.Listed
  waiting : ∀ node status, r.statusOf? node = some status → status = .notStarted

private theorem find?_isSome_of_ids {nodes nodes' : List Node} (same : nodes'.map (·.id) = nodes.map (·.id))
    (node : NodeId) : (nodes'.find? (·.id = node)).isSome = nodes.any (·.id = node) := by
  have asked : ∀ list : List Node, list.any (·.id = node) = (list.map (·.id)).any (· = node) := by
    intro list
    simp [List.any_map, Function.comp_def]
  calc (nodes'.find? (·.id = node)).isSome
    _ = nodes'.any (·.id = node) := by rw [Bool.eq_iff_iff, List.find?_isSome, List.any_eq_true]
    _ = nodes.any (·.id = node) := by rw [asked, asked, same]

theorem setUp_made {r r' : Runner} {ch ch' : Channel} {ready : List NodeId} (made : r.setUp ch = (ready, r', ch')) :
    ready = [] ∧ r'.id = r.id ∧ r'.Fresh ∧ ch.Rewired ch' := by
  have rewired := r.setUp_rewired ch
  obtain ⟨journal, ready, id, nodes, statuses, -⟩ := r.setUp_parts ch
  have ids := subscribeNodes_ids r.id [] { (r.takeDown ch).2 with journal } (r.takeDown ch).1.storyboard.nodes
  rw [← nodes] at ids
  rw [made] at rewired ready id statuses ids
  refine ⟨ready, id, ⟨?_, ?_⟩, rewired⟩
  · intro node
    have known : r'.contains node = (r'.statusOf? node).isSome := rfl
    have board : r'.storyboard.node? node = r'.storyboard.nodes.find? (·.id = node) := rfl
    rw [known, statuses, board, find?_isSome_of_ids ids]
    split <;> simp_all
  · intro node status is
    rw [statuses] at is
    split at is
    · exact (Option.some.inj is).symm
    · cases is

/-- Setting up brings no node in and takes none out. -/
theorem setUp_sameNodes (r : Runner) (ch : Channel) (node : NodeId) :
    ((r.setUp ch).2.1.storyboard.node? node).isSome = (r.storyboard.node? node).isSome := by
  obtain ⟨journal, -, -, made, -⟩ := r.setUp_parts ch
  have ids := subscribeNodes_ids r.id [] { (r.takeDown ch).2 with journal } (r.takeDown ch).1.storyboard.nodes
  have cleared : (r.takeDown ch).1.storyboard.nodes.map (·.id) = r.storyboard.nodes.map (·.id) := by
    simp [takeDown, mapNodes, Node.mapConditions, Function.comp_def]
  rw [← made, cleared] at ids
  exact (find?_isSome_of_ids ids node).trans (find?_isSome_of_ids rfl node).symm

end Runner

end Plotline
