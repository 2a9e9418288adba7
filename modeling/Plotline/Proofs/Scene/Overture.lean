import Plotline.Proofs.Scene.Billing
import Plotline.Proofs.Scene.Procession

/-!
The beginning of the story. Which nodes are called for, in which order, and what becomes of them follows from the
definitions of the runners alone, in whatever order these have been registered.
-/

namespace Plotline

/-- The start node of a runner, as the first node of that id has it. -/
structure StoryOpening where
  runner : RunnerId
  board : StoryboardName
  node : NodeId
  program : Program
  repeatable : Bool

namespace StoryOpening

def target (x : StoryOpening) : RunnerId × NodeId := (x.runner, x.node)

/-- Those that are over as soon as they are called for, before any of them runs. -/
def passed (openings : List StoryOpening) : List StoryOpening := openings.takeWhile (·.program.isEmpty)

/-- The first one that runs, and those that have to wait for it. -/
def held (openings : List StoryOpening) : List StoryOpening := openings.dropWhile (·.program.isEmpty)

def begins (x : StoryOpening) : StoryEvent := .nodeStarted x.runner x.board x.node

/-- The events of an opening that is over as soon as it is called for. -/
def passes (x : StoryOpening) : List StoryEvent :=
  [x.begins, .nodeCompleted x.runner x.board x.node, .programFinished x.runner x.node []]

def news (openings : List StoryOpening) : List StoryEvent :=
  (passed openings).flatMap passes ++ ((held openings).head?.map begins).toList

variable {x : StoryOpening}

theorem passed_of_empty (empty : x.program.isEmpty = true) (openings : List StoryOpening) :
    passed (x :: openings) = x :: passed openings :=
  List.takeWhile_cons_of_pos empty

theorem held_of_empty (empty : x.program.isEmpty = true) (openings : List StoryOpening) :
    held (x :: openings) = held openings :=
  List.dropWhile_cons_of_pos empty

theorem news_of_empty (empty : x.program.isEmpty = true) (openings : List StoryOpening) :
    news (x :: openings) = x.passes ++ news openings := by
  unfold news
  rw [passed_of_empty empty, held_of_empty empty, List.flatMap_cons, List.append_assoc]

theorem passed_of_filled (filled : x.program.isEmpty = false) (openings : List StoryOpening) :
    passed (x :: openings) = [] :=
  List.takeWhile_cons_of_neg (by simp [filled])

theorem held_of_filled (filled : x.program.isEmpty = false) (openings : List StoryOpening) :
    held (x :: openings) = x :: openings :=
  List.dropWhile_cons_of_neg (by simp [filled])

/-- If no other opening is of the same runner, the node is over for good unless it is repeatable. -/
theorem exists_passed_once {openings : List StoryOpening} (others : ∀ y ∈ openings, x.runner ≠ y.runner) :
    (∃ y ∈ x :: passed openings, y.target = x.target ∧ y.repeatable = false) ↔ x.repeatable = false := by
  constructor
  · rintro ⟨y, member, same, once⟩
    rcases List.mem_cons.mp member with rfl | later
    · exact once
    · exact absurd (Prod.mk.inj same).1.symm (others y ((List.takeWhile_sublist _).subset later))
  · exact fun once => ⟨x, List.mem_cons_self, rfl, once⟩

/-- The opening is in order: its node has not started, and is what the opening says. -/
structure Ready (o : Outlook) (x : StoryOpening) : Prop where
  waiting : o.statusOf x.runner x.node = some .notStarted
  program : o.programOf x.runner x.node = some x.program
  board : o.boardOf x.runner = some x.board
  repeats : o.repeats x.runner x.node = x.repeatable

/-- What befalls a node of another runner makes no difference. -/
theorem Ready.marked {o : Outlook} {x : StoryOpening} (ready : x.Ready o) {runner : RunnerId}
    (other : x.runner ≠ runner) (node : NodeId) (status : NodeStatus) : x.Ready (o.marked runner node status) := by
  refine { ready with waiting := ?_ }
  have elsewhere : (x.runner, x.node) ≠ (runner, node) := fun same => other (Prod.mk.inj same).1
  exact (if_neg elsewhere).trans ready.waiting

end StoryOpening

def RunnerDefinition.opening? (d : RunnerDefinition) : Option StoryOpening :=
  (d.storyboard.startNode?.bind fun n => d.storyboard.node? n.id).map fun n =>
    ⟨d.id, d.storyboard.name, n.id, n.program, n.isRepeatable⟩

namespace Scene

/-- Requests for the targets, one after the other. -/
def numbered (first : Nat) (targets : List (RunnerId × NodeId)) : List Request :=
  (targets.zipIdx first).map fun (target, sequence) => ⟨target.1, target.2, sequence⟩

/-- The scene has come from one state to the other by start requests for the targets, one after the other, and by
nothing else but remarks. -/
inductive Asks : List (RunnerId × NodeId) → Scene → Scene → Prop
  | done (s : Scene) : Asks [] s s
  | remarks {targets : List (RunnerId × NodeId)} {s s' : Scene} (n : Note) (plain : n.isPlain = true)
      (rest : Asks targets (s.note n) s') : Asks targets s s'
  | asks {targets : List (RunnerId × NodeId)} {s s' : Scene} (runner : RunnerId) (node : NodeId)
      (rest : Asks targets (s.tryStart runner node) s') : Asks ((runner, node) :: targets) s s'

variable {s s' : Scene} {targets : List (RunnerId × NodeId)} {openings : List StoryOpening}

/-- The start nodes of those who open the story. -/
def startNodes (s : Scene) : List (RunnerId × NodeId) :=
  s.openers.filterMap fun r => r.startNode?.map fun node => (r.id, node)

private theorem asks_of_runners (runners : List Runner) (s : Scene) :
    Asks (runners.filterMap fun r => r.startNode?.map fun node => (r.id, node)) s (runners.foldl kickstartRunner s) := by
  induction runners generalizing s with
  | nil => exact .done s
  | cons r runners ih =>
      rw [List.foldl_cons]
      cases start : r.startNode? with
      | none =>
          rw [List.filterMap_cons_none (by rw [start]; rfl), kickstartRunner, start]
          exact .remarks _ rfl (ih _)
      | some node =>
          rw [List.filterMap_cons_some (b := (r.id, node)) (by rw [start]; rfl), kickstartRunner, start]
          exact .remarks (.kickstarted r.id node) rfl (.asks r.id node (ih _))

/-- When the story begins, it is for these nodes that start requests are made, once for each. -/
theorem kickstart_asks (fresh : s.kickstarted = false) :
    Asks s.startNodes { s with kickstarted := true } s.kickstart := by
  unfold kickstart
  rw [if_neg (by simp [fresh])]
  exact asks_of_runners s.openers _

/-! ### Requests one after the other -/

/-- While a node is active, all that becomes of start requests is that they wait in turn. -/
theorem Asks.queue (asks : Asks targets s s') (running : s.isEventRunning = true) :
    ∃ ch, ch.bus.queue = s.channel.bus.queue ∧
      s' = { s with
        pending := s.pending ++ numbered s.nextSequence targets
        nextSequence := s.nextSequence + targets.length
        channel := ch } := by
  induction asks with
  | done s => exact ⟨s.channel, rfl, by simp [numbered]⟩
  | remarks n plain rest ih => exact ih running
  | @asks targets s s' runner node rest ih =>
      have queued : s.tryStart runner node = s.enqueue runner node := if_pos running
      rw [queued] at ih
      obtain ⟨ch, same, after⟩ := ih running
      refine ⟨ch, same, ?_⟩
      rw [after]
      simp [enqueue, numbered, Nat.add_comm, Nat.add_left_comm]

/-- What has come of the openings, once all of them have been called for. -/
structure Opened (openings : List StoryOpening) (s s' : Scene) : Prop where
  active : s'.active = (StoryOpening.held openings).head?.map StoryOpening.target
  program : s'.interpreter.program = (StoryOpening.held openings).head?.map StoryOpening.program
  pending : s'.pending = numbered s.nextSequence ((StoryOpening.held openings).tail.map StoryOpening.target)
  nextSequence : s'.nextSequence = s.nextSequence + (StoryOpening.held openings).tail.length
  queue : s'.channel.bus.queue = s.channel.bus.queue ++ StoryOpening.news openings
  status : ∀ runner node, s'.statusOf? runner node =
    if s'.active = some (runner, node) then some .inProgress
    else if ∃ x ∈ StoryOpening.passed openings, x.target = (runner, node) ∧ x.repeatable = false then some .completed
    else s.statusOf? runner node

/-- No node is active, nothing waits and nothing is loaded. -/
structure Bare (s : Scene) : Prop where
  active : s.active = none
  pending : s.pending = []
  program : s.interpreter.program = none

theorem startNode_of_unpending (none : s.pending = []) (runner : RunnerId) (node : NodeId) :
    (s.startNode runner node).2 = (s.beginNode runner node).2 := by
  by_cases ended : (s.beginNode runner node).1 = .ended
  · have still := (beginNode_pending runner node s).trans none
    rw [startNode_of_ended ended, release_of_attended (.inr still)]
  · exact startNode_of_not_ended ended

theorem beginNode_nextSequence (coherent : s.Coherent) (runner : RunnerId) (node : NodeId) :
    (s.beginNode runner node).2.nextSequence = s.nextSequence := by
  have begins := beginNode_begins coherent runner node
  revert begins
  generalize (s.beginNode runner node).1 = begun, (s.beginNode runner node).2 = s'
  intro begins
  cases begins <;> rfl

/-- An opening that is called for while no node is active is over at once or runs. -/
theorem tryStart_of_ready (coherent : s.Coherent) (bare : s.Bare) {x : StoryOpening} (ready : x.Ready s.outlook) :
    (s.tryStart x.runner x.node).nextSequence = s.nextSequence ∧
      (x.program.isEmpty = true ∧
          (s.tryStart x.runner x.node).outlook = { s.outlook.spent x.runner x.node with active := none } ∧
          (s.tryStart x.runner x.node).channel.bus.queue = s.channel.bus.queue ++ x.passes ∨
        x.program.isEmpty = false ∧
          (s.tryStart x.runner x.node).outlook =
            { s.outlook.marked x.runner x.node .inProgress with
              interpreter := s.interpreter.load x.program
              active := some x.target } ∧
          (s.tryStart x.runner x.node).channel.bus.queue = s.channel.bus.queue ++ [x.begins]) := by
  have started : s.tryStart x.runner x.node = (s.beginNode x.runner x.node).2 := by
    unfold tryStart
    rw [if_neg (by simp [isEventRunning, bare.active]), startNode_of_unpending bare.pending]
  have unhindered : s.interpreter.program ≠ none → False := fun busy => busy bare.program
  obtain ⟨events, fate, grown⟩ := beginNode_fate coherent unhindered x.runner x.node
  rw [started]
  refine ⟨beginNode_nextSequence coherent x.runner x.node, ?_⟩
  have queue := grown.queue
  revert fate queue
  generalize (s.beginNode x.runner x.node).2.outlook = o, (s.beginNode x.runner x.node).2.channel.bus.queue = q
  intro fate queue
  cases fate with
  | passedOver unready => exact absurd ready.waiting unready
  | jammed jam => exact jam.elim
  | ended waiting known empty home =>
      cases known.symm.trans ready.program
      cases home.symm.trans ready.board
      exact .inl ⟨empty, rfl, queue⟩
  | begun waiting known filled idle home =>
      cases known.symm.trans ready.program
      cases home.symm.trans ready.board
      exact .inr ⟨filled, rfl, queue⟩

/-- A first opening that is over at once leaves the others to open the story. -/
private theorem Opened.pass {x : StoryOpening} (ready : x.Ready s.outlook) (empty : x.program.isEmpty = true)
    (others : ∀ y ∈ openings, x.runner ≠ y.runner) {s₁ : Scene} (sequence : s₁.nextSequence = s.nextSequence)
    (outlook : s₁.outlook = { s.outlook.spent x.runner x.node with active := none })
    (queue : s₁.channel.bus.queue = s.channel.bus.queue ++ x.passes) (opened : Opened openings s₁ s') :
    Opened (x :: openings) s s' := by
  have held := StoryOpening.held_of_empty empty openings
  refine ⟨?_, ?_, ?_, ?_, ?_, ?_⟩
  · rw [held]
    exact opened.active
  · rw [held]
    exact opened.program
  · rw [held, ← sequence]
    exact opened.pending
  · rw [held, ← sequence]
    exact opened.nextSequence
  · rw [StoryOpening.news_of_empty empty, opened.queue, queue, List.append_assoc]
  · intro runner node
    have before : s₁.statusOf? runner node = if (runner, node) = (x.runner, x.node)
        then some (s.outlook.endStatus x.runner x.node) else s.statusOf? runner node :=
      congrFun (congrFun (congrArg Outlook.statusOf outlook) runner) node
    have ending : s.outlook.endStatus x.runner x.node = if x.repeatable then .notStarted else .completed := by
      unfold Outlook.endStatus
      rw [ready.repeats]
    rw [opened.status, before, ending, StoryOpening.passed_of_empty empty]
    by_cases here : (runner, node) = (x.runner, x.node)
    · obtain ⟨rfl, rfl⟩ := Prod.mk.inj here
      have nowhere : ¬ ∃ y ∈ StoryOpening.passed openings, y.target = (x.runner, x.node) ∧ y.repeatable = false := by
        rintro ⟨y, member, same, -⟩
        exact others y ((List.takeWhile_sublist _).subset member) (Prod.mk.inj same).1.symm
      have once : (∃ y ∈ x :: StoryOpening.passed openings, y.target = (x.runner, x.node) ∧ y.repeatable = false) ↔
          x.repeatable = false :=
        StoryOpening.exists_passed_once others
      have known : s.statusOf? x.runner x.node = some .notStarted := ready.waiting
      rw [if_neg nowhere, if_pos rfl, known]
      cases repeatable : x.repeatable <;> simp only [once, repeatable, if_true, if_false, reduceCtorEq]
    · have other : x.target ≠ (runner, node) := fun same => here same.symm
      simp [here, other]

/-- A first opening that runs makes the others wait. -/
private theorem Opened.hold {x : StoryOpening} (bare : s.Bare) (filled : x.program.isEmpty = false) {s₁ : Scene}
    (sequence : s₁.nextSequence = s.nextSequence)
    (outlook : s₁.outlook = { s.outlook.marked x.runner x.node .inProgress with
      interpreter := s.interpreter.load x.program, active := some x.target })
    (queue : s₁.channel.bus.queue = s.channel.bus.queue ++ [x.begins])
    (asks : Asks (openings.map StoryOpening.target) s₁ s') : Opened (x :: openings) s s' := by
  have passed := StoryOpening.passed_of_filled filled openings
  have held := StoryOpening.held_of_filled filled openings
  have active : s₁.active = some x.target := congrArg Outlook.active outlook
  have interpreter : s₁.interpreter = s.interpreter.load x.program := congrArg Outlook.interpreter outlook
  have pending : s₁.pending = [] := (congrArg Outlook.pending outlook).trans bare.pending
  obtain ⟨ch, same, rfl⟩ := asks.queue (by simp [isEventRunning, active])
  refine ⟨?_, ?_, ?_, ?_, ?_, ?_⟩
  · rw [held]
    exact active
  · rw [held]
    exact congrArg Interpreter.program interpreter
  · rw [held]
    dsimp only
    rw [pending, sequence, List.nil_append]
    rfl
  · rw [held]
    dsimp only
    rw [sequence, List.length_map]
    rfl
  · dsimp only
    rw [same, queue, StoryOpening.news, passed, held]
    rfl
  · intro runner node
    have after : s₁.statusOf? runner node = if (runner, node) = (x.runner, x.node) then some .inProgress
        else s.statusOf? runner node :=
      congrFun (congrFun (congrArg Outlook.statusOf outlook) runner) node
    change s₁.statusOf? runner node = if s₁.active = some (runner, node) then _ else _
    rw [after, active, passed]
    by_cases here : (runner, node) = (x.runner, x.node)
    · have same : some x.target = some (runner, node) := congrArg some here.symm
      rw [if_pos here, if_pos same]
    · have other : some x.target ≠ some (runner, node) := fun same => here (Option.some.inj same).symm
      rw [if_neg here, if_neg other, if_neg (by simp)]

/-- Openings that are called for in turn are over at once as long as their programs are empty; the first whose program is
not runs, and the others wait. -/
theorem Asks.opened (asks : Asks targets s s') (openings : List StoryOpening)
    (named : openings.map StoryOpening.target = targets) (coherent : s.Coherent) (bare : s.Bare) (ready : ∀ x ∈ openings, x.Ready s.outlook)
    (distinct : (openings.map StoryOpening.runner).Nodup) : Opened openings s s' := by
  induction asks generalizing openings with
  | done s =>
      obtain rfl := List.map_eq_nil_iff.mp named
      exact ⟨bare.active, bare.program, bare.pending, rfl, (List.append_nil _).symm,
        by simp [bare.active, StoryOpening.passed]⟩
  | @remarks targets s s' n plain rest ih =>
      have noted : Steps .kickstart False False ⟨s, [], false⟩ ⟨s.note n, [], false⟩ := note_steps plain
      have opened := ih openings named (Turns.coherent noted coherent) ⟨bare.active, bare.pending, bare.program⟩ ready
        distinct
      exact { opened with }
  | @asks targets s s' runner node rest ih =>
      cases openings with
      | nil => cases named
      | cons x openings =>
          obtain ⟨⟨rfl, rfl⟩, same⟩ :
              (x.runner = runner ∧ x.node = node) ∧ openings.map StoryOpening.target = targets := by
            simpa [StoryOpening.target] using named
          obtain ⟨new, distinct⟩ := List.nodup_cons.mp distinct
          have others : ∀ y ∈ openings, x.runner ≠ y.runner :=
            fun y member same => new (List.mem_map.mpr ⟨y, member, same.symm⟩)
          obtain ⟨sequence, ⟨empty, outlook, queue⟩ | ⟨filled, outlook, queue⟩⟩ :=
            tryStart_of_ready coherent bare (ready x List.mem_cons_self)
          · have turned : Turns .kickstart False False ⟨⟨s, [], false⟩, some (x.runner, x.node)⟩
                ⟨⟨s.tryStart x.runner x.node, [], false⟩, none⟩ := tryStart_turns coherent x.runner x.node
            have bareNext : (s.tryStart x.runner x.node).Bare := by
              refine ⟨congrArg Outlook.active outlook, (congrArg Outlook.pending outlook).trans bare.pending, ?_⟩
              exact (congrArg (·.interpreter.program) outlook :).trans bare.program
            have readyNext : ∀ y ∈ openings, y.Ready (s.tryStart x.runner x.node).outlook := by
              intro y member
              have still : y.Ready (s.outlook.spent x.runner x.node) :=
                (ready y (List.mem_cons_of_mem x member)).marked (others y member).symm x.node _
              rw [outlook]
              exact { still with }
            exact .pass (ready x List.mem_cons_self) empty others sequence outlook queue
              (ih openings same (turned.coherent coherent) bareNext readyNext distinct)
          · exact .hold bare filled sequence outlook queue (same.symm ▸ rest)

end Scene

end Plotline
