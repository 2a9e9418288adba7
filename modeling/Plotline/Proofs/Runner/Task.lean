import Plotline.Proofs.Runner.Woken

/-!
What a runner can be asked, one task after the other, and what it answers. Of several nodes with one id the later ones
count for nothing, but for two things: the story can begin with one, and restored statuses can start one.
-/

namespace Plotline.Runner

inductive Task
  | setUp
  | deliver (key : ConditionKey) (event : StoryEvent)
  | begin (node : NodeId)
  | complete (node : NodeId)
  | jump (board : StoryboardName) (keep : Option NodeId)
  | restore (entry : SnapshotEntry) (policy : RestorePolicy) (active : Option NodeId)

inductive Answer
  | ready (nodes : List NodeId)
  | woken (node : Option NodeId)
  | program (program : Option Program)
  | meant (yes : Bool)
  /-- The nodes that are to start after a game was restored. -/
  | restart (nodes : List NodeId)
  deriving DecidableEq

/-- The answer, without the nodes that are to start after a game was restored. -/
def Answer.masked : Answer → Answer
  | restart _ => restart []
  | answer => answer

def Task.perform : Task → Runner × Channel → Answer × Runner × Channel
  | setUp, (r, ch) =>
    let (nodes, r, ch) := r.setUp ch
    (.ready nodes, r, ch)
  | deliver key event, (r, ch) =>
    let (node, r, journal) := r.deliver key event ch.journal
    (.woken node, r, { ch with journal })
  | begin node, (r, ch) =>
    let (program, r, ch) := r.beginNode node ch
    (.program program, r, ch)
  | complete node, (r, ch) =>
    let (done, r, ch) := r.completeNode node ch
    (.meant done, r, ch)
  | jump board keep, (r, ch) =>
    let (mine, r, ch) := r.receiveJump board keep ch
    (.meant mine, r, ch)
  | restore entry policy active, (r, ch) =>
    let (nodes, r, journal) := r.restore entry policy active ch.journal
    (.restart nodes, r, { ch with journal })

/-- Performs the tasks in turn, and collects the answers. -/
def work : List Task → Runner × Channel → List Answer × Runner × Channel
  | [], x => ([], x)
  | task :: tasks, x =>
    let (answer, x) := task.perform x
    let (answers, x) := work tasks x
    (answer :: answers, x)

/-! ### One task -/

/-- The second runner is the first without its shadowed nodes. -/
structure Trims (x y : Runner × Channel) : Prop where
  runner : y.1 = x.1.pruned
  channel : x.2.Agrees y.2

theorem Task.perform_trims (task : Task) {x y : Runner × Channel} (trims : Trims x y) :
    Trims (task.perform x).2 (task.perform y).2 ∧ (task.perform y).1.masked = (task.perform x).1.masked := by
  obtain ⟨r, a⟩ := x
  obtain ⟨_, b⟩ := y
  obtain ⟨rfl, agrees⟩ := trims
  dsimp only at agrees ⊢
  cases task with
  | setUp =>
      obtain ⟨ready, runner, channel⟩ := setUp_pruned (r := r) agrees
      exact ⟨⟨runner, channel⟩, congrArg (fun nodes => (Answer.ready nodes).masked) ready⟩
  | deliver key event =>
      obtain ⟨woken, runner, channel⟩ := deliver_pruned (r := r) key event agrees
      exact ⟨⟨runner, channel⟩, congrArg (fun node => (Answer.woken node).masked) woken⟩
  | begin node =>
      obtain ⟨program, runner, channel⟩ := beginNode_pruned (r := r) node agrees
      exact ⟨⟨runner, channel⟩, congrArg (fun program => (Answer.program program).masked) program⟩
  | complete node =>
      obtain ⟨done, runner, channel, -⟩ := completeNode_pruned (r := r) node agrees
      exact ⟨⟨runner, channel⟩, congrArg (fun done => (Answer.meant done).masked) done⟩
  | jump board keep =>
      obtain ⟨mine, runner, channel, -⟩ := receiveJump_pruned (r := r) board keep agrees
      exact ⟨⟨runner, channel⟩, congrArg (fun mine => (Answer.meant mine).masked) mine⟩
  | restore entry policy active =>
      have quiet := fun (x : Runner) (ch : Channel) =>
        ch.journal_quiet (x.restore_spec entry policy active ch.journal).2
      exact ⟨⟨restore_pruned entry policy active r a.journal b.journal,
        agrees.quiet (quiet r a) (quiet r.pruned b)⟩, rfl⟩

/-- The runner knows only nodes of its storyboard, and none of those that are shadowed can wake. -/
def Slumbers (r : Runner) : Prop := r.Knows ∧ r.Asleep

private theorem completeAll_alike (nodes : List NodeId) (r : Runner) (ch : Channel) :
    r.Alike (r.completeAll nodes ch).1 := by
  induction nodes generalizing r ch with
  | nil => exact .refl r
  | cons node nodes ih =>
      have first : r.Alike (r.completeNode node ch).2.1 := by
        rw [completeNode_runner]
        exact r.afterEnd_alike node
      exact first.trans (ih _ _)

/-- Setting up apart, no task changes more about a runner than statuses and latches. -/
private theorem Task.perform_alike (task : Task) (r : Runner) (ch : Channel) :
    task = .setUp ∨ r.Alike (task.perform (r, ch)).2.1 := by
  cases task with
  | setUp => exact Or.inl rfl
  | deliver key event => exact Or.inr (r.deliver_alike key event ch.journal)
  | begin node =>
      refine Or.inr ?_
      unfold perform beginNode
      dsimp only
      split
      · exact .refl r
      · rename_i waiting
        split
        · exact .refl r
        · exact alike_setStatus (contains_of_status waiting) .inProgress
      · exact .refl r
  | complete node =>
      refine Or.inr ?_
      have ended := r.completeNode_runner node ch
      exact ended ▸ r.afterEnd_alike node
  | jump board keep =>
      refine Or.inr ?_
      unfold perform receiveJump
      dsimp only
      split
      · exact completeAll_alike _ _ _
      · exact .refl r
  | restore entry policy active => exact Or.inr (r.restore_spec entry policy active ch.journal).1.alike

theorem Task.perform_slumbers (task : Task) {r : Runner} {a b : Channel} (agrees : a.Agrees b)
    (slumbers : r.Slumbers) : (task.perform (r, a)).2.1.Slumbers ∧
      (task.perform (r.pruned, b)).1 = (task.perform (r, a)).1 := by
  obtain ⟨knows, asleep⟩ := slumbers
  have knows' : (task.perform (r, a)).2.1.Knows := by
    rcases task.perform_alike r a with rfl | alike
    · have fresh : (r.setUp a).2.1.Fresh := (setUp_made rfl).2.2.1
      exact fresh.listed.knows
    · exact alike.knows knows
  -- every task but one keeps the shadowed nodes as they are
  have kept : task ≠ .setUp → (task.perform (r, a)).2.1.storyboard.shadowed = r.storyboard.shadowed →
      (task.perform (r, a)).2.1.Slumbers := fun other same =>
    ⟨knows', asleep.of_alike ((task.perform_alike r a).resolve_left other) same⟩
  cases task with
  | setUp => exact ⟨⟨knows', asleep.setUp a⟩, congrArg Answer.ready (setUp_pruned agrees).1⟩
  | deliver key event =>
      exact ⟨kept nofun (r.shadowed_deliver key event a.journal),
        congrArg Answer.woken (deliver_pruned key event agrees).1⟩
  | begin node =>
      exact ⟨kept nofun (r.shadowed_beginNode node a), congrArg Answer.program (beginNode_pruned node agrees).1⟩
  | complete node =>
      obtain ⟨done, -, -, same⟩ := completeNode_pruned (r := r) node agrees
      exact ⟨kept nofun same, congrArg Answer.meant done⟩
  | jump board keep =>
      obtain ⟨mine, -, -, same⟩ := receiveJump_pruned (r := r) board keep agrees
      exact ⟨kept nofun same, congrArg Answer.meant mine⟩
  | restore entry policy active =>
      exact ⟨⟨knows', asleep.restore knows entry policy active a.journal⟩,
        congrArg Answer.restart (asleep.restart knows entry policy active a.journal b.journal)⟩

/-! ### Any number of tasks -/

theorem work_trims (tasks : List Task) {x y : Runner × Channel} (trims : Trims x y) :
    Trims (work tasks x).2 (work tasks y).2 ∧
      (work tasks y).1.map Answer.masked = (work tasks x).1.map Answer.masked := by
  induction tasks generalizing x y with
  | nil => exact ⟨trims, rfl⟩
  | cons task tasks ih =>
      obtain ⟨trimsNext, answer⟩ := task.perform_trims trims
      obtain ⟨trimsAll, answers⟩ := ih trimsNext
      exact ⟨trimsAll, List.cons_eq_cons.mpr ⟨answer, answers⟩⟩

theorem work_slumbers (tasks : List Task) {r : Runner} {a b : Channel} (agrees : a.Agrees b) (slumbers : r.Slumbers) :
    (work tasks (r.pruned, b)).1 = (work tasks (r, a)).1 := by
  induction tasks generalizing r a b with
  | nil => rfl
  | cons task tasks ih =>
      obtain ⟨slumbersNext, answer⟩ := task.perform_slumbers agrees slumbers
      obtain ⟨trims, -⟩ := task.perform_trims (x := (r, a)) (y := (r.pruned, b)) ⟨rfl, agrees⟩
      have rest := ih trims.channel slumbersNext
      rw [← trims.runner] at rest
      exact List.cons_eq_cons.mpr ⟨answer, rest⟩

/-! ### Where the story begins -/

private theorem startNode?_congr {r r' : Runner}
    (same : r'.storyboard.nodes.map (fun n => (n.id, n.isStart)) = r.storyboard.nodes.map fun n => (n.id, n.isStart)) :
    r'.startNode? = r.startNode? := by
  have asked : ∀ x : Runner, x.startNode? =
      ((x.storyboard.nodes.map fun n => (n.id, n.isStart)).find? (·.2)).map (·.1) := by
    intro x
    rw [List.find?_map, Option.map_map]
    rfl
  rw [asked, asked, same]

private theorem Task.perform_startNode? (task : Task) (x : Runner × Channel) :
    (task.perform x).2.1.startNode? = x.1.startNode? := by
  obtain ⟨r, ch⟩ := x
  apply startNode?_congr
  rcases task.perform_alike r ch with rfl | alike
  · obtain ⟨journal, -, -, made, -⟩ := r.setUp_parts ch
    have bare := congrArg (List.map fun n : Node => (n.id, n.isStart))
      (subscribeNodes_bare r.id [] { (r.takeDown ch).2 with journal } (r.takeDown ch).1.storyboard.nodes)
    rw [← made, List.map_map, List.map_map] at bare
    refine bare.trans ?_
    simp [takeDown, mapNodes, Node.mapConditions, Node.bare, Function.comp_def]
  · have bare := congrArg (List.map fun n : Node => (n.id, n.isStart)) alike.nodes
    rwa [List.map_map, List.map_map] at bare

theorem work_startNode? (tasks : List Task) (x : Runner × Channel) :
    (work tasks x).2.1.startNode? = x.1.startNode? := by
  induction tasks generalizing x with
  | nil => rfl
  | cons task tasks ih => exact (ih _).trans (task.perform_startNode? x)

/-! ### Waking a shadowed node -/

private theorem shadowed_after_setUp (r : Runner) (ch : Channel) {n : Node} (member : n ∈ r.storyboard.shadowed) :
    n.mapConditions (fun c => { c with subscription := none }) ∈ (r.setUp ch).2.1.storyboard.shadowed := by
  rw [shadowed_setUp]
  exact List.mem_map_of_mem member

private theorem awaits_after_setUp (r : Runner) (ch : Channel) {node : NodeId} {c : Condition}
    (awaits : r.storyboard.Awaits node c) :
    (r.setUp ch).2.1.storyboard.Awaits node { c with subscription := none } :=
  awaits.congr (fun node => (r.setUp_sameNodes ch node).symm) rfl

private theorem work_concat (tasks : List Task) (task : Task) (x : Runner × Channel) :
    (work (tasks ++ [task]) x).1 = (work tasks x).1 ++ [(task.perform (work tasks x).2).1] := by
  induction tasks generalizing x with
  | nil => rfl
  | cons first tasks ih => exact congrArg (List.cons _) (ih _)

/-- If a game is restored differently after some tasks, then these and the restoring tell the two runners apart. -/
private theorem work_ne_of_restart (tasks : List Task) {x y : Runner × Channel} (trims : Trims x y)
    (entry : SnapshotEntry) (differ : ∀ j j',
      ((work tasks x).2.1.pruned.restore entry .keep none j').1 ≠ ((work tasks x).2.1.restore entry .keep none j).1) :
    (work (tasks ++ [.restore entry .keep none]) y).1 ≠ (work (tasks ++ [.restore entry .keep none]) x).1 := by
  obtain ⟨⟨runner, -⟩, -⟩ := work_trims tasks trims
  rw [work_concat, work_concat]
  intro same
  have last := List.singleton_inj.mp (List.append_inj_right' same rfl)
  have answers : ((work tasks y).2.1.restore entry .keep none (work tasks y).2.2.journal).1 =
      ((work tasks x).2.1.restore entry .keep none (work tasks x).2.2.journal).1 := Answer.restart.inj last
  rw [runner] at answers
  exact differ _ _ answers

/-- Some tasks tell a runner with a shadowed node that can wake from the one without. -/
private theorem work_ne_of_wakes {r : Runner} {a : Channel} {y : Runner × Channel} (trims : Trims (r, a) y) {n : Node}
    (member : n ∈ r.storyboard.shadowed) (wakes : r.storyboard.Wakes n) :
    ∃ tasks, (work tasks y).1 ≠ (work tasks (r, a)).1 := by
  have fresh : (r.setUp a).2.1.Fresh := (setUp_made rfl).2.2.1
  have shadowed := shadowed_after_setUp r a member
  have called : calls (n.mapConditions fun c => { c with subscription := none }) = calls n := by
    unfold calls Node.mapConditions
    rw [List.filterMap_map]
    rfl
  cases wakes with
  | anew nonempty all =>
      let first : SnapshotEntry := ⟨r.id, r.storyboard.name, [⟨n.id, .completed⟩]⟩
      let second : SnapshotEntry := ⟨r.id, r.storyboard.name, [⟨n.id, .notStarted⟩] ++ calls n⟩
      refine ⟨_, work_ne_of_restart [.setUp, .restore first .keep none] trims second fun j j' => ?_⟩
      have alike := ((r.setUp a).2.1.restore_spec first .keep none (r.setUp a).2.2.journal).1.alike
      obtain ⟨m, among, sameId, calledM, nonempty', all'⟩ := alike.shadowed shadowed
        (fun none => nonempty (List.map_eq_nil_iff.mp none)) (by
          intro c' slot'
          obtain ⟨c, slot, rfl⟩ := List.mem_map.mp slot'
          exact awaits_after_setUp r a (all c slot))
      have known : (r.setUp a).2.1.contains n.id = true := by
        rw [fresh.listed, r.setUp_sameNodes, Storyboard.node?, List.find?_isSome]
        exact ⟨n, Node.mem_of_shadowed member, by simp⟩
      have complete : ((r.setUp a).2.1.restore first .keep none (r.setUp a).2.2.journal).2.1.statusOf? m.id =
          some .completed := by
        have isN : m.id = n.id := sameId
        rw [isN, statusOf?_restore, get?_taken, if_pos ⟨known, Option.some_ne_none _⟩]
        simp [recorded, first, restoredStatus]
      refine restart_anew (alike.listed fresh.listed) among complete nonempty' all' ?_ j j'
      rw [sameId, calledM, called]
      rfl
  | further once lacks all =>
      let entry : SnapshotEntry := ⟨r.id, r.storyboard.name, calls n⟩
      refine ⟨_, work_ne_of_restart [.setUp] trims entry fun j j' => ?_⟩
      obtain ⟨c, slot, unsatisfied⟩ := lacks
      refine restart_further fresh shadowed once ⟨_, List.mem_map_of_mem slot, unsatisfied⟩ ?_ called.symm j j'
      intro c' slot'
      obtain ⟨c, slot, rfl⟩ := List.mem_map.mp slot'
      exact (all c slot).imp_right (awaits_after_setUp r a)

/-! ### Main result -/

/-- Whatever a runner is asked, later definitions of a node count for nothing in its statuses, in what it publishes, and
in its answers but for what a restored game starts. They count for nothing there and for where the story begins exactly
if the story begins with none of them and no statuses can wake one. -/
theorem shadowed_ignored_iff (d : RunnerDefinition) :
    (∀ (tasks : List Task) (ch : Channel),
      let whole := work tasks (.ofDefinition d, ch)
      let trimmed := work tasks (.ofDefinition { d with storyboard := d.storyboard.firsts }, ch)
      trimmed.2.1.statuses = whole.2.1.statuses ∧ trimmed.2.2.journal.published = whole.2.2.journal.published ∧
        trimmed.2.2.bus.queue = whole.2.2.bus.queue ∧
          trimmed.1.map Answer.masked = whole.1.map Answer.masked) ∧
      ((∀ (tasks : List Task) (ch : Channel),
        let whole := work tasks (.ofDefinition d, ch)
        let trimmed := work tasks (.ofDefinition { d with storyboard := d.storyboard.firsts }, ch)
        trimmed.1 = whole.1 ∧ trimmed.2.1.startNode? = whole.2.1.startNode?) ↔ d.storyboard.Inert) := by
  have trims : ∀ ch : Channel,
      Trims (.ofDefinition d, ch) (.ofDefinition { d with storyboard := d.storyboard.firsts }, ch) :=
    fun ch => ⟨rfl, .refl ch⟩
  refine ⟨fun tasks ch => ?_, ⟨fun same => ⟨?_, ?_⟩, fun inert tasks ch => ⟨?_, ?_⟩⟩⟩
  · obtain ⟨⟨runner, channel⟩, answers⟩ := work_trims tasks (trims ch)
    exact ⟨(congrArg Runner.statuses runner :), channel.published, channel.queue, answers⟩
  · exact d.storyboard.startNode?_firsts.mp (same [] {}).2
  · intro n member wakes
    obtain ⟨tasks, differ⟩ := work_ne_of_wakes (trims {}) member wakes
    exact differ (same tasks {}).1
  · exact work_slumbers tasks (r := .ofDefinition d) (.refl ch) ⟨nofun, inert.asleep⟩
  · rw [work_startNode?, work_startNode?]
    exact d.storyboard.startNode?_firsts.mpr inert.begins

/-- A verger whose vespers are listed twice: as they are, and with the bell that calls for them. -/
def verger : RunnerDefinition :=
  { id := ⟨"verger"⟩
    storyboard :=
      { name := ⟨"chapel"⟩
        nodes :=
          [{ id := ⟨"vesper"⟩ },
            { id := ⟨"vesper"⟩
              isStart := true
              conditions := [{ kind := .previousNodeCompleted ⟨"bell"⟩ }] },
            { id := ⟨"bell"⟩ }] } }

/-- The second listing is heard: the story begins with it, and a game in which the bell has rung starts it. -/
theorem verger_shadowed_heard :
    let bell : SnapshotEntry := ⟨⟨"verger"⟩, ⟨"chapel"⟩, [⟨⟨"bell"⟩, .completed⟩]⟩
    let whole := work [.setUp, .restore bell .keep none] (.ofDefinition verger, {})
    let trimmed := work [.setUp, .restore bell .keep none]
      (.ofDefinition { verger with storyboard := verger.storyboard.firsts }, {})
    (whole.2.1.startNode? = some ⟨"vesper"⟩ ∧ trimmed.2.1.startNode? = none) ∧
      whole.1 = [.ready [], .restart [⟨"vesper"⟩]] ∧ trimmed.1 = [.ready [], .restart []] := by
  decide +kernel

end Plotline.Runner
