import Plotline.Proofs.Runner.Indexed
import Plotline.Proofs.Runner.Latch
import Plotline.Proofs.Runner.Task

/-!
What befalls a runner once it is set up, in any order and any number of times. A runner that keeps an index comes
through it as the runner does that searches, and its two tables index its nodes all the time.
-/

namespace Plotline.Runner

/-! ### Nodes that wait anew -/

/-- A node with this status that has not started, and of what it waits for nothing has come. -/
def Anew (status : Option NodeStatus) (node : Option Node) : Prop :=
  status = some .notStarted ∧ ∃ d, node = some d ∧ ∀ c ∈ d.conditions, c.satisfied = false

variable {r : Runner} {node : NodeId}

theorem anew_afterEnd {d : Node} (running : r.statusOf? node = some .inProgress) (found : r.node? node = some d)
    (again : d.isRepeatable = true) : Anew ((r.afterEnd node).statusOf? node) ((r.afterEnd node).node? node) := by
  have repeats : r.repeats node = true := by
    unfold Runner.repeats
    rw [found]
    exact again
  refine ⟨(statusOf?_afterEnd running).trans (by rw [if_pos repeats]), d.mapConditions (·.reset), ?_, ?_⟩
  · rw [node?_afterEnd_eq, if_pos ⟨rfl, running, repeats⟩, found, Option.map_some]
  · intro c slot
    obtain ⟨c', _, rfl⟩ := List.mem_map.mp slot
    rfl

/-- No other end changes anything about a node that waits anew, nor does its own: it is not in progress. -/
theorem Anew.afterEnd (anew : Anew (r.statusOf? node) (r.node? node)) (other : NodeId) :
    Anew ((r.afterEnd other).statusOf? node) ((r.afterEnd other).node? node) := by
  by_cases same : node = other
  · subst same
    rw [afterEnd_eq_self (by rw [anew.1]; nofun)]
    exact anew
  · rw [statusOf?_afterEnd_of_ne r same, node?_afterEnd_eq, if_neg fun all => same all.1]
    exact anew

private theorem Anew.completeAll (nodes : List NodeId) (anew : Anew (r.statusOf? node) (r.node? node)) (ch : Channel) :
    Anew ((r.completeAll nodes ch).1.statusOf? node) ((r.completeAll nodes ch).1.node? node) := by
  induction nodes generalizing r ch with
  | nil => exact anew
  | cons first nodes ih =>
      refine ih (r := (r.completeNode first ch).2.1) ?_ (r.completeNode first ch).2.2
      rw [completeNode_runner]
      exact anew.afterEnd first

/-- Of several nodes that are completed one after the other, each that can run again waits anew in the end. -/
theorem anew_completeAll {nodes : List NodeId} (member : node ∈ nodes) {d : Node}
    (running : r.statusOf? node = some .inProgress) (found : r.node? node = some d) (again : d.isRepeatable = true)
    (ch : Channel) : Anew ((r.completeAll nodes ch).1.statusOf? node) ((r.completeAll nodes ch).1.node? node) := by
  induction nodes generalizing r ch with
  | nil => cases member
  | cons first nodes ih =>
      by_cases here : node = first
      · subst here
        refine Anew.completeAll nodes (r := (r.completeNode node ch).2.1) ?_ (r.completeNode node ch).2.2
        rw [completeNode_runner]
        exact anew_afterEnd running found again
      · have later := (List.mem_cons.mp member).resolve_left here
        refine ih (r := (r.completeNode first ch).2.1) later ?_ ?_ (r.completeNode first ch).2.2
        · rw [completeNode_runner, statusOf?_afterEnd_of_ne r here, running]
        · rw [completeNode_runner, node?_afterEnd_eq, if_neg fun all => here all.1, found]

/-! ### Occasions -/

/-- A task, being taken down, or what others do to the channel in the meantime. -/
inductive Occasion
  | task (task : Task)
  | takeDown
  | meanwhile (ch : Channel)

def Occasion.meet : Occasion → Runner × Channel → Option Answer × Runner × Channel
  | .task asked, s =>
    let (answer, s) := asked.perform s
    (some answer, s)
  | .takeDown, (r, ch) => (none, r.takeDown ch)
  | .meanwhile ch, (r, _) => (none, r, ch)

/-- Meets the occasions in turn, and collects the answers. -/
def through {σ : Type} (meet : Occasion → σ → Option Answer × σ) : List Occasion → σ → List (Option Answer) × σ
  | [], s => ([], s)
  | occasion :: occasions, s =>
    let (answer, s) := meet occasion s
    let (answers, s) := through meet occasions s
    (answer :: answers, s)

namespace Indexed

def perform : Task → Indexed × Channel → Answer × Indexed × Channel
  | .setUp, (x, ch) =>
    let (nodes, x, ch) := x.setUp ch
    (.ready nodes, x, ch)
  | .deliver key event, (x, ch) =>
    let (node, x, journal) := x.deliver key event ch.journal
    (.woken node, x, { ch with journal })
  | .begin node, (x, ch) =>
    let (program, x, ch) := x.beginNode node ch
    (.program program, x, ch)
  | .complete node, (x, ch) =>
    let (done, x, ch) := x.completeNode node ch
    (.meant done, x, ch)
  | .jump board keep, (x, ch) =>
    let (mine, x, ch) := x.receiveJump board keep ch
    (.meant mine, x, ch)
  | .restore entry policy active, (x, ch) =>
    let (nodes, x, journal) := x.restore entry policy active ch.journal
    (.restart nodes, x, { ch with journal })

def meet : Occasion → Indexed × Channel → Option Answer × Indexed × Channel
  | .task asked, s =>
    let (answer, s) := perform asked s
    (some answer, s)
  | .takeDown, (x, ch) => (none, x.takeDown ch)
  | .meanwhile ch, (x, _) => (none, x, ch)

variable {x : Indexed}

/-- The tables need not be sound for a task that makes them anew. -/
theorem perform_follows (task : Task) (ch : Channel) (sound : task ≠ .setUp → x.Sound) :
    Follows x (perform task (x, ch)) (task.perform (x.runner, ch)) := by
  cases task with
  | setUp =>
      obtain ⟨ready, runner, channel, sound, ids⟩ := x.setUp_follows ch
      exact ⟨congrArg Answer.ready ready, runner, channel, sound, ids⟩
  | deliver key event =>
      refine .of_steady (sound nofun) (x.runner.deliver_steady key event ch.journal) ?_
      rw [perform, (sound nofun).deliver]
      rfl
  | begin node =>
      refine .of_steady (sound nofun) (x.runner.beginNode_steady node ch) ?_
      rw [perform, (sound nofun).beginNode]
      rfl
  | complete node =>
      refine .of_steady (sound nofun) (x.runner.completeNode_steady node ch) ?_
      rw [perform, (sound nofun).completeNode]
      rfl
  | jump board keep =>
      refine .of_steady (sound nofun) (x.runner.receiveJump_steady board keep ch) ?_
      rw [perform, (sound nofun).receiveJump]
      rfl
  | restore entry policy active =>
      refine .of_steady (sound nofun) (x.runner.restore_steady entry policy active ch.journal) ?_
      rw [perform, (sound nofun).restore]
      rfl

theorem meet_follows (occasion : Occasion) (ch : Channel) (sound : occasion ≠ .task .setUp → x.Sound) :
    Follows x (meet occasion (x, ch)) (occasion.meet (x.runner, ch)) := by
  cases occasion with
  | task task =>
      obtain ⟨answer, runner, channel, soundThen, ids⟩ :=
        perform_follows task ch fun other => sound fun same => other (Occasion.task.inj same)
      exact ⟨congrArg some answer, runner, channel, soundThen, ids⟩
  | takeDown => exact .of_steady (sound nofun) (x.runner.takeDown_steady ch) rfl
  | meanwhile ch' => exact .of_steady (sound nofun) (.refl x.runner) rfl

private theorem through_cons_follows {occasion : Occasion} {occasions : List Occasion} {ch : Channel}
    (first : Follows x (meet occasion (x, ch)) (occasion.meet (x.runner, ch)))
    (rest : ∀ (y : Indexed) (ch' : Channel), y.Sound →
      Follows y (through meet occasions (y, ch')) (through Occasion.meet occasions (y.runner, ch'))) :
    Follows x (through meet (occasion :: occasions) (x, ch))
      (through Occasion.meet (occasion :: occasions) (x.runner, ch)) := by
  unfold through
  revert first
  generalize meet occasion (x, ch) = made
  generalize occasion.meet (x.runner, ch) = plain
  obtain ⟨answer, y, ch'⟩ := made
  obtain ⟨answer', r, ch''⟩ := plain
  rintro ⟨rfl, rfl, rfl, sound, ids⟩
  obtain ⟨answers, runner, channel, soundThen, idsThen⟩ := rest y ch' sound
  exact ⟨congrArg (answer :: ·) answers, runner, channel, soundThen, idsThen.trans ids⟩

theorem through_follows (occasions : List Occasion) (ch : Channel) (sound : x.Sound) :
    Follows x (through meet occasions (x, ch)) (through Occasion.meet occasions (x.runner, ch)) := by
  induction occasions generalizing x ch with
  | nil => exact .of_steady sound (.refl x.runner) rfl
  | cons occasion occasions ih =>
      exact through_cons_follows (meet_follows occasion ch fun _ => sound) fun y ch' soundThen => ih ch' soundThen

theorem completes_iff (x : Indexed) (node : NodeId) (ch : Channel) :
    (x.completeNode node ch).1 = true ↔ x.statusOf? node = some .inProgress := by
  unfold completeNode
  split
  · exact iff_of_true rfl ‹_›
  · exact iff_of_false Bool.false_ne_true ‹_›

namespace Sound

variable {node : NodeId} {d : Node}

private theorem anew_along {α β : Type} (sound : x.Sound) {made : α × Indexed × β} {plain : α × Runner × β}
    (steady : Steady x.runner plain.2.1) (same : made = x.along plain)
    (anew : Anew (plain.2.1.statusOf? node) (plain.2.1.node? node)) :
    Anew (made.2.1.statusOf? node) (made.2.1.node? node) := by
  have kept : made.2.1 = { x with runner := plain.2.1 } := by
    rw [same]
    rfl
  rw [kept, (sound.steady steady).node?]
  exact anew

theorem anew_completeNode (sound : x.Sound) {ch : Channel} (completes : (x.completeNode node ch).1 = true)
    (found : x.node? node = some d) (again : d.isRepeatable = true) :
    Anew ((x.completeNode node ch).2.1.statusOf? node) ((x.completeNode node ch).2.1.node? node) := by
  have running : x.runner.statusOf? node = some .inProgress := (x.completes_iff node ch).mp completes
  refine sound.anew_along (x.runner.completeNode_steady node ch) (sound.completeNode node ch) ?_
  rw [completeNode_runner]
  exact anew_afterEnd running ((sound.node? node).symm.trans found) again

theorem mem_inProgress (sound : x.Sound) (running : x.statusOf? node = some .inProgress) :
    node ∈ x.runner.inProgress := by
  have listed : node ∈ x.runner.statuses.map (·.1) :=
    (lookup_isSome_iff_mem _ node).mp (Option.isSome_iff_exists.mpr ⟨_, running⟩)
  obtain ⟨n, member, rfl⟩ := List.mem_map.mp ((sound.mem_statuses node).mp listed)
  exact List.mem_map_of_mem (List.mem_filter.mpr ⟨member, decide_eq_true running⟩)

theorem anew_receiveJump (sound : x.Sound) {board : StoryboardName} {keep : Option NodeId} {ch : Channel}
    (meant : (x.receiveJump board keep ch).1 = true) (running : x.statusOf? node = some .inProgress)
    (other : some node ≠ keep) (found : x.node? node = some d) (again : d.isRepeatable = true) :
    Anew ((x.receiveJump board keep ch).2.1.statusOf? node) ((x.receiveJump board keep ch).2.1.node? node) := by
  have here : board = x.runner.storyboard.name := by
    by_contra elsewhere
    unfold Indexed.receiveJump at meant
    rw [if_neg elsewhere] at meant
    cases meant
  have ended : node ∈ x.runner.inProgress.filter fun node => some node ≠ keep :=
    List.mem_filter.mpr ⟨sound.mem_inProgress running, decide_eq_true other⟩
  refine sound.anew_along (x.runner.receiveJump_steady board keep ch) (sound.receiveJump board keep ch) ?_
  unfold Runner.receiveJump
  rw [if_pos here]
  exact anew_completeAll ended running ((sound.node? node).symm.trans found) again ch

end Sound

/-! ### Main result -/

/-- Whatever befalls a runner once it is set up, and whatever it was before: keeping an index it does what it does by
searching. Its two tables have exactly the ids of its nodes, each once, and an id has the place of the first node with
it, so that it has a status if it has a place, and there is a node if there is either. A node that can run again waits
anew as soon as it is completed, by itself or for a jump. -/
theorem tables_wellFormed (x : Indexed) (ch : Channel) (occasions : List Occasion) :
    let ids := x.runner.storyboard.nodes.map (·.id)
    let plain := through Occasion.meet (.task .setUp :: occasions) (x.runner, ch)
    let kept := through meet (.task .setUp :: occasions) (x, ch)
    let y := kept.2.1
    (kept.1 = plain.1 ∧ y.runner = plain.2.1 ∧ kept.2.2 = plain.2.2) ∧
      y.runner.storyboard.nodes.map (·.id) = ids ∧
      ((y.runner.statuses.map (·.1)).Nodup ∧ ∀ node, node ∈ y.runner.statuses.map (·.1) ↔ node ∈ ids) ∧
      ((y.places.map (·.1)).Nodup ∧ ∀ node, node ∈ y.places.map (·.1) ↔ node ∈ ids) ∧
      (∀ node, y.places.lookup node = ids.findIdx? (· = node)) ∧
      (∀ node, y.contains node = decide (node ∈ ids) ∧ (y.statusOf? node).isSome = y.contains node ∧
        (y.node? node).isSome = y.contains node ∧ y.node? node = y.runner.storyboard.node? node) ∧
      (∀ node, y.contains node = y.runner.contains node ∧ y.node? node = y.runner.node? node) ∧
      (∀ node ch', (y.completeNode node ch').1 = true ↔ y.statusOf? node = some .inProgress) ∧
      (∀ node d ch', (y.completeNode node ch').1 = true → y.node? node = some d → d.isRepeatable = true →
        let z := (y.completeNode node ch').2.1
        Anew (z.statusOf? node) (z.node? node)) ∧
      ∀ board keep node d ch', (y.receiveJump board keep ch').1 = true → y.statusOf? node = some .inProgress →
        some node ≠ keep → y.node? node = some d → d.isRepeatable = true →
        let z := (y.receiveJump board keep ch').2.1
        Anew (z.statusOf? node) (z.node? node) := by
  intro ids plain kept y
  obtain ⟨answers, runner, channel, sound, same⟩ : Follows x kept plain :=
    through_cons_follows (meet_follows (.task .setUp) ch fun other => absurd rfl other) fun z ch' soundThen =>
      through_follows occasions ch' soundThen
  have sound : y.Sound := sound
  have same : y.runner.storyboard.nodes.map (·.id) = ids := same
  have statuses := sound.keys.symm ▸ sound.distinct
  refine ⟨⟨answers, runner, channel⟩, same, ?_⟩
  -- from here on it only counts that the tables are sound, not how they came about
  clear_value y ids
  subst same
  refine ⟨⟨statuses, sound.mem_statuses⟩, ⟨sound.distinct, sound.mem_places⟩, sound.first_id, ?_,
    fun node => ⟨sound.contains node, sound.node? node⟩, y.completes_iff,
    fun node d ch' completes found again => sound.anew_completeNode completes found again,
    fun board keep node d ch' meant running other found again => sound.anew_receiveJump meant running other found again⟩
  intro node
  have known : y.contains node = true ↔ node ∈ y.runner.storyboard.nodes.map (·.id) :=
    (lookup_isSome_iff_mem y.places node).trans (sound.mem_places node)
  refine ⟨?_, sound.known node, ?_, sound.found node⟩
  · rw [Bool.eq_iff_iff, known, decide_eq_true_eq]
  · rw [show y.node? node = _ from sound.found node, Bool.eq_iff_iff, known, List.find?_isSome, List.mem_map]
    simp only [decide_eq_true_eq]

private def lamps : NodeId := ⟨"lamps"⟩

/-- The lamps when dusk has come and the wicks are trimmed. -/
private def lampsDue : Node :=
  { id := lamps
    isRepeatable := true
    conditions := [{ kind := .areaEntered "dusk", satisfied := true },
      { kind := .interactionTriggered "wicks", satisfied := true }] }

/-- A lamplighter whose lamps are listed twice, with tables that are wrong about everything. -/
private def lamplighter : Indexed :=
  { runner :=
      { id := ⟨"lamplighter"⟩
        priority := 0
        storyboard := { name := ⟨"quay"⟩, nodes := [lampsDue, { id := ⟨"oil"⟩ }, { id := lamps }] }
        statuses := [(⟨"moon"⟩, .completed), (⟨"moon"⟩, .inProgress)] }
    places := [(⟨"moon"⟩, 7), (lamps, 2)] }

/-- The lamps are lit after a game was loaded that tells of a moon as well, and then the lamplighter is taken down. -/
private def nightfall : List Occasion :=
  [.task (.deliver ⟨⟨"lamplighter"⟩, lamps, 0⟩ (.areaEntered "dusk")),
    .task (.deliver ⟨⟨"lamplighter"⟩, lamps, 1⟩ (.interactionTriggered "wicks")),
    .meanwhile {},
    .task (.restore ⟨⟨"lamplighter"⟩, ⟨"quay"⟩, [⟨⟨"moon"⟩, .inProgress⟩, ⟨⟨"oil"⟩, .completed⟩]⟩ .keep none),
    .task (.begin lamps),
    .takeDown]

private def atNight : Indexed := (through meet (.task .setUp :: nightfall) (lamplighter, {})).2.1

/-- The moon is not among the nodes, the lamps are those listed first, and once they are completed they wait anew. -/
theorem lamplighter_wellFormed :
    atNight.contains ⟨"moon"⟩ = false ∧ atNight.places.lookup lamps = some 0 ∧
      (atNight.statusOf? lamps = some .inProgress ∧ atNight.node? lamps = some lampsDue) ∧
      ((atNight.completeNode lamps {}).1 = true ∧
        Anew ((atNight.completeNode lamps {}).2.1.statusOf? lamps)
          ((atNight.completeNode lamps {}).2.1.node? lamps)) ∧
      (atNight.receiveJump ⟨"quay"⟩ none {}).1 = true ∧
      Anew ((atNight.receiveJump ⟨"quay"⟩ none {}).2.1.statusOf? lamps)
        ((atNight.receiveJump ⟨"quay"⟩ none {}).2.1.node? lamps) := by
  obtain ⟨-, -, -, -, first, known, -, completes, completed, jumped⟩ := tables_wellFormed lamplighter {} nightfall
  have running : atNight.statusOf? lamps = some .inProgress := by decide +kernel
  have found : atNight.node? lamps = some lampsDue := by decide +kernel
  have ends : (atNight.completeNode lamps {}).1 = true := (completes lamps {}).mpr running
  have meant : (atNight.receiveJump ⟨"quay"⟩ none {}).1 = true := by decide +kernel
  exact ⟨(known ⟨"moon"⟩).1, first lamps, ⟨running, found⟩, ⟨ends, completed lamps _ {} ends found rfl⟩, meant,
    jumped ⟨"quay"⟩ none lamps _ {} meant running nofun found rfl⟩

end Indexed

end Plotline.Runner
