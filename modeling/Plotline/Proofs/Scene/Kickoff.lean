import Plotline.Proofs.Scene.Overture
import Plotline.Proofs.Scene.Perform

/-!
The beginning of the story in a scene whose runners have just been registered. It is the same in whatever order they
came, and it takes place once.
-/

namespace Plotline

/-- The openings of a story, in the order in which they are called for. -/
structure Overture (footing : Int) (definitions : List RunnerDefinition) (openings : List StoryOpening) : Prop where
  ordered : openings.Pairwise fun x y => x.runner.before y.runner = true
  chosen : ∀ x, x ∈ openings ↔ ∃ d ∈ definitions,
    d.billing.Opens footing (definitions.map (·.billing)) ∧ d.opening? = some x

namespace RunnerDefinition

variable {d : RunnerDefinition} {x : StoryOpening}

/-- The opening of a runner is its start node. -/
theorem opening?_target (d : RunnerDefinition) :
    d.opening?.map StoryOpening.target = d.billing.start.map fun node => (d.id, node) := by
  have start : d.billing.start = d.storyboard.startNode?.map (·.id) := rfl
  unfold opening?
  rw [start]
  cases found : d.storyboard.startNode? with
  | none => rfl
  | some n =>
      have known : (d.storyboard.node? n.id).isSome = true :=
        List.find?_isSome.mpr ⟨n, List.mem_of_find?_eq_some found, by simp⟩
      obtain ⟨first, is⟩ := Option.isSome_iff_exists.mp known
      have named : first.id = n.id := by simpa using List.find?_some is
      simp [is, StoryOpening.target, named]

theorem opening?_eq_some (opening : d.opening? = some x) :
    ∃ n, d.storyboard.node? x.node = some n ∧
      x = ⟨d.id, d.storyboard.name, n.id, n.program, n.isRepeatable⟩ := by
  unfold opening? at opening
  obtain ⟨n, found, rfl⟩ := Option.map_eq_some_iff.mp opening
  obtain ⟨first, -, known⟩ := Option.bind_eq_some_iff.mp found
  have named : n.id = first.id := by simpa using List.find?_some known
  exact ⟨n, named ▸ known, rfl⟩

/-- In an outlook that knows the runner as a new one its opening is ready. -/
theorem ready_of_opening {o : Outlook} (knows : o.Knows (.ofDefinition d)) (opening : d.opening? = some x) :
    x.Ready o := by
  obtain ⟨n, known, made⟩ := opening?_eq_some opening
  have status := knows.status x.node
  have program := knows.program x.node
  have repeats := knows.repeats x.node
  have known' : (Runner.ofDefinition d).storyboard.node? x.node = some n := known
  have runner : x.runner = (Runner.ofDefinition d).id := by rw [made]; rfl
  rw [known'] at status program repeats
  refine ⟨?_, ?_, ?_, ?_⟩
  · rw [runner]
    exact status
  · rw [runner, program, made]
    rfl
  · rw [runner, knows.board, made]
    rfl
  · rw [runner, repeats, made]
    rfl

end RunnerDefinition

namespace Overture

variable {footing : Int} {definitions order : List RunnerDefinition} {openings : List StoryOpening}

private theorem not_before_trans {a b c : RunnerId} (first : b.before a = false) (last : c.before b = false) :
    c.before a = false := by
  by_contra before
  have before : c.before a = true := by simpa using before
  by_cases same : a = b
  · subst same
    rw [before] at last
    cases last
  · have behind := RunnerId.before_trans before (RunnerId.before_of_ne (Ne.symm same) first)
    rw [behind] at last
    cases last

theorem exists_overture (footing : Int) (distinct : (definitions.map (·.id)).Nodup) :
    ∃ openings, Overture footing definitions openings := by
  classical
  let sorted := definitions.mergeSort fun d e => !e.id.before d.id
  have same : sorted.Perm definitions := List.mergeSort_perm _ _
  have lined : sorted.Pairwise fun d e => d.id.before e.id = true := by
    have weakly : sorted.Pairwise fun d e => (!e.id.before d.id) = true := by
      refine List.pairwise_mergeSort ?_ ?_ definitions
      · intro d e f first last
        simp only [Bool.not_eq_true'] at *
        exact not_before_trans first last
      · intro d e
        cases before : e.id.before d.id with
        | false => rfl
        | true => rw [RunnerId.before_asymm before]; rfl
    have apart : sorted.Pairwise fun d e => d.id ≠ e.id := List.pairwise_map.mp ((same.map _).nodup_iff.mpr distinct)
    refine (weakly.and apart).imp ?_
    rintro d e ⟨behind, different⟩
    exact RunnerId.before_of_ne different.symm (by simpa using behind)
  refine ⟨(sorted.filter fun d => d.billing.Opens footing (definitions.map (·.billing))).filterMap
    (·.opening?), ?_, ?_⟩
  · refine List.Pairwise.filterMap _ ?_ (lined.filter _)
    intro d e before x opening y opening'
    obtain ⟨n, -, rfl⟩ := RunnerDefinition.opening?_eq_some opening
    obtain ⟨m, -, rfl⟩ := RunnerDefinition.opening?_eq_some opening'
    exact before
  · intro x
    simp only [List.mem_filterMap, List.mem_filter, decide_eq_true_eq, same.mem_iff, and_assoc]

private theorem eq_of_lined {targets others : List (RunnerId × NodeId)}
    (lined : targets.Pairwise fun x y => x.1.before y.1 = true) (lined' : others.Pairwise fun x y => x.1.before y.1 = true)
    (same : ∀ t, t ∈ targets ↔ t ∈ others) : targets = others := by
  have apart : ∀ {x y : RunnerId × NodeId}, x.1.before y.1 = true → x ≠ y := by
    rintro x y before rfl
    rw [RunnerId.before_irrefl] at before
    cases before
  have perm : targets.Perm others := (List.perm_ext_iff_of_nodup (lined.imp apart) (lined'.imp apart)).mpr same
  refine perm.eq_of_pairwise ?_ lined lined'
  intro x y _ _ before behind
  rw [RunnerId.before_asymm before] at behind
  cases behind

/-- Those that open the story in a scene are those of the overture, as long as the scene has all runners and no others. -/
theorem startNodes_eq (overture : Overture footing definitions openings) {s : Scene} (lined : Scene.Lined s.runners)
    (billed : (s.runners.map Runner.billing).Perm (definitions.map (·.billing)))
    (equal : s.settings.equalFootingPriority = footing) : s.startNodes = openings.map StoryOpening.target := by
  refine eq_of_lined ?_ (List.pairwise_map.mpr overture.ordered) ?_
  · refine List.Pairwise.filterMap _ ?_ (lined.sublist s.openers_sublist)
    intro x y before t first t' last
    obtain ⟨node, -, rfl⟩ := Option.map_eq_some_iff.mp first
    obtain ⟨node', -, rfl⟩ := Option.map_eq_some_iff.mp last
    exact before
  · intro t
    constructor
    · intro member
      obtain ⟨r, opener, start⟩ := List.mem_filterMap.mp member
      obtain ⟨among, opens⟩ := (Scene.mem_openers lined).mp opener
      obtain ⟨d, defined, same⟩ := List.mem_map.mp (billed.mem_iff.mp (List.mem_map_of_mem among))
      have start : d.billing.start.map (fun node => (d.billing.id, node)) = some t := by
        rw [same]
        exact start
      obtain ⟨x, opening, rfl⟩ := Option.map_eq_some_iff.mp ((d.opening?_target).trans start)
      refine List.mem_map_of_mem ((overture.chosen x).mpr ⟨d, defined, ?_, opening⟩)
      rw [same, ← equal]
      exact opens.of_perm billed
    · intro member
      obtain ⟨x, among, rfl⟩ := List.mem_map.mp member
      obtain ⟨d, defined, opens, opening⟩ := (overture.chosen x).mp among
      have there : d.billing ∈ s.runners.map Runner.billing := billed.mem_iff.mpr (List.mem_map.mpr ⟨d, defined, rfl⟩)
      obtain ⟨r, among, same⟩ := List.mem_map.mp there
      have start : r.billing.start.map (fun node => (r.billing.id, node)) = some x.target := by
        rw [same]
        refine (d.opening?_target).symm.trans ?_
        rw [opening]
        rfl
      refine List.mem_filterMap.mpr ⟨r, (Scene.mem_openers lined).mpr ⟨among, ?_⟩, start⟩
      rw [same, equal]
      exact opens.of_perm billed.symm

theorem runner_of_mem (overture : Overture footing definitions openings) {x : StoryOpening} (member : x ∈ openings) :
    ∃ d ∈ definitions, x.runner = d.id := by
  obtain ⟨d, defined, -, opening⟩ := (overture.chosen x).mp member
  obtain ⟨n, -, rfl⟩ := RunnerDefinition.opening?_eq_some opening
  exact ⟨d, defined, rfl⟩

end Overture

namespace Scene

variable {s s' : Scene} {openings : List StoryOpening} {definitions : List RunnerDefinition}

/-! ### Once only -/

/-- A story that has begun does not begin again. -/
theorem Step.kickstarted_stays {op : Operation} {returning past : Prop} {t t' : Turn}
    (step : Step op returning past t t') (begun : t.scene.kickstarted = true) : t'.scene.kickstarted = true := by
  cases step with
  | kickstarted => rfl
  | _ => exact begun

theorem Turns.kickstarted_stays {op : Operation} {returning past : Prop} {t t' : Turn}
    (turns : Turns op returning past t t') (begun : t.scene.kickstarted = true) : t'.scene.kickstarted = true := by
  induction turns with
  | refl => exact begun
  | tail _ last ih => exact last.kickstarted_stays ih

theorem run_kickstarted (ops : List Operation) (coherent : s.Coherent) (begun : s.kickstarted = true) :
    (run ops s).kickstarted = true := by
  induction ops generalizing s with
  | nil => exact begun
  | cons op ops ih =>
      have steps : Steps op True True ⟨s, [], false⟩ ⟨op.perform s, [], false⟩ :=
        perform_steps op coherent (fun _ => trivial) (fun _ => trivial)
      exact ih (Turns.coherent steps coherent) (Turns.kickstarted_stays steps begun)

theorem Asks.steps {targets : List (RunnerId × NodeId)} (asks : Asks targets s s') (coherent : s.Coherent) :
    Steps .kickstart False False ⟨s, [], false⟩ ⟨s', [], false⟩ := by
  induction asks with
  | done s => exact .refl
  | @remarks targets s s' n plain rest ih =>
      have noted : Steps .kickstart False False ⟨s, [], false⟩ ⟨s.note n, [], false⟩ := note_steps plain
      exact noted.trans (ih (Turns.coherent noted coherent))
  | @asks targets s s' runner node rest ih =>
      have tried : Steps .kickstart False False ⟨s, [], false⟩ ⟨s.tryStart runner node, [], false⟩ :=
        tryStart_steps coherent runner node False.elim
      exact tried.trans (ih (Turns.coherent tried coherent))

/-! ### The scene after the beginning -/

/-- What is to be seen of a scene in which the story has just begun with these openings. -/
structure Kickoff (definitions : List RunnerDefinition) (openings : List StoryOpening) (s : Scene) : Prop where
  active : s.active = (StoryOpening.held openings).head?.map StoryOpening.target
  program : s.interpreter.program = (StoryOpening.held openings).head?.map StoryOpening.program
  pending : s.pending = numbered 0 ((StoryOpening.held openings).tail.map StoryOpening.target)
  nextSequence : s.nextSequence = (StoryOpening.held openings).tail.length
  queue : s.channel.bus.queue = StoryOpening.news openings
  status : ∀ d ∈ definitions, ∀ node, s.statusOf? d.id node =
    if s.active = some (d.id, node) then some .inProgress
    else if ∃ x ∈ StoryOpening.passed openings, x.target = (d.id, node) ∧ x.repeatable = false then some .completed
    else (d.storyboard.node? node).map fun _ => .notStarted
  others : ∀ runner, (∀ d ∈ definitions, runner ≠ d.id) → ∀ node, s.statusOf? runner node = none

/-- Where the openings have opened the story in a scene of new runners, it has begun as their definitions say. -/
private theorem Opened.kickoff (opened : Opened openings s s') {footing : Int}
    (overture : Overture footing definitions openings) (sequence : s.nextSequence = 0)
    (queue : s.channel.bus.queue = [])
    (status : ∀ d ∈ definitions, ∀ node, s.statusOf? d.id node = (d.storyboard.node? node).map fun _ => .notStarted)
    (others : ∀ runner, (∀ d ∈ definitions, runner ≠ d.id) → ∀ node, s.statusOf? runner node = none) :
    Kickoff definitions openings s' where
  active := opened.active
  program := opened.program
  pending := by rw [opened.pending, sequence]
  nextSequence := by rw [opened.nextSequence, sequence, Nat.zero_add]
  queue := by rw [opened.queue, queue, List.nil_append]
  status d member node := by rw [opened.status, status d member node]
  others runner none node := by
    have foreign : ∀ x ∈ openings, x.target ≠ (runner, node) := by
      intro x member same
      obtain ⟨d, defined, named⟩ := overture.runner_of_mem member
      exact none d defined ((Prod.mk.inj same).1.symm.trans named)
    have inactive : s'.active ≠ some (runner, node) := by
      rw [opened.active]
      intro same
      obtain ⟨x, first, target⟩ := Option.map_eq_some_iff.mp same
      exact foreign x ((List.dropWhile_sublist _).subset (List.mem_of_mem_head? first)) target
    have unpassed : ¬ ∃ x ∈ StoryOpening.passed openings, x.target = (runner, node) ∧ x.repeatable = false := by
      rintro ⟨x, member, target, -⟩
      exact foreign x ((List.takeWhile_sublist _).subset member) target
    rw [opened.status, if_neg inactive, if_neg unpassed, others runner none node]

/-- All the runners have been registered, and nothing else has happened. -/
structure Enrolled (definitions : List RunnerDefinition) (s : Scene) : Prop where
  coherent : s.Coherent
  bare : s.Bare
  nextSequence : s.nextSequence = 0
  queue : s.channel.bus.queue = []
  kickstarted : s.kickstarted = false
  lined : Lined s.runners
  billed : (s.runners.map Runner.billing).Perm (definitions.map (·.billing))
  knows : ∀ d ∈ definitions, s.outlook.Knows (.ofDefinition d)
  others : ∀ runner, (∀ d ∈ definitions, runner ≠ d.id) → ∀ node, s.statusOf? runner node = none

theorem Enrolled.of_perm {order : List RunnerDefinition} (enrolled : Enrolled order s) (same : order.Perm definitions) :
    Enrolled definitions s :=
  { enrolled with
    billed := enrolled.billed.trans (same.map _)
    knows := fun d member => enrolled.knows d (same.mem_iff.mpr member)
    others := fun runner none => enrolled.others runner fun d member => none d (same.mem_iff.mp member) }

theorem registerAll_enrolled (definitions : List RunnerDefinition) (distinct : (definitions.map (·.id)).Nodup)
    (settings : Settings) (stage : Stage) :
    ∃ s, registerAll definitions (empty settings stage) = (.ok (), s) ∧ s.settings = settings.scheduling ∧
      Enrolled definitions s := by
  have distinctRunners : ((definitions.map Runner.ofDefinition).map (·.id)).Nodup := by
    rw [List.map_map]
    exact distinct
  have fresh : ∀ x ∈ definitions.map Runner.ofDefinition, (empty settings stage).runner? x.id = none := fun _ _ => rfl
  have registered := registerAll_fresh definitions (empty settings stage) distinct fun _ _ => rfl
  have coherent := (reached_run ((definitions.map Runner.ofDefinition).map .register) settings stage).coherent
  have outlook := run_register_outlook _ (empty settings stage) distinctRunners fresh
  obtain ⟨lined, billed⟩ := run_register_billed _ (empty settings stage) distinctRunners fresh .nil
  obtain ⟨runners, ch, made, queue⟩ := run_register_rest _ (empty settings stage) distinctRunners fresh
  rw [made] at registered coherent outlook lined billed
  have announced : (definitions.map Runner.ofDefinition).map Runner.billing ++
      (empty settings stage).runners.map Runner.billing = definitions.map (·.billing) := by
    rw [List.map_map]
    exact List.append_nil _
  refine ⟨_, registered, rfl, coherent, ⟨rfl, rfl, rfl⟩, rfl, queue, rfl, lined, announced ▸ billed, ?_, ?_⟩
  · intro d member
    rw [outlook]
    exact Outlook.knows_of_mem _ distinctRunners (List.mem_map_of_mem member)
  · intro runner none node
    have unknown : ∀ x ∈ definitions.map Runner.ofDefinition, runner ≠ x.id := by
      intro x member
      obtain ⟨d, defined, rfl⟩ := List.mem_map.mp member
      exact none d defined
    have status := Outlook.statusOf_joined_all _ (empty settings stage).outlook unknown
    rw [← outlook] at status
    exact congrFun status node

/-- Whoever opens the story, the scene has begun with it as the definitions say. -/
theorem Enrolled.kickoff (enrolled : Enrolled definitions s)
    (overture : Overture s.settings.equalFootingPriority definitions openings) :
    Asks (openings.map StoryOpening.target) { s with kickstarted := true } s.kickstart ∧
      Kickoff definitions openings s.kickstart := by
  have asks := kickstart_asks enrolled.kickstarted
  rw [overture.startNodes_eq enrolled.lined enrolled.billed rfl] at asks
  have coherent : Coherent { s with kickstarted := true } :=
    enrolled.coherent.of_same enrolled.coherent.attached enrolled.coherent.emitted rfl rfl rfl
  have bare : Bare { s with kickstarted := true } := { enrolled.bare with }
  have ready : ∀ x ∈ openings, x.Ready (Scene.outlook { s with kickstarted := true }) := by
    intro x member
    obtain ⟨d, defined, -, opening⟩ := (overture.chosen x).mp member
    exact RunnerDefinition.ready_of_opening (enrolled.knows d defined) opening
  have distinct : (openings.map StoryOpening.runner).Nodup := by
    refine List.pairwise_map.mpr (overture.ordered.imp ?_)
    intro x y before same
    rw [same, RunnerId.before_irrefl] at before
    cases before
  have opened := asks.opened openings rfl coherent bare ready distinct
  exact ⟨asks, opened.kickoff overture enrolled.nextSequence enrolled.queue
    (fun d member node => (enrolled.knows d member).status node) enrolled.others⟩

/-- How the story begins follows from the ids, the priorities and the start nodes of its runners, in whatever order they
have been registered: the runners of the overture, and no others, are called upon in the order of their ids, and what
comes of it is the same. It begins once; whatever happens later, no tick begins it again. -/
theorem kickoff_independent_of_order (definitions : List RunnerDefinition) (distinct : (definitions.map (·.id)).Nodup)
    (settings : Settings) (stage : Stage) :
    ∃ openings, Overture settings.scheduling.equalFootingPriority definitions openings ∧
      ∀ order, order.Perm definitions → ∃ s, registerAll order (empty settings stage) = (.ok (), s) ∧
        Asks (openings.map StoryOpening.target) { s with kickstarted := true } s.kickstart ∧
        Kickoff definitions openings s.kickstart ∧
        ∀ ops, (run ops s.kickstart).kickstart = run ops s.kickstart ∧
          ∀ elapsed, (run ops s.kickstart).tick elapsed = (run ops s.kickstart).drain.pump elapsed := by
  obtain ⟨openings, overture⟩ := Overture.exists_overture settings.scheduling.equalFootingPriority distinct
  refine ⟨openings, overture, fun order same => ?_⟩
  obtain ⟨s, registered, equal, enrolled⟩ :=
    registerAll_enrolled order ((same.map _).nodup_iff.mpr distinct) settings stage
  obtain ⟨asks, kickoff⟩ := (enrolled.of_perm same).kickoff (equal ▸ overture)
  refine ⟨s, registered, asks, kickoff, fun ops => ?_⟩
  have coherent : Coherent { s with kickstarted := true } :=
    enrolled.coherent.of_same enrolled.coherent.attached enrolled.coherent.emitted rfl rfl rfl
  have steps := asks.steps coherent
  have begun : s.kickstart.kickstarted = true := Turns.kickstarted_stays steps rfl
  have once : (run ops s.kickstart).kickstart = run ops s.kickstart :=
    if_pos (run_kickstarted ops (Turns.coherent steps coherent) begun)
  refine ⟨once, fun elapsed => ?_⟩
  rw [tick, once]

/-- A show with nothing but its opening. -/
def booth (id : String) (priority : Int) (instructions : List Instruction) : RunnerDefinition :=
  let opening := { Node.ofProgram ⟨"opening"⟩ { instructions } with isStart := true }
  { id := ⟨id⟩, priority, storyboard := { name := ⟨id⟩, nodes := [opening] } }

/-- Three shows on equal footing, of which one is over as soon as it is called, and a show that matters less. -/
def festival : List RunnerDefinition :=
  [booth "puppets" 0 [.dialogue "A" "Hear, hear!" none], booth "juggler" 0 [.dialogue "B" "Look here!" none],
    booth "auction" 5 [.dialogue "C" "Who bids more?" none], booth "band" 0 []]

/-- Whether the puppets come first or last, the juggler begins, and they wait. -/
theorem festival_kickoff :
    (festival.map (·.id)).Nodup ∧ ∃ openings s t,
      registerAll festival (empty {} .instant) = (.ok (), s) ∧
      registerAll festival.reverse (empty {} .instant) = (.ok (), t) ∧
      Kickoff festival openings s.kickstart ∧ Kickoff festival openings t.kickstart ∧
      s.kickstart.active = some (⟨"juggler"⟩, ⟨"opening"⟩) ∧
      t.kickstart.pending = [⟨⟨"puppets"⟩, ⟨"opening"⟩, 0⟩] := by
  have distinct : (festival.map (·.id)).Nodup := by decide +kernel
  obtain ⟨openings, -, kickoff⟩ := kickoff_independent_of_order festival distinct {} .instant
  obtain ⟨s, registered, -, begun, -⟩ := kickoff festival (.refl _)
  obtain ⟨t, registered', -, begun', -⟩ := kickoff festival.reverse (List.reverse_perm _)
  refine ⟨distinct, openings, s, t, registered, registered', begun, begun', ?_, ?_⟩
  · obtain rfl : (registerAll festival (empty {} .instant)).2 = s := congrArg Prod.snd registered
    decide +kernel
  · obtain rfl : (registerAll festival.reverse (empty {} .instant)).2 = t := congrArg Prod.snd registered'
    decide +kernel

end Scene

end Plotline
