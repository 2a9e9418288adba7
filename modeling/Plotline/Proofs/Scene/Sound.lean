import Plotline.Proofs.Scene.Step

/-!
The gate and the interpreter agree: a node is active exactly while a program is loaded, and the program is that
node's. Every step through the gate keeps this. A step past it may leave a program behind whose node is no longer
active; the scene stays coherent all the same.
-/

namespace Plotline.Scene

/-- Each runner stands under its id and knows exactly the nodes of its storyboard. The active node belongs to a runner
of the scene, and its program is the one that is loaded. Outside of the interpreter's own work no emitted event waits
in it. -/
structure Coherent (s : Scene) : Prop where
  attached : s.channel.bus.attached = true
  emitted : s.interpreter.emitted = []
  owned : s.Owned
  listed : ∀ x ∈ s.runners, x.Listed
  loaded : ∀ runner node, s.active = some (runner, node) →
    ∃ x d, s.runner? runner = some x ∧ x.node? node = some d ∧ s.interpreter.program = some d.program

/-- Moreover no program is loaded while no node is active. -/
structure Sound (s : Scene) : Prop extends Coherent s where
  idle : s.active = none → s.interpreter.program = none

namespace Coherent

variable {s : Scene}

theorem found (coherent : s.Coherent) {runner : RunnerId} {node : NodeId} (active : s.active = some (runner, node)) :
    ∃ x, s.runner? runner = some x := by
  obtain ⟨x, _, found, _⟩ := coherent.loaded runner node active
  exact ⟨x, found⟩

theorem listed_of_found (coherent : s.Coherent) {runner : RunnerId} {x : Runner} (found : s.runner? runner = some x) :
    x.Listed :=
  coherent.listed x (List.mem_of_find?_eq_some found)

theorem attached_of_grows (coherent : s.Coherent) {events : List StoryEvent} {granted : List (List Reward)}
    {ch : Channel} (grown : s.channel.Grows events granted ch) : ch.bus.attached = true :=
  grown.attached.trans coherent.attached

/-- A runner that is replaced by one of its kind is found as before, with the same programs. -/
private theorem loaded_putRunner (coherent : s.Coherent) {x y : Runner} (found : s.runner? x.id = some x)
    (alike : x.Alike y) (ch : Channel) {runner : RunnerId} {node : NodeId} (active : s.active = some (runner, node)) :
    ∃ x d, (s.putRunner y ch).runner? runner = some x ∧ x.node? node = some d ∧
      s.interpreter.program = some d.program := by
  obtain ⟨z, d, foundZ, known, program⟩ := coherent.loaded runner node active
  by_cases same : runner = x.id
  · have equal : z = x := Option.some.inj (foundZ.symm.trans (same ▸ found))
    subst equal
    obtain ⟨d', known', sameProgram⟩ := alike.program known
    refine ⟨y, d', ?_, known', program.trans (congrArg some sameProgram.symm)⟩
    rw [same, runner?_putRunner_self found alike.id]
  · refine ⟨z, d, ?_, known, program⟩
    rw [runner?_putRunner found alike.id, if_neg same]
    exact foundZ

theorem putRunner (coherent : s.Coherent) {x y : Runner} (found : s.runner? x.id = some x) (alike : x.Alike y)
    {ch : Channel} (attached : ch.bus.attached = true) : (s.putRunner y ch).Coherent where
  attached := attached
  emitted := coherent.emitted
  owned := coherent.owned.putRunner found alike.id ch
  listed := by
    intro z member
    rcases mem_putRunner alike.id member with rfl | ⟨old, _⟩
    · exact alike.listed (coherent.listed_of_found found)
    · exact coherent.listed z old
  loaded _runner _node active := coherent.loaded_putRunner found alike ch active

/-- Nothing but the channel, the requests and the course of the story has changed. -/
theorem of_same (coherent : s.Coherent) {s' : Scene} (attached : s'.channel.bus.attached = true)
    (emitted : s'.interpreter.emitted = []) (program : s'.interpreter.program = s.interpreter.program)
    (active : s'.active = s.active) (runners : s'.runners = s.runners) : s'.Coherent := by
  refine ⟨attached, emitted, ?_, ?_, ?_⟩
  · unfold Owned runner?
    rw [runners]
    exact coherent.owned
  · rw [runners]
    exact coherent.listed
  · intro runner node running
    rw [program]
    unfold runner?
    rw [runners]
    exact coherent.loaded runner node (active ▸ running)

/-- A program that runs through the gate has ended, or one past it. -/
theorem freed (coherent : s.Coherent) {i : Interpreter} (emitted : i.emitted = []) {ch : Channel}
    (attached : ch.bus.attached = true) :
    Coherent { s with interpreter := i, channel := ch, active := none } :=
  ⟨attached, emitted, coherent.owned, coherent.listed, nofun⟩

theorem started (coherent : s.Coherent) {runner : RunnerId} {node : NodeId} {x : Runner} {d : Node} {i : Interpreter}
    {ch : Channel} (attached : ch.bus.attached = true) (emitted : i.emitted = [])
    (found : s.runner? runner = some x) (waiting : x.statusOf? node = some .notStarted)
    (known : x.node? node = some d) (program : i.program = some d.program) :
    Coherent { s.putRunner (x.setStatus node .inProgress) ch with
      interpreter := i, active := some (runner, node) } := by
  have same := id_of_runner? found
  have alike := Runner.alike_setStatus (Runner.contains_of_status waiting) .inProgress
  have put := coherent.putRunner (same.symm ▸ found) alike attached
  refine ⟨attached, emitted, put.owned, put.listed, ?_⟩
  intro runner' node' active
  cases active
  obtain ⟨d', known', sameProgram⟩ := alike.program known
  refine ⟨x.setStatus node .inProgress, d', ?_, known', program.trans (congrArg some sameProgram.symm)⟩
  exact same ▸ runner?_putRunner_self (same.symm ▸ found) alike.id ch

theorem joined (coherent : s.Coherent) {y : Runner} (fresh : s.runner? y.id = none) (listed : y.Listed) {ch : Channel}
    (attached : ch.bus.attached = true) :
    Coherent { s with runners := insertRunner y s.runners, channel := ch } := by
  have looked := runner?_insertRunner fresh ch
  have others : ∀ id z, s.runner? id = some z → id ≠ y.id := by
    intro id z found same
    rw [same, fresh] at found
    cases found
  refine ⟨attached, coherent.emitted, coherent.owned.insertRunner fresh ch, ?_, ?_⟩
  · intro z member
    rcases mem_insertRunner member with rfl | old
    · exact listed
    · exact coherent.listed z old
  · intro runner node active
    obtain ⟨z, d, found, known, program⟩ := coherent.loaded runner node active
    refine ⟨z, d, ?_, known, program⟩
    rw [looked, if_neg (others runner z found)]
    exact found

theorem parted (coherent : s.Coherent) {id : RunnerId} (idle : ∀ node, s.active ≠ some (id, node))
    {pending : List Request} {ch : Channel} (attached : ch.bus.attached = true) :
    Coherent { s with pending, runners := s.runners.filter (·.id ≠ id), channel := ch } := by
  refine ⟨attached, coherent.emitted, coherent.owned.part id pending ch, ?_, ?_⟩
  · intro z member
    exact coherent.listed z (List.mem_filter.mp member).1
  · intro runner node active
    obtain ⟨z, d, found, known, program⟩ := coherent.loaded runner node active
    have other : runner ≠ id := fun same => idle node (same ▸ active)
    exact ⟨z, d, (runner?_filter other).trans found, known, program⟩

end Coherent

theorem empty_sound (settings : Settings) (stage : Stage) : (empty settings stage).Sound :=
  ⟨⟨rfl, rfl, nofun, nofun, nofun⟩, fun _ => rfl⟩

theorem found_self {s : Scene} {id : RunnerId} {x : Runner} (found : s.runner? id = some x) :
    s.runner? x.id = some x := by
  rw [id_of_runner? found]
  exact found

/-- A node that has just begun and ended is of the kind it was. -/
theorem passed_alike {x : Runner} {node : NodeId} (waiting : x.statusOf? node = some .notStarted) :
    x.Alike ((x.setStatus node .inProgress).afterEnd node) :=
  (Runner.alike_setStatus (Runner.contains_of_status waiting) .inProgress).trans (Runner.afterEnd_alike node _)

variable {op : Operation} {returning past : Prop}

theorem Step.coherent {t t' : Turn} (step : Step op returning past t t') (coherent : t.scene.Coherent) :
    t'.scene.Coherent := by
  have attached := coherent.attached
  cases step with
  | quiet grown => exact coherent.of_same (coherent.attached_of_grows grown) coherent.emitted rfl rfl rfl
  | kickstarted => exact coherent.of_same attached coherent.emitted rfl rfl rfl
  | directed program emitted grown =>
      exact coherent.of_same (coherent.attached_of_grows grown) (emitted.trans coherent.emitted) program rfl rfl
  | called target known => exact coherent
  | queued held => exact coherent.of_same attached coherent.emitted rfl rfl rfl
  | reordered same => exact coherent.of_same attached coherent.emitted rfl rfl rfl
  | releases => exact coherent
  | taken releasing free first => exact coherent.of_same attached coherent.emitted rfl rfl rfl
  | released done => exact coherent
  | unknown free missing => exact coherent.of_same attached coherent.emitted rfl rfl rfl
  | refused free found unready => exact coherent.of_same attached coherent.emitted rfl rfl rfl
  | started free found waiting known program emitted grown opens =>
      exact coherent.started (coherent.attached_of_grows grown) (emitted.trans coherent.emitted) found waiting known
        program
  | passed free found waiting grown opens =>
      have attached' := coherent.attached_of_grows grown
      exact (coherent.putRunner (found_self found) (passed_alike waiting) attached').freed coherent.emitted attached'
  | jammed free busy found waiting grown =>
      exact coherent.putRunner (found_self found) (passed_alike waiting) (coherent.attached_of_grows grown)
  | resumed program emitted topics grown =>
      exact coherent.of_same (coherent.attached_of_grows grown) emitted program rfl rfl
  | finished active found program emitted topics grown =>
      have attached' := coherent.attached_of_grows grown
      exact (coherent.putRunner (found_self found) (Runner.afterEnd_alike _ _) attached').freed emitted attached'
  | branched active program emitted topics grown =>
      exact coherent.freed emitted (coherent.attached_of_grows grown)
  | orphaned free busy program emitted topics grown =>
      refine ⟨coherent.attached_of_grows grown, emitted, coherent.owned, coherent.listed, ?_⟩
      intro runner node active
      cases free.symm.trans active
  | batch => exact coherent.of_same attached coherent.emitted rfl rfl rfl
  | delivered first found made => exact coherent.putRunner (found_self found) (Runner.deliver_made made).1 attached
  | cleared found inactive grown =>
      exact coherent.putRunner found (Runner.afterEnd_alike _ _) (coherent.attached_of_grows grown)
  | originEnded jump back found grown =>
      exact coherent.putRunner (found_self found) (Runner.afterEnd_alike _ _) (coherent.attached_of_grows grown)
  | settled first other heard => exact coherent
  | jumpSettled jump ended => exact coherent
  | published asked grown => exact coherent.of_same (coherent.attached_of_grows grown) coherent.emitted rfl rfl rfl
  | requested asked => exact coherent.of_same attached coherent.emitted rfl rfl rfl
  | observes asked => exact coherent.of_same attached coherent.emitted rfl rfl rfl
  | stopsObserving asked =>
      exact coherent.of_same ((Channel.unsubscribe_rewired _ _).attached.trans attached) coherent.emitted rfl rfl rfl
  | joined asked fresh made =>
      obtain ⟨-, -, new, rewired⟩ := Runner.setUp_made made
      exact coherent.joined fresh new.listed (rewired.attached.trans attached)
  | parted asked found idle => exact coherent.parted idle ((Runner.takeDown_rewired _ _).attached.trans attached)
  | restored asked member found made =>
      exact coherent.putRunner (found_self found) (Runner.restore_made made).1.alike attached
  | forgotten asked => exact coherent.of_same attached coherent.emitted rfl rfl rfl

/-- Through the gate no program is left behind. -/
private theorem Step.idle {t t' : Turn} (step : Step op returning False t t')
    (idle : t.scene.active = none → t.scene.interpreter.program = none) :
    t'.scene.active = none → t'.scene.interpreter.program = none := by
  cases step with
  | directed program emitted grown => exact fun free => program.trans (idle free)
  | started free found waiting known program emitted grown opens => exact nofun
  | passed free found waiting grown opens => exact fun _ => idle (free.resolve_right id)
  | resumed program emitted topics grown => exact fun free => program.trans (idle free)
  | finished active found program emitted topics grown => exact fun _ => program
  | branched active program emitted topics grown => exact fun _ => program
  | orphaned free busy program emitted topics grown => exact fun _ => program
  | _ => exact idle

theorem Step.sound {t t' : Turn} (step : Step op returning False t t') (sound : t.scene.Sound) : t'.scene.Sound :=
  ⟨step.coherent sound.toCoherent, step.idle sound.idle⟩

/-! ### Sequences of steps -/

/-- What each step keeps, a sequence of them keeps. -/
theorem Turns.keeps {kept : Turn → Prop}
    (step : ∀ t t', Step op returning past t t' → t.scene.Coherent → kept t → kept t') {t t' : Turn}
    (turns : Turns op returning past t t') (coherent : t.scene.Coherent) (start : kept t) :
    t'.scene.Coherent ∧ kept t' := by
  induction turns with
  | refl => exact ⟨coherent, start⟩
  | tail _ last ih => exact ⟨last.coherent ih.1, step _ _ last ih.1 ih.2⟩

theorem Turns.coherent {t t' : Turn} (turns : Turns op returning past t t') (coherent : t.scene.Coherent) :
    t'.scene.Coherent :=
  (turns.keeps (fun _ _ _ _ (_ : True) => trivial) coherent trivial).1

theorem Turns.sound {t t' : Turn} (turns : Turns op returning False t t') (sound : t.scene.Sound) :
    t'.scene.Sound := by
  induction turns with
  | refl => exact sound
  | tail _ last ih => exact last.sound ih

end Plotline.Scene
