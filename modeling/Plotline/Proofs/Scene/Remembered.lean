import Mathlib.Data.List.Pairwise
import Plotline.Proofs.Scene.Credence
import Plotline.Proofs.Scene.Reload

/-!
Which latches come back with a saved game. Latches are not saved; after loading, a node that runs only once reads off
the statuses of its own runner which of the nodes that it waits for are complete.
-/

namespace Plotline.Scene

variable {runners : List Runner} {ch : Channel} {package : StoryPackage} {s : Scene}

theorem Cast.truthful (cast : Cast runners ch.bus) (settings : Settings) (stage : Stage) :
    Turn.Orderly ⟨⟨opening runners ch settings stage, [], false⟩, none⟩ ∧
      Turn.Truthful ⟨⟨opening runners ch settings stage, [], false⟩, none⟩ := by
  refine ⟨⟨?_, ?_, List.forall_mem_nil _, nofun⟩, ?_, ?_⟩
  · intro runner node running
    cases cast.waiting settings stage running
  · intro runner node complete
    cases cast.waiting settings stage complete
  · intro runner board node waits
    have none : (opening runners ch settings stage).channel.bus.queue = [] := cast.quiet
    rw [none] at waits
    cases waits
  · intro key target c slot satisfied
    obtain ⟨x, found, slot⟩ := Option.bind_eq_some_iff.mp slot
    obtain ⟨d, known, slot⟩ := Option.bind_eq_some_iff.mp slot
    have unsatisfied := ((cast.primed_of_found settings stage found).listens_of_node? known slot).1
    cases unsatisfied.symm.trans satisfied

private theorem perform_truthful (start : Scene) (op : Operation) (s : Scene) (world : op.FromWorld)
    (kept : (s.Sound ∧ Moment.Covered ⟨s, [], false⟩ ∧ Turn.Awake ⟨⟨s, [], false⟩, none⟩ ∧ Develops start s) ∧
      Turn.Orderly ⟨⟨s, [], false⟩, none⟩ ∧ Turn.Truthful ⟨⟨s, [], false⟩, none⟩) :
    ((op.perform s).Sound ∧ Moment.Covered ⟨op.perform s, [], false⟩ ∧
      Turn.Awake ⟨⟨op.perform s, [], false⟩, none⟩ ∧ Develops start (op.perform s)) ∧
        Turn.Orderly ⟨⟨op.perform s, [], false⟩, none⟩ ∧ Turn.Truthful ⟨⟨op.perform s, [], false⟩, none⟩ := by
  have steps : Steps op True False ⟨s, [], false⟩ ⟨op.perform s, [], false⟩ :=
    perform_through op kept.1.1.toCoherent ((Operation.plays_of_fromWorld world).startsFree s) fun _ => trivial
  exact ⟨perform_develops start op s world kept.1, Turns.truthful steps world kept.2⟩

/-! ### Whose node it is -/

/-- No node belongs to two runners. -/
def Apart (s : Scene) : Prop := ∀ r r' node, s.Knows (r, node) → s.Knows (r', node) → r = r'

private theorem eq_of_mem_flatMap {α β : Type} {f : α → List β} {elements : List α}
    (distinct : (elements.flatMap f).Nodup) {a b : α} {x : β} (memberA : a ∈ elements) (memberB : b ∈ elements)
    (inA : x ∈ f a) (inB : x ∈ f b) : a = b := by
  obtain ⟨-, disjoint⟩ := List.nodup_flatMap.mp distinct
  by_contra different
  have symmetric : Std.Symm (Function.onFun List.Disjoint f) := ⟨fun _ _ apart _ inB inA => apart inA inB⟩
  exact disjoint.forall memberA memberB different inA inB

/-- If no id occurs twice in a package, no node belongs to two runners of a scene that comes of it. -/
private theorem Develops.apart (cast : Cast runners ch.bus)
    (enacted : ∀ x ∈ runners, ∃ d ∈ package.runners, Runner.Enacts d x)
    (distinct : (package.runners.flatMap fun d => d.storyboard.nodes.map (·.id)).Nodup) {settings : Settings}
    {stage : Stage} (develops : Develops (opening runners ch settings stage) s) (owned : s.Owned) : s.Apart := by
  have origin : ∀ r node, s.Knows (r, node) →
      ∃ d ∈ package.runners, r = d.id ∧ node ∈ d.storyboard.nodes.map (·.id) := by
    intro r node knows
    obtain ⟨status, known⟩ := Option.isSome_iff_exists.mp knows
    obtain ⟨x, found, known⟩ := Option.bind_eq_some_iff.mp known
    obtain rfl := id_of_runner? found
    have loadable : ∃ y, (opening runners ch settings stage).runner? x.id = some y ∧ y.Primed ch.bus ∧ y.Alike x :=
      develops.loadable cast owned (List.mem_of_find?_eq_some found)
    obtain ⟨y, foundY, -, alike⟩ := loadable
    obtain ⟨d, defined, same, nodes⟩ := enacted y (List.mem_of_find?_eq_some foundY)
    refine ⟨d, defined, alike.id.trans same, ?_⟩
    have contained := (alike.known node).symm.trans (Runner.contains_of_status known)
    rw [nodes, Storyboard.node?, List.find?_isSome] at contained
    obtain ⟨n, member, isNode⟩ := contained
    exact List.mem_map.mpr ⟨n, member, of_decide_eq_true isNode⟩
  intro r r' node knows knows'
  obtain ⟨d, defined, rfl, member⟩ := origin r node knows
  obtain ⟨d', defined', rfl, member'⟩ := origin r' node knows'
  rw [eq_of_mem_flatMap distinct defined defined' member member']

/-! ### Main result -/

/-- What is known of a scene in which nothing goes on, and of the one that it is loaded into. -/
private theorem reloads_of_quiet (proper : package.Proper)
    (distinct : (package.runners.flatMap fun d => d.storyboard.nodes.map (·.id)).Nodup) (settings settings' : Settings)
    (stage stage' : Stage) (ops : List Operation) (fromWorld : ∀ op ∈ ops, op.FromWorld)
    (quiet : (run ops (ofPackage package settings stage).2).Quiet) :
    let saved := run ops (ofPackage package settings stage).2
    saved.Apart ∧ Turn.Awake ⟨⟨saved, [], false⟩, none⟩ ∧ Turn.Orderly ⟨⟨saved, [], false⟩, none⟩ ∧
      Turn.Truthful ⟨⟨saved, [], false⟩, none⟩ ∧
        ∃ s, (ofPackage package settings' stage').2.restore saved.capture = { s with pending := [] } ∧
          Reloads saved.runners (ofPackage package settings' stage').2 s := by
  dsimp only
  obtain ⟨runners, ch, cast, enacted, made⟩ := ofPackage_enacted proper
  have soundStart : (ofPackage package settings stage).2.Sound :=
    (reached_of_package package settings stage (List.forall_mem_nil _)).keeps empty_sound
      fun op s plays => perform_sound op s (plays.startsFree s)
  rw [made settings stage] at quiet soundStart ⊢
  rw [made settings' stage']
  have coveredStart : Moment.Covered ⟨opening runners ch settings stage, [], false⟩ := by
    intro runner node running
    cases cast.waiting settings stage running
  obtain ⟨⟨sound, covered, awake, develops⟩, orderly, truthful⟩ :=
    run_keeps (perform_truthful (opening runners ch settings stage)) ops _ (obeys_of_forall ops _ fromWorld)
      ⟨⟨soundStart, coveredStart, cast.awake settings stage, .refl _⟩, cast.truthful settings stage⟩
  have distinctRunners : ((run ops (opening runners ch settings stage)).runners.map (·.id)).Nodup := by
    rw [develops.ids]
    exact cast.distinct
  obtain ⟨loaded, taken, reloads⟩ :=
    restoreEntries_settled (s := opening runners ch settings' stage') _ distinctRunners rfl fun x member =>
      ⟨quiet.settled covered awake (sound.owned x member), develops.loadable cast sound.owned member⟩
  exact ⟨develops.apart cast enacted distinct sound.owned, awake, orderly, truthful, loaded,
    restore_of_reloads taken reloads rfl, reloads⟩

/-- A game is saved while nothing goes on, and loaded into a new scene of its package. Of the conditions by which nodes
wait for others to be completed, those of nodes that run only once are satisfied again, if the other node belongs to
the same runner and runs only once as well; and no other is. -/
theorem remembered_iff (proper : package.Proper)
    (distinct : (package.runners.flatMap fun d => d.storyboard.nodes.map (·.id)).Nodup) (settings settings' : Settings)
    (stage stage' : Stage) (ops : List Operation) (fromWorld : ∀ op ∈ ops, op.FromWorld)
    (quiet : (run ops (ofPackage package settings stage).2).Quiet) :
    let saved := run ops (ofPackage package settings stage).2
    let loaded := (ofPackage package settings' stage').2.restore saved.capture
    ∀ key target c, saved.condition? key = some c → c.kind = .previousNodeCompleted target →
      saved.statusOf? key.runner key.node = some .notStarted →
        ∃ c', loaded.condition? key = some c' ∧ c'.kind = c.kind ∧
          (c'.satisfied = true ↔ c.satisfied = true ∧ saved.repeats key.runner key.node = false ∧
            saved.Knows (key.runner, target) ∧ saved.repeats key.runner target = false) := by
  intro saved loaded key target c slot kind waiting
  obtain ⟨apart, awake, orderly, truthful, s, restored, reloads⟩ :=
    reloads_of_quiet proper distinct settings settings' stage stage' ops fromWorld quiet
  obtain ⟨x, found, slotX⟩ := Option.bind_eq_some_iff.mp slot
  obtain ⟨z, foundZ, -, alike, recalls⟩ := reloads.loaded x (List.mem_of_find?_eq_some found)
  rw [id_of_runner? found] at foundZ
  obtain ⟨c', slotZ, sameKind, -⟩ := alike.symm.slot slotX
  have slot' : loaded.condition? key = some c' :=
    (congrArg (·.condition? key) restored).trans (Option.bind_eq_some_iff.mpr ⟨z, foundZ, slotZ⟩)
  have complete : c'.kind.settledBy x.statuses = true ↔ saved.statusOf? key.runner target = some .completed := by
    rw [sameKind, kind, statusOf?_of_runner? found]
    exact decide_eq_true_iff
  refine ⟨c', slot', sameKind, ?_⟩
  rw [recalls key.node key.index c' slotZ ((statusOf?_of_runner? found key.node).symm.trans waiting), complete,
    alike.repeats, ← repeats_of_runner? found]
  constructor
  · rintro ⟨once, completed⟩
    refine ⟨?_, once, Option.isSome_iff_exists.mpr ⟨_, completed⟩, orderly.retired key.runner target completed⟩
    rcases awake.heeds key target c slot once kind completed with satisfied | ⟨event, waits, -⟩
    · exact satisfied
    · have none : saved.channel.bus.queue = [] := quiet.2.2
      rw [none] at waits
      cases waits
  · rintro ⟨satisfied, once, knows, onceTarget⟩
    obtain ⟨runner, accomplished⟩ := truthful.believed key target c slot satisfied kind
    obtain rfl := apart runner key.runner target accomplished.1 knows
    exact ⟨once, accomplished.2 onceTarget⟩

/-- By the king's decree those who come to the hall are received, and those who come to the gate are let in. -/
def court : StoryPackage :=
  { runners :=
      [{ id := ⟨"guard"⟩
         priority := 1
         storyboard :=
           { name := ⟨"gate"⟩
             nodes :=
               [{ id := ⟨"open"⟩
                  conditions := [{ kind := .previousNodeCompleted ⟨"decree"⟩ }, { kind := .areaEntered "gate" }] }] } },
       { id := ⟨"king"⟩
         storyboard :=
           { name := ⟨"court"⟩
             nodes :=
               [{ id := ⟨"decree"⟩
                  isStart := true
                  program := { instructions := [.dialogue "K" "Let them in." none] } },
                { id := ⟨"audience"⟩
                  conditions := [{ kind := .previousNodeCompleted ⟨"decree"⟩ }, { kind := .areaEntered "hall" }] }] } }] }

/-- The decree is read to its end. -/
def decreed : List Operation := [.tick 0, .continueInput, .tick 0, .tick 0]

/-- A condition that has seen the decree completed. -/
private def heard (subscription : Nat) : Condition :=
  { kind := .previousNodeCompleted ⟨"decree"⟩, satisfied := true, subscription := some ⟨subscription⟩ }

private theorem court_heard (s : Scene) (is : s = run decreed (ofPackage court {} .instant).2) :
    s.Quiet ∧ s.condition? ⟨⟨"king"⟩, ⟨"audience"⟩, 0⟩ = some (heard 4) ∧
      s.condition? ⟨⟨"guard"⟩, ⟨"open"⟩, 0⟩ = some (heard 0) := by
  subst is
  exact ⟨⟨by decide +kernel, by decide +kernel, by decide +kernel⟩, by decide +kernel, by decide +kernel⟩

/-- After loading the king still knows of the decree, and the guard does not. -/
theorem court_remembered :
    let saved := run decreed (ofPackage court {} .instant).2
    let loaded := (ofPackage court {} .instant).2.restore saved.capture
    saved.Quiet ∧
      (∃ c, loaded.condition? ⟨⟨"king"⟩, ⟨"audience"⟩, 0⟩ = some c ∧ c.satisfied = true) ∧
        ∃ c, loaded.condition? ⟨⟨"guard"⟩, ⟨"open"⟩, 0⟩ = some c ∧ c.satisfied = false := by
  intro saved loaded
  have proper : court.Proper := ⟨by decide, by decide, by simp [court, Runner.Unsubscribed]⟩
  obtain ⟨quiet, kingHeard, guardHeard⟩ := court_heard saved rfl
  have remembered := remembered_iff proper (by decide) {} {} .instant .instant decreed
    (by simp [decreed, Operation.FromWorld]) quiet
  refine ⟨quiet, ?_, ?_⟩
  · obtain ⟨c', slot', -, same⟩ := remembered _ ⟨"decree"⟩ _ kingHeard rfl (by decide +kernel)
    exact ⟨c', slot', same.mpr (by decide +kernel)⟩
  · obtain ⟨c', slot', -, same⟩ := remembered _ ⟨"decree"⟩ _ guardHeard rfl (by decide +kernel)
    refine ⟨c', slot', Bool.eq_false_iff.mpr fun satisfied => ?_⟩
    exact absurd (same.mp satisfied).2.2.1 (by decide +kernel)

/-- It is not true of every package that a node which waits remembers each node that it has seen completed, although no
id occurs twice. -/
theorem decree_forgotten :
    ¬ ∀ (package : StoryPackage) (ops : List Operation), package.Proper →
      (package.runners.flatMap fun d => d.storyboard.nodes.map (·.id)).Nodup → (∀ op ∈ ops, op.FromWorld) →
        (run ops (ofPackage package {} .instant).2).Quiet →
          ∀ key target c c', (run ops (ofPackage package {} .instant).2).condition? key = some c →
            c.kind = .previousNodeCompleted target → c.satisfied = true →
              (run ops (ofPackage package {} .instant).2).statusOf? key.runner key.node = some .notStarted →
                ((ofPackage package {} .instant).2.restore (run ops (ofPackage package {} .instant).2).capture).condition?
                  key = some c' → c'.satisfied = true := by
  intro always
  have proper : court.Proper := ⟨by decide, by decide, by simp [court, Runner.Unsubscribed]⟩
  obtain ⟨quiet, -, guardHeard⟩ := court_heard _ rfl
  have loaded : ((ofPackage court {} .instant).2.restore
      (run decreed (ofPackage court {} .instant).2).capture).condition? ⟨⟨"guard"⟩, ⟨"open"⟩, 0⟩ =
        some { heard 0 with satisfied := false } := by
    decide +kernel
  have satisfied := always court decreed proper (by decide) (by simp [decreed, Operation.FromWorld]) quiet _ ⟨"decree"⟩
    _ _ guardHeard rfl rfl (by decide +kernel) loaded
  cases satisfied

end Plotline.Scene
