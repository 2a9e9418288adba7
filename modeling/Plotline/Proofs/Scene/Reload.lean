import Plotline.Proofs.Runner.Recall
import Plotline.Proofs.Scene.Awake
import Plotline.Proofs.Scene.Package
import Plotline.Proofs.Scene.Progress

/-!
A game that is saved while nothing goes on. Loaded into a new scene of the same package it is there again as it was, and
it starts nothing: whatever would be ready by its statuses has been started before.
-/

namespace Plotline.Scene

variable {op : Operation} {returning : Prop} {s s' : Scene}

/-! ### The runners of a package -/

/-- The scene has the runners of the other, whatever has become of them. -/
structure Develops (s s' : Scene) : Prop where
  ids : s'.runners.map (·.id) = s.runners.map (·.id)
  alike : ∀ id x, s.runner? id = some x → ∃ y, s'.runner? id = some y ∧ x.Alike y

theorem Develops.refl (s : Scene) : Develops s s := ⟨rfl, fun _ x found => ⟨x, found, .refl x⟩⟩

theorem Develops.trans {s'' : Scene} (first : Develops s s') (last : Develops s' s'') : Develops s s'' := by
  refine ⟨last.ids.trans first.ids, ?_⟩
  intro id x found
  obtain ⟨y, foundY, alike⟩ := first.alike id x found
  obtain ⟨z, foundZ, further⟩ := last.alike id y foundY
  exact ⟨z, foundZ, alike.trans further⟩

theorem putRunner_ids (y : Runner) (ch : Channel) (s : Scene) :
    (s.putRunner y ch).runners.map (·.id) = s.runners.map (·.id) := by
  unfold putRunner
  rw [List.map_map]
  apply List.map_congr_left
  intro z _
  by_cases here : z.id = y.id <;> simp [here]

theorem Turns.develops {t t' : Turn} (turns : Turns op returning False t t') (world : op.FromWorld) :
    Develops t.scene t'.scene := by
  induction turns with
  | refl => exact .refl _
  | @tail t' t'' earlier last ih =>
      refine ih.trans ⟨?_, fun id x found => last.alike (world.keepsRunners.1 id) found⟩
      cases last.reshaped with
      | same runners => rw [runners]
      | put found alike latches runners =>
          rw [runners]
          exact putRunner_ids _ _ _
      | joined asked fresh new runners =>
          subst asked
          exact False.elim world
      | parted asked runners =>
          subst asked
          exact False.elim world

/-! ### Saving while nothing goes on -/

theorem Cast.awake {runners : List Runner} {ch : Channel} (cast : Cast runners ch.bus) (settings : Settings)
    (stage : Stage) : Turn.Awake ⟨⟨opening runners ch settings stage, [], false⟩, none⟩ := by
  refine ⟨?_, ?_, ?_⟩
  · intro key c slot
    obtain ⟨x, found, slot⟩ := Option.bind_eq_some_iff.mp slot
    obtain ⟨d, known, slot⟩ := Option.bind_eq_some_iff.mp slot
    have listens := ((cast.primed_of_found settings stage found).listens_of_node? known slot).2
    rw [id_of_runner? found] at listens
    exact listens
  · intro key target c slot once kind complete
    cases cast.waiting settings stage complete
  · intro runner node d known once nonempty isReady waiting
    obtain ⟨x, found, known⟩ := Option.bind_eq_some_iff.mp known
    obtain ⟨c, slot⟩ := List.exists_mem_of_ne_nil _ nonempty
    obtain ⟨index, placed⟩ := List.getElem?_of_mem slot
    have unsatisfied := ((cast.primed_of_found settings stage found).listens_of_node? known placed).1
    rw [List.all_eq_true.mp isReady c slot] at unsatisfied
    cases unsatisfied

/-- Nothing goes on: no node is active, and neither a request nor an event waits. -/
def Quiet (s : Scene) : Prop := s.isEventRunning = false ∧ s.pending = [] ∧ s.channel.bus.queue = []

/-- Where nothing goes on, whatever could have started by the statuses has done so. -/
theorem Quiet.settled (quiet : s.Quiet) (covered : Moment.Covered ⟨s, [], false⟩)
    (awake : Turn.Awake ⟨⟨s, [], false⟩, none⟩) {id : RunnerId} {x : Runner} (found : s.runner? id = some x) :
    x.Settled := by
  obtain ⟨free, pending, queue⟩ := quiet
  constructor
  · intro node running
    rcases covered id node ((statusOf?_of_runner? found node).trans running) with active | ⟨board, target, jump⟩
    · rw [isEventRunning, active] at free
      cases free
    · rw [queue] at jump
      cases jump
  · intro node d known once waiting nonempty
    have here : s.node? id node = some d := (node?_of_runner? found node).trans known
    have never : s.repeats id node = false := (repeats_of_node? here).trans once
    apply Classical.byContradiction
    intro nothing
    have satisfied : ∀ c ∈ d.conditions, c.satisfied = true := by
      intro c slot
      have settled : c.kind.settledBy x.statuses = true := by
        apply Classical.byContradiction
        exact fun unsettled => nothing ⟨c, slot, by simpa using unsettled⟩
      obtain ⟨index, placed⟩ := List.getElem?_of_mem slot
      have held : s.condition? ⟨id, node, index⟩ = some c :=
        Option.bind_eq_some_iff.mpr ⟨x, found, Option.bind_eq_some_iff.mpr ⟨d, known, placed⟩⟩
      cases kind : c.kind with
      | previousNodeCompleted target =>
          rw [kind] at settled
          have complete : s.statusOf? id target = some .completed := by
            rw [statusOf?_of_runner? found]
            exact of_decide_eq_true settled
          rcases awake.heeds ⟨id, node, index⟩ target c held never kind complete with satisfied | ⟨event, waits, -⟩
          · exact satisfied
          · rw [queue] at waits
            cases waits
      | areaEntered area =>
          rw [kind] at settled
          cases settled
      | interactionTriggered interaction =>
          rw [kind] at settled
          cases settled
    have isReady : d.isReady = true := List.all_eq_true.mpr satisfied
    rcases awake.asks id node d here once nonempty isReady ((statusOf?_of_runner? found node).trans waiting) with
      called | ⟨request, waits, -⟩
    · cases called
    · rw [pending] at waits
      cases waits

/-! ### Loading -/

/-- The runners have been restored from what was captured of `saved`, and nothing has started. -/
structure Reloads (saved : List Runner) (s s' : Scene) : Prop where
  active : s'.active = none
  pending : s'.pending = s.pending
  bus : s'.channel.bus = s.channel.bus
  ids : s'.runners.map (·.id) = s.runners.map (·.id)
  owned : s.Owned → s'.Owned
  loaded : ∀ x ∈ saved, ∃ z, s'.runner? x.id = some z ∧ z.capture = x.capture ∧ x.Alike z ∧ Runner.Recalls x z
  others : ∀ id, id ∉ saved.map (·.id) → s'.runner? id = s.runner? id

private theorem restoreEntry_settled {x y : Runner} {bus : Bus} (found : s.runner? x.id = some y)
    (primed : y.Primed bus) (alike : y.Alike x) (settled : x.Settled) (free : s.active = none) :
    ∃ z j, restoreEntry ([], s) x.capture = ([], s.putRunner z { s.channel with journal := j }) ∧
      z.capture = x.capture ∧ y.Alike z ∧ Runner.Recalls x z := by
  have recalls := Runner.restore_recalls primed alike settled s.settings.restorePolicy s.channel.journal
  obtain ⟨z, j, made, capture, kept⟩ := Runner.restore_settled primed alike settled s.settings.restorePolicy
    s.channel.journal
  rw [made] at recalls
  refine ⟨z, j, ?_, capture, kept, recalls⟩
  have here : s.runner? x.capture.runner = some y := found
  unfold restoreEntry
  dsimp only
  rw [here, free]
  dsimp only [Option.filter_none, Option.map_none]
  rw [made]
  rfl

theorem restoreEntries_settled {bus : Bus} (saved : List Runner) (distinct : (saved.map (·.id)).Nodup)
    (free : s.active = none)
    (ready : ∀ x ∈ saved, x.Settled ∧ ∃ y, s.runner? x.id = some y ∧ y.Primed bus ∧ y.Alike x) :
    ∃ s', (saved.map (·.capture)).foldl restoreEntry ([], s) = ([], s') ∧ Reloads saved s s' := by
  induction saved generalizing s with
  | nil => exact ⟨s, rfl, free, rfl, rfl, rfl, id, nofun, fun _ _ => rfl⟩
  | cons x saved ih =>
      obtain ⟨other, distinctRest⟩ := List.nodup_cons.mp distinct
      obtain ⟨settled, y, found, primed, alike⟩ := ready x List.mem_cons_self
      obtain ⟨z, j, made, capture, kept, recalls⟩ := restoreEntry_settled found primed alike settled free
      have same : y.id = x.id := id_of_runner? found
      have put : ∀ id, (s.putRunner z { s.channel with journal := j }).runner? id =
          if id = x.id then some z else s.runner? id := by
        intro id
        rw [runner?_putRunner (found_self found) kept.id, same]
      obtain ⟨s', rest, reloads⟩ := ih (s := s.putRunner z { s.channel with journal := j }) distinctRest free (by
        intro w member
        obtain ⟨settledW, v, foundV, primedV, alikeV⟩ := ready w (List.mem_cons_of_mem x member)
        have different : w.id ≠ x.id := fun equal => other (List.mem_map.mpr ⟨w, member, equal⟩)
        exact ⟨settledW, v, by rw [put, if_neg different, foundV], primedV, alikeV⟩)
      refine ⟨s', ?_, reloads.active, reloads.pending, reloads.bus, ?_, ?_, ?_, ?_⟩
      · rw [List.map_cons, List.foldl_cons, made]
        exact rest
      · exact reloads.ids.trans (putRunner_ids _ _ _)
      · exact fun owned => reloads.owned (owned.putRunner (found_self found) kept.id _)
      · intro w member
        rcases List.mem_cons.mp member with rfl | later
        · exact ⟨z, by rw [reloads.others w.id other, put, if_pos rfl], capture, alike.symm.trans kept, recalls⟩
        · exact reloads.loaded w later
      · intro id missing
        obtain ⟨different, later⟩ := not_or.mp (List.mem_cons.not.mp missing)
        rw [reloads.others id later, put, if_neg different]

private theorem capture_of_owned (owned : s.Owned) :
    s.capture.map some = (s.runners.map (·.id)).map fun id => (s.runner? id).map (·.capture) := by
  unfold capture
  rw [List.map_map, List.map_map]
  apply List.map_congr_left
  intro x member
  dsimp only [Function.comp]
  rw [owned x member]
  rfl

private theorem Reloads.capture {fresh : Scene} (reloads : Reloads s.runners fresh s') (owned : s.Owned)
    (ownedFresh : fresh.Owned) (ids : fresh.runners.map (·.id) = s.runners.map (·.id)) : s'.capture = s.capture := by
  apply (List.map_inj_right fun _ _ => Option.some.inj).mp
  rw [capture_of_owned (reloads.owned ownedFresh), capture_of_owned owned, reloads.ids, ids]
  apply List.map_congr_left
  intro id member
  obtain ⟨x, among, rfl⟩ := List.mem_map.mp member
  obtain ⟨z, found, same, -⟩ := reloads.loaded x among
  rw [found, owned x among, Option.map_some, Option.map_some, same]

theorem restore_of_reloads {entries : List SnapshotEntry} {saved : List Runner}
    (made : entries.foldl restoreEntry ([], s) = ([], s')) (reloads : Reloads saved s s') (pending : s.pending = []) :
    s.restore entries = { s' with pending := [] } := by
  have none : s'.pending = [] := reloads.pending.trans pending
  unfold restore
  rw [made]
  dsimp only [List.foldl_nil]
  rw [none]
  unfold release isEventRunning releaseOrder
  dsimp only [List.filter_nil, List.foldr_nil]
  rw [reloads.active]
  rfl

/-! ### Main result -/

theorem perform_develops (start : Scene) (op : Operation) (s : Scene) (world : op.FromWorld)
    (kept : s.Sound ∧ Moment.Covered ⟨s, [], false⟩ ∧ Turn.Awake ⟨⟨s, [], false⟩, none⟩ ∧ Develops start s) :
    (op.perform s).Sound ∧ Moment.Covered ⟨op.perform s, [], false⟩ ∧ Turn.Awake ⟨⟨op.perform s, [], false⟩, none⟩ ∧
      Develops start (op.perform s) := by
  obtain ⟨sound, covered, awake, develops⟩ := kept
  have startsFree := (Operation.plays_of_fromWorld world).startsFree s
  have steps : Steps op True False ⟨s, [], false⟩ ⟨op.perform s, [], false⟩ :=
    perform_through op sound.toCoherent startsFree fun _ => trivial
  have again : op.StartsAgain s := ⟨startsFree, fun entries asked => absurd asked (world.keepsRunners.2 entries)⟩
  exact ⟨Turns.sound steps sound, (perform_covered op s again ⟨sound, covered⟩).2, Turns.awake steps world awake,
    develops.trans (Turns.develops steps world)⟩

/-- Each runner of a settled scene can be loaded into the one that it comes from. -/
theorem Develops.loadable {runners : List Runner} {ch : Channel} (cast : Cast runners ch.bus)
    {settings settings' : Settings} {stage stage' : Stage}
    (develops : Develops (opening runners ch settings stage) s) (owned : s.Owned) {x : Runner}
    (member : x ∈ s.runners) :
    ∃ y, (opening runners ch settings' stage').runner? x.id = some y ∧ y.Primed ch.bus ∧ y.Alike x := by
  have among : x.id ∈ runners.map (·.id) := by
    have listed : x.id ∈ s.runners.map (·.id) := List.mem_map_of_mem member
    rwa [develops.ids] at listed
  obtain ⟨y, origin, same⟩ := List.mem_map.mp among
  have found : (opening runners ch settings stage).runner? x.id = some y := by
    rw [← same]
    exact cast.owned settings stage y origin
  obtain ⟨z, found', alike⟩ := develops.alike x.id y found
  rw [owned x member] at found'
  cases found'
  exact ⟨y, found, cast.primed y origin, alike⟩

/-- A game that is saved while nothing goes on, and loaded into a new scene of its package, is captured there as it was
saved, and nothing goes on there either. -/
theorem restore_capture {package : StoryPackage} (proper : package.Proper) (settings settings' : Settings)
    (stage stage' : Stage) (ops : List Operation) (fromWorld : ∀ op ∈ ops, op.FromWorld)
    (quiet : (run ops (ofPackage package settings stage).2).Quiet) :
    let saved := run ops (ofPackage package settings stage).2
    let loaded := (ofPackage package settings' stage').2.restore saved.capture
    (ofPackage package settings stage).1 = .ok () ∧ (ofPackage package settings' stage').1 = .ok () ∧
      loaded.capture = saved.capture ∧ loaded.Quiet := by
  dsimp only
  obtain ⟨runners, ch, cast, made⟩ := ofPackage_cast proper
  have soundStart : (ofPackage package settings stage).2.Sound :=
    (reached_of_package package settings stage (List.forall_mem_nil _)).keeps empty_sound
      fun op s plays => perform_sound op s (plays.startsFree s)
  rw [made settings stage] at quiet soundStart ⊢
  rw [made settings' stage']
  have coveredStart : Moment.Covered ⟨opening runners ch settings stage, [], false⟩ := by
    intro runner node running
    cases cast.waiting settings stage running
  obtain ⟨sound, covered, awake, develops⟩ :=
    run_keeps (perform_develops (opening runners ch settings stage)) ops _ (obeys_of_forall ops _ fromWorld)
      ⟨soundStart, coveredStart, cast.awake settings stage, .refl _⟩
  have distinct : ((run ops (opening runners ch settings stage)).runners.map (·.id)).Nodup := by
    rw [develops.ids]
    exact cast.distinct
  obtain ⟨loaded, taken, reloads⟩ :=
    restoreEntries_settled (s := opening runners ch settings' stage') _ distinct rfl fun x member =>
      ⟨quiet.settled covered awake (sound.owned x member), develops.loadable cast sound.owned member⟩
  have restored := restore_of_reloads taken reloads rfl
  refine ⟨rfl, rfl, ?_, ?_⟩
  · refine (congrArg capture restored).trans ?_
    exact reloads.capture sound.owned (cast.owned settings' stage') develops.ids.symm
  · refine (congrArg Quiet restored).mpr ⟨?_, rfl, ?_⟩
    · exact congrArg Option.isSome reloads.active
    · exact (congrArg Bus.queue reloads.bus).trans cast.quiet

/-- A guide who shows the gallery to those who have been welcomed and have come there. -/
def museum : StoryPackage :=
  { runners :=
      [{ id := ⟨"guide"⟩
         storyboard :=
           { name := ⟨"tour"⟩
             nodes :=
               [{ id := ⟨"welcome"⟩
                  isStart := true
                  program := { instructions := [.dialogue "G" "Come in." none] } },
                { id := ⟨"gallery"⟩
                  conditions :=
                    [{ kind := .previousNodeCompleted ⟨"welcome"⟩ }, { kind := .areaEntered "gallery" }] },
                { id := ⟨"farewell"⟩
                  conditions := [{ kind := .previousNodeCompleted ⟨"gallery"⟩ }] }] } }] }

/-- After the welcome the tour is saved, and resumed where nodes that were interrupted start again. -/
theorem museum_restore_capture :
    let saved := run [.tick 0, .continueInput, .tick 0, .tick 0] (ofPackage museum {} .instant).2
    let loaded := (ofPackage museum { scheduling := { restorePolicy := .restart } } .instant).2.restore saved.capture
    loaded.Quiet ∧ loaded.capture =
      [⟨⟨"guide"⟩, ⟨"tour"⟩,
        [⟨⟨"welcome"⟩, .completed⟩, ⟨⟨"gallery"⟩, .notStarted⟩, ⟨⟨"farewell"⟩, .notStarted⟩]⟩] := by
  intro saved loaded
  have proper : museum.Proper := ⟨by decide, by decide, by simp [museum, Runner.Unsubscribed]⟩
  have quiet : saved.Quiet := ⟨by decide +kernel, by decide +kernel, by decide +kernel⟩
  obtain ⟨-, -, same, still⟩ := restore_capture proper {} { scheduling := { restorePolicy := .restart } } .instant
    .instant [.tick 0, .continueInput, .tick 0, .tick 0] (by simp [Operation.FromWorld]) quiet
  exact ⟨still, same.trans (by decide +kernel)⟩

end Plotline.Scene
