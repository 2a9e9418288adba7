import Plotline.Proofs.Runner.Restoration
import Plotline.Proofs.Scene.Account
import Plotline.Proofs.Scene.Progress
import Plotline.Proofs.Scene.Recapture
import Plotline.Proofs.Scene.Undertaking

/-!
Restoring the same game once more. What the first time has started on its own account is what the second time can find
other than it is recorded.
-/

namespace Plotline.Scene

variable {s s' : Scene} {entries : List SnapshotEntry}

/-- The node of the runner that is executing. -/
def activeOf (s : Scene) (id : RunnerId) : Option NodeId := (s.active.filter (·.1 = id)).map (·.2)

theorem activeOf_eq_some {id : RunnerId} {node : NodeId} : s.activeOf id = some node ↔ s.active = some (id, node) := by
  unfold activeOf
  constructor
  · intro here
    obtain ⟨⟨r, n⟩, filtered, rfl⟩ := Option.map_eq_some_iff.mp here
    obtain ⟨active, same⟩ := Option.filter_eq_some_iff.mp filtered
    rw [active, ← of_decide_eq_true same]
  · exact activeNode_eq

/-- The scenes differ in nothing but remarks in the log. -/
def Remarks (s s' : Scene) : Prop :=
  ∃ j, s.channel.journal.Remarks j ∧ s' = { s with channel := { s.channel with journal := j } }

/-! ### Taking the entries over -/

/-- What one entry makes of its runner, and which nodes are to start by it. -/
private theorem restoreEntry_found {entry : SnapshotEntry} {x : Runner} (found : s.runner? entry.runner = some x)
    (keeps : s.settings.restorePolicy = .keep) (ready : List (RunnerId × NodeId)) :
    ∃ (nodes : List NodeId) (y : Runner) (j : Journal), restoreEntry (ready, s) entry =
        (ready ++ nodes.map (entry.runner, ·), s.putRunner y { s.channel with journal := j }) ∧
      x.Alike y ∧ s.channel.journal.Quiet j ∧ (∀ node ∈ nodes, y.statusOf? node = some .notStarted) ∧
        ∀ node, y.statusOf? node = (x.taken entry .keep (s.activeOf entry.runner)).statuses.get? node := by
  obtain ⟨restored, quiet⟩ := x.restore_spec entry .keep (s.activeOf entry.runner) s.channel.journal
  have taken : ∀ node, (x.restore entry .keep (s.activeOf entry.runner) s.channel.journal).2.1.statusOf? node =
      (x.taken entry .keep (s.activeOf entry.runner)).statuses.get? node :=
    fun node => Runner.statusOf?_restore entry _ node
  refine ⟨(x.restore entry .keep (s.activeOf entry.runner) s.channel.journal).1, _, _, ?_, restored.alike, quiet, ?_,
    taken⟩
  · unfold restoreEntry
    dsimp only
    rw [found]
    dsimp only
    rw [keeps]
    rfl
  · intro node member
    rw [taken]
    exact Runner.waiting_of_restart member

private theorem restoreEntry_missing {entry : SnapshotEntry} (missing : s.runner? entry.runner = none)
    (ready : List (RunnerId × NodeId)) :
    restoreEntry (ready, s) entry = (ready, s.note (.unknownSnapshotRunner entry.runner)) := by
  unfold restoreEntry
  dsimp only
  rw [missing]

/-- What has come of the entries: the statuses that they record, and the nodes that wait to be started by them. -/
private structure Retakes (entries : List SnapshotEntry) (s : Scene) (ready : List (RunnerId × NodeId))
    (s' : Scene) : Prop where
  coherent : s'.Coherent
  active : s'.active = s.active
  published : s'.channel.journal.published = s.channel.journal.published
  waiting : ∀ target ∈ ready, s'.statusOf? target.1 target.2 = some .notStarted
  taken : ∀ entry ∈ entries, ∀ node, s'.statusOf? entry.runner node =
    (s.runner? entry.runner).bind fun x => (x.taken entry .keep (s.activeOf entry.runner)).statuses.get? node
  others : ∀ id, id ∉ entries.map (·.runner) → s'.runner? id = s.runner? id

private theorem Retakes.after_missing {entry : SnapshotEntry} {ready : List (RunnerId × NodeId)}
    (missing : s.runner? entry.runner = none) (other : entry.runner ∉ entries.map (·.runner))
    (rest : Retakes entries (s.note (.unknownSnapshotRunner entry.runner)) ready s') :
    Retakes (entry :: entries) s ready s' := by
  refine ⟨rest.coherent, rest.active, rest.published.trans ?_, rest.waiting, ?_, ?_⟩
  · exact ((Journal.Remarks.refl _).note rfl).published
  · intro e member node
    rcases List.mem_cons.mp member with rfl | among
    · have kept := rest.others e.runner other
      unfold statusOf?
      rw [kept, missing]
      exact congrArg (Option.bind · _) missing
    · exact rest.taken e among node
  · exact fun id unnamed => rest.others id (not_or.mp (List.mem_cons.not.mp unnamed)).2

private theorem Retakes.after_found {entry : SnapshotEntry} {ready : List (RunnerId × NodeId)} {x y : Runner}
    {j : Journal} (found : s.runner? entry.runner = some x) (alike : x.Alike y) (quiet : s.channel.journal.Quiet j)
    (taken : ∀ node, y.statusOf? node = (x.taken entry .keep (s.activeOf entry.runner)).statuses.get? node)
    (other : entry.runner ∉ entries.map (·.runner))
    (rest : Retakes entries (s.putRunner y { s.channel with journal := j }) ready s') :
    Retakes (entry :: entries) s ready s' := by
  have put : ∀ id, (s.putRunner y { s.channel with journal := j }).runner? id =
      if id = entry.runner then some y else s.runner? id := by
    intro id
    rw [runner?_putRunner (found_self found) alike.id, id_of_runner? found]
  refine ⟨rest.coherent, rest.active, rest.published.trans ?_, rest.waiting, ?_, ?_⟩
  · have told := quiet.published
    rwa [List.append_nil] at told
  · intro e member node
    rcases List.mem_cons.mp member with rfl | among
    · have kept := rest.others e.runner other
      unfold statusOf?
      rw [kept, put, if_pos rfl, found]
      exact taken node
    · have different : e.runner ≠ entry.runner := fun equal => other (List.mem_map.mpr ⟨e, among, equal⟩)
      have next := rest.taken e among node
      rwa [put, if_neg different] at next
  · intro id unnamed
    obtain ⟨different, unnamedRest⟩ := not_or.mp (List.mem_cons.not.mp unnamed)
    rw [rest.others id unnamedRest, put, if_neg different]

private theorem restoreEntries_retakes (entries : List SnapshotEntry) (distinct : (entries.map (·.runner)).Nodup)
    (coherent : s.Coherent) (keeps : s.settings.restorePolicy = .keep) (ready : List (RunnerId × NodeId))
    (earlier : ∀ target ∈ ready, target.1 ∉ entries.map (·.runner) ∧
      s.statusOf? target.1 target.2 = some .notStarted) :
    Retakes entries s (entries.foldl restoreEntry (ready, s)).1 (entries.foldl restoreEntry (ready, s)).2 := by
  induction entries generalizing s ready with
  | nil => exact ⟨coherent, rfl, rfl, fun target member => (earlier target member).2, nofun, fun _ _ => rfl⟩
  | cons entry entries ih =>
      obtain ⟨other, distinctRest⟩ := List.nodup_cons.mp distinct
      have later : ∀ target ∈ ready, target.1 ≠ entry.runner ∧ target.1 ∉ entries.map (·.runner) :=
        fun target member => not_or.mp (List.mem_cons.not.mp (earlier target member).1)
      rw [List.foldl_cons]
      cases found : s.runner? entry.runner with
      | none =>
          rw [restoreEntry_missing found]
          have unchanged : (s.note (.unknownSnapshotRunner entry.runner)).Coherent :=
            coherent.of_same coherent.attached coherent.emitted rfl rfl rfl
          exact .after_missing found other (ih distinctRest unchanged keeps ready fun target member =>
            ⟨(later target member).2, (earlier target member).2⟩)
      | some x =>
          obtain ⟨nodes, y, j, made, alike, quiet, waits, taken⟩ := restoreEntry_found found keeps ready
          rw [made]
          have put : (s.putRunner y { s.channel with journal := j }).Coherent :=
            coherent.putRunner (found_self found) alike coherent.attached
          refine .after_found found alike quiet taken other (ih distinctRest put keeps _ ?_)
          intro target member
          rw [statusOf?_putRunner (found_self found) alike.id, id_of_runner? found]
          rcases List.mem_append.mp member with before | new
          · rw [if_neg (later target before).1]
            exact ⟨(later target before).2, (earlier target before).2⟩
          · obtain ⟨node, among, rfl⟩ := List.mem_map.mp new
            rw [if_pos rfl]
            exact ⟨other, waits node among⟩

/-- The scene with the entries taken over, before any node is started by them. -/
def retaken (entries : List SnapshotEntry) (s : Scene) : Scene :=
  let s' := (entries.foldl restoreEntry ([], s)).2
  { s' with pending := s'.pending.filter fun request => s'.Outstanding request }

private theorem starting (ready : List (RunnerId × NodeId)) {b s : Scene}
    (waiting : ∀ target ∈ ready, b.statusOf? target.1 target.2 = some .notStarted) (coherent : s.Coherent)
    (undertakes : Undertakes b s) :
    (ready.foldl startUnlessWaiting s).Coherent ∧ Undertakes b (ready.foldl startUnlessWaiting s) := by
  induction ready generalizing s with
  | nil => exact ⟨coherent, undertakes⟩
  | cons target ready ih =>
      obtain ⟨coherentNext, next⟩ :
          (s.startUnlessWaiting target).Coherent ∧ Undertakes b (s.startUnlessWaiting target) := by
        unfold startUnlessWaiting
        split
        · exact ⟨coherent, undertakes⟩
        · exact undertakes.tryStart coherent (waiting target List.mem_cons_self)
      exact ih (fun other member => waiting other (List.mem_cons_of_mem target member)) coherentNext next

/-- What the entries record is taken over first, and from there nodes are requested. -/
private theorem restore_undertakes (distinct : (entries.map (·.runner)).Nodup) (coherent : s.Coherent)
    (keeps : s.settings.restorePolicy = .keep) :
    ∃ ready, Retakes entries s ready (s.retaken entries) ∧ (s.restore entries).Coherent ∧
      (s.restore entries).Attended ∧ Undertakes (s.retaken entries) (s.restore entries) := by
  have retakes := restoreEntries_retakes entries distinct coherent keeps [] (List.forall_mem_nil _)
  have retaken : Retakes entries s (entries.foldl restoreEntry ([], s)).1 (s.retaken entries) :=
    ⟨retakes.coherent.of_same retakes.coherent.attached retakes.coherent.emitted rfl rfl rfl, retakes.active,
      retakes.published, retakes.waiting, retakes.taken, retakes.others⟩
  have first : Undertakes (s.retaken entries) (s.retaken entries) :=
    .refl fun request member => of_decide_eq_true (List.mem_filter.mp member).2
  obtain ⟨coherentNext, next⟩ := starting _ retaken.waiting retaken.coherent first
  obtain ⟨coherentLast, last⟩ := next.release coherentNext
  exact ⟨_, retaken, coherentLast, release_attended _, last⟩

/-! ### Entries that say what is so already -/

private theorem restoreEntries_agree (entries : List SnapshotEntry) (owned : s.Owned)
    (keeps : s.settings.restorePolicy = .keep) (ready : List (RunnerId × NodeId))
    (agree : ∀ entry ∈ entries, ∀ x, s.runner? entry.runner = some x →
      Runner.Agrees entry (s.activeOf entry.runner) x) :
    ∃ s', entries.foldl restoreEntry (ready, s) = (ready, s') ∧ Remarks s s' := by
  induction entries generalizing s with
  | nil => exact ⟨s, rfl, _, .refl _, rfl⟩
  | cons entry entries ih =>
      have first : ∃ j, restoreEntry (ready, s) entry =
          (ready, { s with channel := { s.channel with journal := j } }) ∧ s.channel.journal.Remarks j := by
        cases found : s.runner? entry.runner with
        | none => exact ⟨_, restoreEntry_missing found ready, (Journal.Remarks.refl _).note rfl⟩
        | some x =>
            obtain ⟨j, made, remarks⟩ :=
              Runner.restore_agrees (agree entry List.mem_cons_self x found) s.channel.journal
            refine ⟨j, ?_, remarks⟩
            unfold restoreEntry
            dsimp only
            rw [found]
            dsimp only
            rw [keeps]
            unfold activeOf at made
            rw [made]
            dsimp only
            rw [List.map_nil, List.append_nil, putRunner_self owned found]
      obtain ⟨j, made, remarks⟩ := first
      obtain ⟨_, others, j', later, rfl⟩ := ih (s := { s with channel := { s.channel with journal := j } }) owned keeps
        fun other member x found => agree other (List.mem_cons_of_mem entry member) x found
      rw [List.foldl_cons, made]
      exact ⟨_, others, j', remarks.trans later, rfl⟩

private theorem restore_agree (coherent : s.Coherent) (keeps : s.settings.restorePolicy = .keep) (attended : s.Attended)
    (outstanding : ∀ request ∈ s.pending, s.Outstanding request)
    (agree : ∀ entry ∈ entries, ∀ x, s.runner? entry.runner = some x →
      Runner.Agrees entry (s.activeOf entry.runner) x) :
    Remarks s (s.restore entries) := by
  obtain ⟨_, made, j, remarks, rfl⟩ := restoreEntries_agree entries coherent.owned keeps [] agree
  refine ⟨j, remarks, ?_⟩
  have all : s.pending.filter (fun request => s.Outstanding request) = s.pending :=
    List.filter_eq_self.mpr fun request member => decide_eq_true (outstanding request member)
  have kept : ({ s with channel := { s.channel with journal := j } } : Scene).release =
      { s with channel := { s.channel with journal := j } } := by
    rcases attended with running | idle
    · exact if_pos running
    · exact release_of_idle idle
  unfold restore
  rw [made]
  dsimp only [List.foldl_nil]
  refine Eq.trans ?_ kept
  exact congrArg (fun pending =>
    ({ s with channel := { s.channel with journal := j }, pending } : Scene).release) all

/-! ### Once and again -/

/-- What the entries make of a node that they list and the scene knows, unless it is active. -/
private theorem Retakes.recorded {ready : List (RunnerId × NodeId)} (retakes : Retakes entries s ready s')
    (nodes : ∀ entry ∈ entries, (entry.nodes.map (·.node)).Nodup) {entry : SnapshotEntry} (among : entry ∈ entries)
    {state : NodeState} (listed : state ∈ entry.nodes) (known : s'.statusOf? entry.runner state.node ≠ none)
    (inactive : s.active ≠ some (entry.runner, state.node)) :
    s'.statusOf? entry.runner state.node = some state.status := by
  have taken := retakes.taken entry among state.node
  rw [taken] at known ⊢
  cases found : s.runner? entry.runner with
  | none =>
      rw [found] at known
      exact absurd rfl known
  | some x =>
      rw [found] at known
      rw [Option.bind_some] at known ⊢
      rw [Runner.get?_taken] at known ⊢
      have contained : x.contains state.node = true := by
        by_contra missing
        rw [if_neg fun both => missing both.1] at known
        exact missing (Option.isSome_iff_ne_none.mpr known)
      have other : some state.node ≠ s.activeOf entry.runner := fun same => inactive (activeOf_eq_some.mp same.symm)
      rw [if_pos ⟨contained, other⟩, Runner.recorded_of_mem (nodes entry among) listed]
      rfl

/-- If what is taken over leads to remarks alone, it is what the scene shows already. -/
private theorem Retakes.unchanged {ready : List (RunnerId × NodeId)} {b : Scene} (retakes : Retakes entries s ready b)
    (undertakes : Undertakes b s') (remarks : Remarks s s') (runner : RunnerId) (node : NodeId) :
    b.statusOf? runner node = s.statusOf? runner node := by
  obtain ⟨j, said, rfl⟩ := remarks
  have silent : ¬ b.HasBegun { s with channel := { s.channel with journal := j } } runner node := by
    rintro ⟨board, member⟩
    unfold since at member
    rw [retakes.published, said.published, List.drop_length] at member
    cases member
  exact (undertakes.untouched runner node silent).symm

/-- The entries tell of each node what it shows by now, unless it has been completed on their account. -/
private theorem Retakes.agree {ready : List (RunnerId × NodeId)} {b : Scene} (retakes : Retakes entries s ready b)
    (undertakes : Undertakes b s') (nodes : ∀ entry ∈ entries, (entry.nodes.map (·.node)).Nodup)
    (uncompleted : ∀ runner node, b.HasBegun s' runner node → ¬ (s'.statusOf? runner node = some .completed ∧
      ∃ entry ∈ entries, entry.runner = runner ∧ ⟨node, .notStarted⟩ ∈ entry.nodes)) :
    ∀ entry ∈ entries, ∀ x, s'.runner? entry.runner = some x → Runner.Agrees entry (s'.activeOf entry.runner) x := by
  intro entry among x found state listed known inactive
  have status := statusOf?_of_runner? found state.node
  have here : s'.statusOf? entry.runner state.node ≠ none := status ▸ Option.isSome_iff_ne_none.mp known
  have free : s.active ≠ some (entry.runner, state.node) := by
    intro active
    have held := undertakes.held (by rw [isEventRunning, retakes.active, active]; rfl)
    exact inactive (activeOf_eq_some.mpr (held.trans (retakes.active.trans active))).symm
  rw [← status]
  rcases Classical.em (b.HasBegun s' entry.runner state.node) with started | idle
  · -- such a node was recorded as waiting, and it has gone through its run by now and waits again
    have waited := undertakes.waited _ _ started
    have recorded := retakes.recorded nodes among listed (waited ▸ Option.some_ne_none _) free
    have same : state.status = .notStarted := Option.some.inj (recorded.symm.trans waited)
    cases now : s'.statusOf? entry.runner state.node with
    | none => exact absurd now here
    | some current =>
        cases current with
        | notStarted => rw [same]
        | inProgress =>
            exact absurd (activeOf_eq_some.mpr ((undertakes.running _ _ started).mp now)).symm inactive
        | completed =>
            refine absurd ⟨now, entry, among, rfl, ?_⟩ (uncompleted _ _ started)
            rw [← same]
            exact listed
  · rw [undertakes.untouched _ _ idle] at here ⊢
    exact retakes.recorded nodes among listed here free

/-- Restoring the same game a second time leaves the scene as it is, except for remarks in the log, exactly if by now
no node that the first time has started is completed although the entries record that it waits, and no request waits
for a node that has started. -/
theorem restore_restore_iff (reached : Reached (fun _ _ => True) s) (keeps : s.settings.restorePolicy = .keep)
    (runners : (entries.map (·.runner)).Nodup) (nodes : ∀ entry ∈ entries, (entry.nodes.map (·.node)).Nodup) :
    Remarks (s.restore entries) ((s.restore entries).restore entries) ↔
      (∀ runner board node, .nodeStarted runner board node ∈ (Operation.restore entries).engineEvents s →
        ¬ ((s.restore entries).statusOf? runner node = some .completed ∧
          ∃ entry ∈ entries, entry.runner = runner ∧ ⟨node, .notStarted⟩ ∈ entry.nodes)) ∧
      ∀ request ∈ (s.restore entries).pending, (s.restore entries).Outstanding request := by
  have coherent : s.Coherent :=
    reached.keeps (fun settings stage => (empty_sound settings stage).toCoherent) fun op s _ => perform_coherent op s
  have settings : ((Operation.restore entries).perform s).settings = s.settings := perform_settings coherent trivial
  have keepsOnce : (s.restore entries).settings.restorePolicy = .keep :=
    (congrArg SchedulingSettings.restorePolicy settings).trans keeps
  obtain ⟨_, retakes, coherentOnce, attended, undertakes⟩ := restore_undertakes runners coherent keeps
  obtain ⟨_, retakesOnce, _, _, undertakesOnce⟩ := restore_undertakes runners coherentOnce keepsOnce
  have begun : ∀ runner node, (s.retaken entries).HasBegun (s.restore entries) runner node ↔
      ∃ board, .nodeStarted runner board node ∈ (Operation.restore entries).engineEvents s := by
    intro runner node
    unfold HasBegun since
    rw [retakes.published]
    rfl
  constructor
  · intro remarks
    have status := retakesOnce.unchanged undertakesOnce remarks
    constructor
    · rintro runner board node started ⟨completed, entry, among, rfl, listed⟩
      have inactive : (s.restore entries).active ≠ some (entry.runner, node) := by
        intro active
        have running := (undertakes.running _ _ ((begun _ _).mpr ⟨board, started⟩)).mpr active
        cases completed.symm.trans running
      have recorded := retakesOnce.recorded nodes among listed (status _ _ ▸ completed ▸ Option.some_ne_none _) inactive
      cases completed.symm.trans ((status _ _).symm.trans recorded)
    · intro request member
      have kept : request ∈ ((s.restore entries).restore entries).pending := by
        obtain ⟨j, _, same⟩ := remarks
        rw [same]
        exact member
      exact (status _ _).symm.trans (undertakesOnce.asked request kept)
  · rintro ⟨uncompleted, outstanding⟩
    refine restore_agree coherentOnce keepsOnce attended outstanding (retakes.agree undertakes nodes ?_)
    intro runner node started
    obtain ⟨board, started⟩ := (begun runner node).mp started
    exact uncompleted runner board node started

/-- A notary who seals once the oath is sworn. -/
private def notary (sealing : Program) : Runner :=
  .ofDefinition
    { id := ⟨"notary"⟩
      storyboard :=
        { name := ⟨"office"⟩
          nodes :=
            [{ id := ⟨"oath"⟩, program := { instructions := [.dialogue "C" "I swear." none] } },
             { id := ⟨"seal"⟩, conditions := [{ kind := .previousNodeCompleted ⟨"oath"⟩ }], program := sealing }] } }

/-- The oath is sworn, and nothing is sealed yet. -/
private def sworn : SnapshotEntry :=
  { runner := ⟨"notary"⟩, storyboard := ⟨"office"⟩, nodes := [⟨⟨"oath"⟩, .completed⟩, ⟨⟨"seal"⟩, .notStarted⟩] }

/-- While the notary speaks on sealing, the seal that restoring has started is left in peace. -/
theorem notary_restore_restore : ∃ s, Reached (fun _ _ => True) s ∧ s.settings.restorePolicy = .keep ∧
    ([sworn].map (·.runner)).Nodup ∧ (∀ entry ∈ [sworn], (entry.nodes.map (·.node)).Nodup) ∧
      (Operation.restore [sworn]).engineEvents s = [.nodeStarted ⟨"notary"⟩ ⟨"office"⟩ ⟨"seal"⟩] ∧
        Remarks (s.restore [sworn]) ((s.restore [sworn]).restore [sworn]) := by
  let ops : List Operation := [.register (notary { instructions := [.dialogue "C" "Sealed." none] })]
  have reached : Reached (fun _ _ => True) (run ops (empty {} .instant)) :=
    ⟨{}, .instant, ops, obeys_of_forall ops _ fun _ _ => trivial, rfl⟩
  have runners : ([sworn].map (·.runner)).Nodup := by decide
  have nodes : ∀ entry ∈ [sworn], (entry.nodes.map (·.node)).Nodup := by decide
  have started : (Operation.restore [sworn]).engineEvents (run ops (empty {} .instant)) =
      [.nodeStarted ⟨"notary"⟩ ⟨"office"⟩ ⟨"seal"⟩] := by
    decide +kernel
  refine ⟨_, reached, rfl, runners, nodes, started, (restore_restore_iff reached rfl runners nodes).mpr ⟨?_, ?_⟩⟩
  · intro runner board node member
    rw [started] at member
    cases List.mem_singleton.mp member
    decide +kernel
  · decide +kernel

/-- Where the seal has no program it is completed on the spot, and restoring again seals again. -/
theorem notary_restore_reseals :
    let s := run [.register (notary {})] (empty {} .instant)
    Reached (fun _ _ => True) s ∧ s.settings.restorePolicy = .keep ∧ ([sworn].map (·.runner)).Nodup ∧
      (∀ entry ∈ [sworn], (entry.nodes.map (·.node)).Nodup) ∧
        (s.restore [sworn]).statusOf? ⟨"notary"⟩ ⟨"seal"⟩ = some .completed ∧
          (Operation.restore [sworn]).engineEvents (s.restore [sworn]) =
            [.nodeStarted ⟨"notary"⟩ ⟨"office"⟩ ⟨"seal"⟩, .nodeCompleted ⟨"notary"⟩ ⟨"office"⟩ ⟨"seal"⟩,
             .programFinished ⟨"notary"⟩ ⟨"seal"⟩ []] := by
  intro s
  have reached : Reached (fun _ _ => True) s :=
    ⟨{}, .instant, [.register (notary {})], obeys_of_forall _ _ fun _ _ => trivial, rfl⟩
  exact ⟨reached, rfl, by decide, by decide, by decide +kernel, by decide +kernel⟩

end Plotline.Scene
