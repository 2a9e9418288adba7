import Plotline.Proofs.Scene.Account
import Plotline.Proofs.Scene.Conduct

/-!
A node that is not repeatable runs at most once. As long as its runner stays and no game is restored it only comes
forward, from waiting over running to complete, and each of the two moves is made known exactly once. Whatever asks
for it afterwards asks in vain.
-/

namespace Plotline

namespace NodeStatus

/-- How often a node has begun between the two statuses. -/
def begins (old new : NodeStatus) : Nat := if old = .notStarted ∧ new ≠ .notStarted then 1 else 0

/-- How often a node has been completed between the two statuses. -/
def completions (old new : NodeStatus) : Nat := if old ≠ .completed ∧ new = .completed then 1 else 0

end NodeStatus

namespace Scene

/-- The node has come forward from one status to another. Each start and each completion is made known, and it has
not become active unless it was still to start. -/
structure Passage (runner : RunnerId) (node : NodeId) (old new : NodeStatus) (events : List StoryEvent)
    (s s' : Scene) : Prop where
  status : s'.statusOf? runner node = some new
  forward : old.number ≤ new.number
  starts : events.countP (·.starts runner node) = old.begins new
  completes : events.countP (·.completes runner node) = old.completions new
  active : s'.active = some (runner, node) → s.active = some (runner, node) ∨ old = .notStarted

variable {runner : RunnerId} {node : NodeId} {old mid new : NodeStatus} {events more : List StoryEvent}
  {s s' s'' : Scene}

private theorem begins_trans (first : old.number ≤ mid.number) (last : mid.number ≤ new.number) :
    old.begins mid + mid.begins new = old.begins new := by
  cases old <;> cases mid <;> cases new <;> first | rfl | (simp [NodeStatus.number] at first last)

private theorem completions_trans (first : old.number ≤ mid.number) (last : mid.number ≤ new.number) :
    old.completions mid + mid.completions new = old.completions new := by
  cases old <;> cases mid <;> cases new <;> first | rfl | (simp [NodeStatus.number] at first last)

private theorem waiting_of_le (forward : old.number ≤ mid.number) (waiting : mid = .notStarted) :
    old = .notStarted := by
  subst waiting
  cases old <;> first | rfl | (simp [NodeStatus.number] at forward)

theorem Passage.trans (first : Passage runner node old mid events s s')
    (last : Passage runner node mid new more s' s'') : Passage runner node old new (events ++ more) s s'' where
  status := last.status
  forward := Nat.le_trans first.forward last.forward
  starts := by rw [List.countP_append, first.starts, last.starts, begins_trans first.forward last.forward]
  completes := by
    rw [List.countP_append, first.completes, last.completes, completions_trans first.forward last.forward]
  active executing := by
    rcases last.active executing with before | waiting
    · exact first.active before
    · exact Or.inr (waiting_of_le first.forward waiting)

theorem Passage.refl (status : s.statusOf? runner node = some old) : Passage runner node old old [] s s := by
  refine ⟨status, Nat.le_refl _, ?_, ?_, Or.inl⟩ <;> cases old <;> rfl

private theorem counts_of_silent (silent : Silent runner node events) :
    events.countP (·.starts runner node) = 0 ∧ events.countP (·.completes runner node) = 0 := by
  rw [List.countP_eq_zero, List.countP_eq_zero]
  constructor
  · intro event member
    simp [(silent event member).1]
  · intro event member
    simp [(silent event member).2]

/-- A node that is not repeatable passes on in whatever happens to it. -/
theorem Conduct.passage (conduct : Conduct runner node s s' events) (once : s.repeats runner node = false)
    (status : s.statusOf? runner node = some old) : ∃ new, Passage runner node old new events s s' := by
  have ended : s.endStatus runner node = .completed := by rw [endStatus, once]; rfl
  cases conduct with
  | idle silent same active =>
      obtain ⟨starts, completes⟩ := counts_of_silent silent
      refine ⟨old, same.trans status, Nat.le_refl _, starts.trans ?_, completes.trans ?_,
        fun is => Or.inl (active is)⟩ <;>
        cases old <;> rfl
  | begun waiting after active =>
      cases status.symm.trans waiting
      exact ⟨.inProgress, after, by decide, by simp [NodeStatus.begins], by simp [NodeStatus.completions],
        fun _ => Or.inr rfl⟩
  | passed waiting silent after =>
      cases status.symm.trans waiting
      obtain ⟨starts, completes⟩ := counts_of_silent silent
      rw [ended] at after
      refine ⟨.completed, after, by decide, ?_, ?_, fun _ => Or.inr rfl⟩
      · simp [NodeStatus.begins, starts]
      · simp [NodeStatus.completions, completes]
  | ended running early late after active =>
      cases status.symm.trans running
      obtain ⟨startsEarly, completesEarly⟩ := counts_of_silent early
      obtain ⟨startsLate, completesLate⟩ := counts_of_silent late
      rw [ended] at after
      refine ⟨.completed, after, by decide, ?_, ?_, fun is => Or.inl (active is)⟩
      · simp [NodeStatus.begins, startsEarly, startsLate]
      · simp [NodeStatus.completions, completesEarly, completesLate]

/-! ### Operations -/

theorem Turns.passage {op : Operation} {returning past : Prop} {t t' : Turn} (turns : Turns op returning past t t')
    (follows : op.Follows runner node) (once : t.scene.repeats runner node = false)
    (status : t.scene.statusOf? runner node = some old) :
    ∃ events granted new, t.scene.channel.journal.Tells events granted t'.scene.channel.journal ∧
      Passage runner node old new events t.scene t'.scene := by
  induction turns with
  | refl => exact ⟨[], [], old, .refl _, .refl status⟩
  | @tail t' t'' earlier last ih =>
      obtain ⟨events, granted, mid, tells, passage⟩ := ih
      have onceStill : t'.scene.repeats runner node = false := by
        obtain ⟨x, found, _⟩ := Option.bind_eq_some_iff.mp status
        exact (Turns.repeats earlier follows.stays found node).trans once
      obtain ⟨more, ⟨⟨grantedMore, tellsMore⟩, _⟩, conduct⟩ := last.conduct follows passage.status
      obtain ⟨new, passageMore⟩ := conduct.passage onceStill passage.status
      exact ⟨_, _, new, tells.trans tellsMore, passage.trans passageMore⟩

/-- No game is restored, and the runner is still there afterwards. -/
def Operation.Spares (runner : RunnerId) (op : Operation) (s : Scene) : Prop :=
  (∀ entries, op ≠ .restore entries) ∧ ((op.perform s).runner? runner).isSome = true

/-- A runner that was to be taken out and is still there was spared by a refusal, which is no more than a note. -/
private theorem unregister_spared (spared : ((s.unregister runner).2.runner? runner).isSome = true) :
    ∃ n : Note, n.isPlain = true ∧ (s.unregister runner).2 = s.note n := by
  unfold unregister at spared ⊢
  cases found : s.runner? runner with
  | none => exact ⟨_, rfl, rfl⟩
  | some x =>
      rw [found] at spared
      dsimp only at spared ⊢
      cases here : s.active.filter (·.1 = runner) with
      | some active => exact ⟨_, rfl, rfl⟩
      | none =>
          rw [here] at spared
          have still : ((s.runners.filter (·.id ≠ runner)).find? (·.id = runner)).isSome = true := spared
          simp at still

theorem perform_passage (op : Operation) (coherent : s.Coherent) (spares : op.Spares runner s)
    (once : s.repeats runner node = false) (status : s.statusOf? runner node = some old) :
    ∃ new, Passage runner node old new (op.engineEvents s) s (op.perform s) := by
  by_cases host : ∃ event, op = .publish event
  · obtain ⟨event, rfl⟩ := host
    rw [publish_engineEvents coherent]
    exact ⟨old, { Passage.refl status with }⟩
  · have notHost : ∀ event, op ≠ .publish event := fun event same => host ⟨event, same⟩
    by_cases gone : op = .unregister runner
    · subst gone
      obtain ⟨n, plain, noted⟩ := unregister_spared spares.2
      have same : (Operation.unregister runner).perform s = s.note n := noted
      have tells : s.channel.journal.Tells [] [] ((Operation.unregister runner).perform s).channel.journal := by
        rw [same]
        exact (Journal.note_quiet plain s.channel.journal).toTells
      rw [engineEvents_of_tells notHost tells, same]
      exact ⟨old, { Passage.refl status with }⟩
    · have follows : op.Follows runner node :=
        ⟨gone, spares.1, fun event asked => absurd asked (notHost event)⟩
      have steps : Steps op True True ⟨s, [], false⟩ ⟨op.perform s, [], false⟩ :=
        perform_steps op coherent (fun _ => trivial) fun _ => trivial
      obtain ⟨events, granted, new, tells, passage⟩ := Turns.passage steps follows once status
      rw [engineEvents_of_tells notHost tells]
      exact ⟨new, passage⟩

/-! ### Whole runs -/

theorem perform_repeats (node : NodeId) (op : Operation) (coherent : s.Coherent) (spares : op.Spares runner s)
    (known : ∃ x, s.runner? runner = some x) :
    (op.perform s).repeats runner node = s.repeats runner node := by
  obtain ⟨x, found⟩ := known
  by_cases gone : op = .unregister runner
  · subst gone
    obtain ⟨n, _, noted⟩ := unregister_spared spares.2
    exact congrArg (·.repeats runner node) noted
  · have steps : Steps op True True ⟨s, [], false⟩ ⟨op.perform s, [], false⟩ :=
      perform_steps op coherent (fun _ => trivial) fun _ => trivial
    exact Turns.repeats steps gone found node

theorem run_passage (ops : List Operation) (coherent : s.Coherent) (spares : Obeys (Operation.Spares runner) ops s)
    (once : s.repeats runner node = false) (status : s.statusOf? runner node = some old) :
    ∃ new, Passage runner node old new (engineEvents ops s) s (run ops s) := by
  induction ops generalizing s old with
  | nil => exact ⟨old, .refl status⟩
  | cons op ops ih =>
      obtain ⟨x, found, _⟩ := Option.bind_eq_some_iff.mp status
      obtain ⟨mid, first⟩ := perform_passage op coherent spares.1 once status
      have onceStill := (perform_repeats node op coherent spares.1 ⟨x, found⟩).trans once
      obtain ⟨new, rest⟩ := ih (perform_coherent op s coherent) spares.2 onceStill first.status
      exact ⟨new, first.trans rest⟩

/-- As long as its runner stays and no game is restored, a node that is not repeatable only comes forward. That it
starts and that it is complete is made known exactly when it comes to be so, thus once at most; and once it has
started, nothing makes it active that has left it inactive. -/
theorem runs_at_most_once {s : Scene} (reached : Reached (fun _ _ => True) s) {runner : RunnerId} {node : NodeId}
    {x : Runner} {d : Node} (found : s.runner? runner = some x) (first : x.storyboard.node? node = some d)
    (once : d.isRepeatable = false) (ops : List Operation) (spares : Obeys (Operation.Spares runner) ops s) :
    ∃ old new, s.statusOf? runner node = some old ∧ (run ops s).statusOf? runner node = some new ∧
      old.number ≤ new.number ∧
      (engineEvents ops s).countP (·.starts runner node) = (if old = .notStarted ∧ new ≠ .notStarted then 1 else 0) ∧
      (engineEvents ops s).countP (·.completes runner node) = (if old ≠ .completed ∧ new = .completed then 1 else 0) ∧
      ((run ops s).active = some (runner, node) → s.active = some (runner, node) ∨ old = .notStarted) := by
  have coherent : s.Coherent :=
    reached.keeps (fun settings stage => (empty_sound settings stage).toCoherent) fun op s _ => perform_coherent op s
  have listed := coherent.listed_of_found found
  have never : s.repeats runner node = false := by
    rw [repeats_of_runner? found, Runner.repeats, listed.node?, first]
    exact once
  obtain ⟨old, status⟩ : ∃ old, s.statusOf? runner node = some old := by
    rw [statusOf?_of_runner? found, ← Option.isSome_iff_exists]
    exact (listed node).trans (congrArg Option.isSome first)
  obtain ⟨new, passage⟩ := run_passage ops coherent spares never status
  exact ⟨old, new, status, passage.status, passage.forward, passage.starts, passage.completes, passage.active⟩

/-- A clerk who takes the oath once. -/
def clerk : Runner :=
  .ofDefinition
    { id := ⟨"clerk"⟩
      storyboard :=
        { name := ⟨"office"⟩
          nodes := [{ id := ⟨"oath"⟩, program := { instructions := [.dialogue "C" "I swear." none] } }] } }

/-- The oath is asked for again while it is taken, and afterwards by a start past the gate and by a jump. -/
theorem clerk_runs_at_most_once :
    let s := run [.register clerk] (empty {} .instant)
    let ops : List Operation :=
      [.trigger ⟨"clerk"⟩ ⟨"oath"⟩, .trigger ⟨"clerk"⟩ ⟨"oath"⟩, .tick 0, .continueInput, .tick 0,
        .start ⟨"clerk"⟩ ⟨"oath"⟩, .publish (.jumpRequested ⟨"clerk"⟩ ⟨"oath"⟩ ⟨"office"⟩ ⟨"oath"⟩), .tick 0]
    Obeys (Operation.Spares ⟨"clerk"⟩) ops s ∧ s.statusOf? ⟨"clerk"⟩ ⟨"oath"⟩ = some .notStarted ∧
      (run ops s).statusOf? ⟨"clerk"⟩ ⟨"oath"⟩ = some .completed ∧
      (engineEvents ops s).countP (·.starts ⟨"clerk"⟩ ⟨"oath"⟩) = 1 ∧
      (engineEvents ops s).countP (·.completes ⟨"clerk"⟩ ⟨"oath"⟩) = 1 := by
  intro s ops
  have spares : Obeys (Operation.Spares ⟨"clerk"⟩) ops s :=
    ⟨⟨nofun, by decide +kernel⟩, ⟨nofun, by decide +kernel⟩, ⟨nofun, by decide +kernel⟩, ⟨nofun, by decide +kernel⟩,
      ⟨nofun, by decide +kernel⟩, ⟨nofun, by decide +kernel⟩, ⟨nofun, by decide +kernel⟩, ⟨nofun, by decide +kernel⟩,
      trivial⟩
  have reached : Reached (fun _ _ => True) s := ⟨{}, .instant, [.register clerk], ⟨trivial, trivial⟩, rfl⟩
  have before : s.statusOf? ⟨"clerk"⟩ ⟨"oath"⟩ = some .notStarted := by decide +kernel
  have after : (run ops s).statusOf? ⟨"clerk"⟩ ⟨"oath"⟩ = some .completed := by decide +kernel
  obtain ⟨x, found⟩ : ∃ x, s.runner? ⟨"clerk"⟩ = some x := ⟨_, rfl⟩
  obtain ⟨d, first, once⟩ : ∃ d, x.storyboard.node? ⟨"oath"⟩ = some d ∧ d.isRepeatable = false := by
    cases found
    exact ⟨_, rfl, rfl⟩
  obtain ⟨old, new, isOld, isNew, _, starts, completes, _⟩ := runs_at_most_once reached found first once ops spares
  rw [before] at isOld
  rw [after] at isNew
  cases isOld
  cases isNew
  exact ⟨spares, before, after, starts, completes⟩

end Scene

end Plotline
