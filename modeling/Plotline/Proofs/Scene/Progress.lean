import Plotline.Proofs.Scene.Conduct
import Plotline.Proofs.Scene.Perform

/-!
No node is left in progress once its program has ended. A node that is in progress is executing, or it has branched
and the jump that will complete it is on its way.
-/

namespace Plotline.Scene

/-- Nothing is started past the gate, and a restored game starts again what it shows in progress. -/
def Operation.StartsAgain (op : Operation) (s : Scene) : Prop :=
  op.StartsFree s ∧ ∀ entries, op = .restore entries → s.settings.restorePolicy = .restart

/-- In the midst of a tick the jump may have left the queue already, but it is not settled before its origin is no
longer in progress. -/
def Moment.Covered (m : Moment) : Prop :=
  ∀ runner node, m.scene.statusOf? runner node = some .inProgress →
    m.scene.active = some (runner, node) ∨
      ∃ board target, .jumpRequested runner node board target ∈ m.due ++ m.scene.channel.bus.queue

/-! ### Which nodes are in progress after a change -/

section

variable {s s' : Scene} {x : Runner} {node n : NodeId} {r : RunnerId} {ch : Channel}

private theorem inProgress_passed (found : s.runner? x.id = some x) (waiting : x.statusOf? node = some .notStarted)
    (runners : s'.runners = (s.putRunner ((x.setStatus node .inProgress).afterEnd node) s.channel).runners)
    (running : s'.statusOf? r n = some .inProgress) : s.statusOf? r n = some .inProgress := by
  rw [statusOf?_of_put found (passed_alike waiting) runners] at running
  by_cases here : r = x.id
  · rw [if_pos here, Runner.statusOf?_passed waiting] at running
    split at running
    · exact absurd (Option.some.inj running) (x.endStatus_ne_inProgress node)
    · exact (here ▸ statusOf?_of_runner? found n).trans running
  · rwa [if_neg here] at running

private theorem inProgress_started (found : s.runner? x.id = some x) (waiting : x.statusOf? node = some .notStarted)
    (runners : s'.runners = (s.putRunner (x.setStatus node .inProgress) s.channel).runners)
    (running : s'.statusOf? r n = some .inProgress) :
    s.statusOf? r n = some .inProgress ∨ (r, n) = (x.id, node) := by
  have alike := Runner.alike_setStatus (Runner.contains_of_status waiting) .inProgress
  rw [statusOf?_of_put found alike runners] at running
  by_cases here : r = x.id
  · rw [if_pos here, Runner.statusOf?_setStatus] at running
    split at running
    · rename_i same
      exact Or.inr (by rw [here, same])
    · exact Or.inl ((here ▸ statusOf?_of_runner? found n).trans running)
  · rw [if_neg here] at running
    exact Or.inl running

private theorem inProgress_joined {y : Runner} (fresh : s.runner? y.id = none) (new : y.Fresh)
    (running : ({ s with runners := insertRunner y s.runners, channel := ch } : Scene).statusOf? r n =
      some .inProgress) : s.statusOf? r n = some .inProgress := by
  unfold statusOf? at running
  rw [runner?_insertRunner fresh] at running
  split at running
  · cases new.waiting n _ running
  · exact running

private theorem inProgress_parted {id : RunnerId} {pending : List Request}
    (running : ({ s with pending, runners := s.runners.filter (·.id ≠ id), channel := ch } : Scene).statusOf? r n =
      some .inProgress) : s.statusOf? r n = some .inProgress := by
  obtain ⟨y, found, status⟩ := Option.bind_eq_some_iff.mp running
  have other : r ≠ id := by
    have member := List.mem_filter.mp (List.mem_of_find?_eq_some found)
    rw [id_of_runner? found] at member
    simpa using member.2
  have before : s.runner? r = some y := (runner?_filter other).symm.trans found
  exact (statusOf?_of_runner? before n).trans status

private theorem inProgress_restored {entry : SnapshotEntry} {y : Runner} {active : Option NodeId} {j j' : Journal}
    {nodes : List NodeId} (found : s.runner? x.id = some x)
    (made : x.restore entry .restart active j = (nodes, y, j'))
    (runners : s'.runners = (s.putRunner y s.channel).runners) (running : s'.statusOf? r n = some .inProgress) :
    s.statusOf? r n = some .inProgress := by
  rw [statusOf?_of_put found (Runner.restore_made made).1.alike runners] at running
  by_cases here : r = x.id
  · rw [if_pos here] at running
    exact (here ▸ statusOf?_of_runner? found n).trans (Runner.inProgress_of_restore made running)
  · rwa [if_neg here] at running

end

/-! ### One step -/

/-- A node that is in progress after a step is active then, or it has just branched, or nothing has happened to it. -/
private theorem Step.inProgress {op : Operation} {returning : Prop} {t t' : Turn} (step : Step op returning False t t')
    (again : ∀ entries, op = .restore entries → t.scene.settings.restorePolicy = .restart) {r : RunnerId} {n : NodeId}
    (running : t'.scene.statusOf? r n = some .inProgress) :
    t'.scene.active = some (r, n) ∨
      (∃ board target, .jumpRequested r n board target ∈ t'.scene.channel.bus.queue) ∨
        (t.scene.statusOf? r n = some .inProgress ∧ t.scene.active ≠ some (r, n)) := by
  have unmoved : t'.scene.active = t.scene.active → t.scene.statusOf? r n = some .inProgress →
      t'.scene.active = some (r, n) ∨
        (∃ board target, .jumpRequested r n board target ∈ t'.scene.channel.bus.queue) ∨
          (t.scene.statusOf? r n = some .inProgress ∧ t.scene.active ≠ some (r, n)) := by
    intro same before
    by_cases executing : t.scene.active = some (r, n)
    · exact Or.inl (same.trans executing)
    · exact Or.inr (Or.inr ⟨before, executing⟩)
  cases step with
  | started free found waiting known program emitted grown opens =>
      obtain rfl := id_of_runner? found
      rcases inProgress_started found waiting rfl running with before | same
      · exact Or.inr (Or.inr ⟨before, fun executing => nomatch (free.resolve_right id).symm.trans executing⟩)
      · exact Or.inl (congrArg some same.symm)
  | passed free found waiting grown opens =>
      obtain rfl := id_of_runner? found
      exact unmoved (free.resolve_right id).symm (inProgress_passed found waiting rfl running)
  | jammed free busy found waiting grown =>
      obtain rfl := id_of_runner? found
      exact unmoved rfl (inProgress_passed found waiting rfl running)
  | finished active found program emitted topics grown =>
      obtain rfl := id_of_runner? found
      obtain ⟨before, other⟩ := inProgress_afterEnd found rfl running
      exact Or.inr (Or.inr ⟨before, fun executing => other (Option.some.inj (executing.symm.trans active))⟩)
  | @branched m runner node target board i ch triggers active program emitted topics grown =>
      by_cases executing : m.scene.active = some (r, n)
      · cases executing.symm.trans active
        refine Or.inr (Or.inl ⟨board, target, ?_⟩)
        dsimp only
        rw [grown.queue]
        simp
      · exact Or.inr (Or.inr ⟨running, executing⟩)
  | delivered first found made =>
      obtain ⟨alike, statuses, _⟩ := Runner.deliver_made made
      exact unmoved rfl ((statusOf?_putRunner_of_statuses (found_self found) alike statuses _ r n).symm.trans running)
  | cleared found inactive grown => exact unmoved rfl (inProgress_afterEnd found rfl running).1
  | originEnded jump back found grown =>
      obtain rfl := id_of_runner? found
      exact unmoved rfl (inProgress_afterEnd found rfl running).1
  | joined asked fresh made =>
      obtain ⟨_, _, new, _⟩ := Runner.setUp_made made
      exact unmoved rfl (inProgress_joined fresh new running)
  | parted asked found idle => exact unmoved rfl (inProgress_parted running)
  | restored asked member found made =>
      rw [again _ asked] at made
      obtain same := id_of_runner? found
      exact unmoved rfl (inProgress_restored (same.symm ▸ found) made rfl running)
  | _ => exact unmoved rfl running

theorem Step.covered {op : Operation} {returning : Prop} {t t' : Turn} (step : Step op returning False t t')
    (again : ∀ entries, op = .restore entries → t.scene.settings.restorePolicy = .restart) (covered : t.Covered) :
    t'.Covered := by
  intro r n running
  rcases step.inProgress again running with executing | ⟨board, target, jump⟩ | ⟨before, inactive⟩
  · exact Or.inl executing
  · exact Or.inr ⟨board, target, List.mem_append_right _ jump⟩
  · obtain ⟨board, target, jump⟩ := (covered r n before).resolve_left inactive
    rcases step.waits with stays | ⟨event, due, same, settles⟩
    · exact Or.inr ⟨board, target, stays _ jump⟩
    · rw [due] at jump
      rcases List.mem_cons.mp jump with first | later
      · exact absurd before (settles.ended r n board target first.symm)
      · rw [← same] at later
        exact Or.inr ⟨board, target, later⟩

theorem Step.settings {op : Operation} {returning past : Prop} {t t' : Turn} (step : Step op returning past t t') :
    t'.scene.settings = t.scene.settings := by
  cases step <;> rfl

theorem perform_settings {op : Operation} {s : Scene} (coherent : s.Coherent) (startsFree : op.StartsFree s) :
    (op.perform s).settings = s.settings := by
  have steps : Steps op True False ⟨s, [], false⟩ ⟨op.perform s, [], false⟩ :=
    perform_through op coherent startsFree fun _ => trivial
  have keeps : ∀ t t', Step op True False t t' → t.scene.Coherent → t.scene.settings = s.settings →
      t'.scene.settings = s.settings := fun _ _ step _ same => step.settings.trans same
  exact (Turns.keeps keeps steps coherent rfl).2

/-! ### Whole runs -/

theorem perform_covered (op : Operation) (s : Scene) (again : op.StartsAgain s)
    (kept : s.Sound ∧ Moment.Covered ⟨s, [], false⟩) :
    (op.perform s).Sound ∧ Moment.Covered ⟨op.perform s, [], false⟩ := by
  have steps : Steps op True False ⟨s, [], false⟩ ⟨op.perform s, [], false⟩ :=
    perform_through op kept.1.toCoherent again.1 fun _ => trivial
  have keeps : ∀ t t', Step op True False t t' → t.scene.Coherent →
      ((∀ entries, op = .restore entries → t.scene.settings.restorePolicy = .restart) ∧ t.Covered) →
      (∀ entries, op = .restore entries → t'.scene.settings.restorePolicy = .restart) ∧ t'.Covered := by
    intro t t' step _ both
    rw [step.settings]
    exact ⟨both.1, step.covered both.1 both.2⟩
  exact ⟨Turns.sound steps kept.1, (Turns.keeps keeps steps kept.1.toCoherent ⟨again.2, kept.2⟩).2.2⟩

/-- A node that is in progress is executing, or a jump that it has asked for is in the queue. -/
theorem active_or_jump_queued_of_inProgress {s : Scene} (reached : Reached Operation.StartsAgain s)
    {runner : RunnerId} {node : NodeId} (running : s.statusOf? runner node = some .inProgress) :
    s.active = some (runner, node) ∨
      ∃ board target, .jumpRequested runner node board target ∈ s.channel.bus.queue := by
  have kept : s.Sound ∧ Moment.Covered ⟨s, [], false⟩ :=
    reached.keeps (fun settings stage => ⟨empty_sound settings stage, fun _ _ known => nomatch known⟩) perform_covered
  exact kept.2 runner node running

/-- The guard has branched, and a game was restored on the way: the round is in progress although none is active. -/
theorem sentry_jump_queued_of_inProgress : ∃ s, Reached Operation.StartsAgain s ∧
    s.statusOf? ⟨"guard"⟩ ⟨"round"⟩ = some .inProgress ∧ s.active = none ∧
      ∃ board target, .jumpRequested ⟨"guard"⟩ ⟨"round"⟩ board target ∈ s.channel.bus.queue := by
  let settings : Settings := { scheduling := { restorePolicy := .restart } }
  let saved : SnapshotEntry := { runner := ⟨"guard"⟩, storyboard := ⟨"post"⟩, nodes := [⟨⟨"round"⟩, .inProgress⟩] }
  let ops : List Operation := [.register sentry, .restore [saved], .tick 0, .continueInput, .tick 0]
  have reached : Reached Operation.StartsAgain (run ops (empty settings .instant)) :=
    ⟨settings, .instant, ops, ⟨⟨trivial, nofun⟩, ⟨trivial, fun _ _ => rfl⟩, ⟨trivial, nofun⟩, ⟨trivial, nofun⟩,
      ⟨trivial, nofun⟩, trivial⟩, rfl⟩
  have running : (run ops (empty settings .instant)).statusOf? ⟨"guard"⟩ ⟨"round"⟩ = some .inProgress := by
    decide +kernel
  have free : (run ops (empty settings .instant)).active = none := by decide +kernel
  refine ⟨_, reached, running, free, ?_⟩
  rcases active_or_jump_queued_of_inProgress reached running with executing | jump
  · cases free.symm.trans executing
  · exact jump

end Plotline.Scene
