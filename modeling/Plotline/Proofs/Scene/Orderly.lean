import Plotline.Proofs.Scene.Conduct
import Plotline.Proofs.Scene.Perform

/-!
What is known of nodes and requests as long as a scene is only played. A node that is in progress without being
active has branched, a complete one can never run again, and whatever is asked for exists.
-/

namespace Plotline.Scene

/-- The last news of the node is that it has branched. -/
def Departing (runner : RunnerId) (node : NodeId) (events : List StoryEvent) : Prop :=
  ∃ board target before after,
    events = before ++ .jumpRequested runner node board target :: after ∧ Silent runner node after

theorem Departing.append {runner : RunnerId} {node : NodeId} {events more : List StoryEvent}
    (departing : Departing runner node events) (silent : Silent runner node more) :
    Departing runner node (events ++ more) := by
  obtain ⟨board, target, before, after, rfl, quiet⟩ := departing
  exact ⟨board, target, before, after ++ more, by simp, quiet.append silent⟩

def Knows (s : Scene) (target : RunnerId × NodeId) : Prop := (s.statusOf? target.1 target.2).isSome = true

instance (s : Scene) : DecidablePred s.Knows := fun _ => inferInstanceAs (Decidable (_ = _))

structure Turn.Orderly (t : Turn) : Prop where
  left : ∀ runner node, t.scene.statusOf? runner node = some .inProgress →
    t.scene.active = some (runner, node) ∨ Departing runner node t.scene.channel.journal.published
  retired : ∀ runner node, t.scene.statusOf? runner node = some .completed → t.scene.repeats runner node = false
  waiting : ∀ request ∈ t.scene.pending, t.scene.Knows (request.runner, request.node)
  called : ∀ target, t.called = some target → t.scene.Knows target

variable {op : Operation} {returning : Prop} {t t' : Turn} {runner : RunnerId} {node : NodeId}

theorem Operation.Plays.follows (plays : op.Plays) (runner : RunnerId) (node : NodeId) : op.Follows runner node := by
  refine ⟨plays.keepsRunners.1 runner, plays.keepsRunners.2, ?_⟩
  rintro event rfl
  apply Silent.of_topics
  intro event' member
  rw [List.mem_singleton.mp member]
  cases event <;> first | exact False.elim plays | exact ⟨nofun, nofun⟩

/-! ### Nodes -/

/-- A node that comes to be known has not started. -/
theorem Step.waiting_of_new (step : Step op returning False t t') (unknown : t.scene.statusOf? runner node = none)
    {status : NodeStatus} (known : t'.scene.statusOf? runner node = some status) : status = .notStarted := by
  cases step.reshaped with
  | same runners =>
      unfold statusOf? runner? at unknown known
      rw [runners, unknown] at known
      cases known
  | @put x y found alike latches runners =>
      rw [statusOf?_of_put found alike runners] at known
      split at known
      · rename_i here
        rw [here, statusOf?_of_runner? found] at unknown
        have gone := alike.known node
        unfold Runner.contains at gone
        rw [known, unknown] at gone
        cases gone
      · rw [unknown] at known
        cases known
  | @joined x y asked fresh new runners =>
      unfold statusOf? at known
      rw [runner?, runners, find?_insertRunner y _ runner (ne_of_runner?_none fresh)] at known
      split at known
      · exact new.waiting node status known
      · rw [statusOf?, runner?] at unknown
        rw [unknown] at known
        cases known
  | @parted gone asked runners =>
      obtain ⟨y, found, known⟩ := Option.bind_eq_some_iff.mp known
      have other : runner ≠ gone := by
        have member := List.mem_of_find?_eq_some found
        rw [runners] at member
        have kept := (List.mem_filter.mp member).2
        rw [id_of_runner? found] at kept
        simpa using kept
      rw [runner?, runners, runner?_filter other] at found
      rw [statusOf?_of_runner? found] at unknown
      rw [known] at unknown
      cases unknown

/-- A node that is active no longer has come to its end, or it has branched. -/
theorem Step.departs (step : Step op returning False t t') (active : t.scene.active = some (runner, node))
    (gone : t'.scene.active ≠ some (runner, node)) (running : t'.scene.statusOf? runner node = some .inProgress) :
    Departing runner node t'.scene.channel.journal.published := by
  have held : ∀ {p : Prop}, t.scene.active = none ∨ False → p := fun free =>
    nomatch active.symm.trans (free.resolve_right id)
  cases step with
  | started free found waiting known program emitted grown opens => exact held free
  | passed free found waiting grown opens => exact held free
  | @finished m r n x rewards i ch triggers active' found program emitted topics grown =>
      cases active.symm.trans active'
      obtain rfl := id_of_runner? found
      exact absurd rfl (inProgress_afterEnd found rfl running).2
  | @branched m r n target board i ch triggers active' program emitted topics grown =>
      cases active.symm.trans active'
      refine ⟨board, target, m.scene.channel.journal.published ++ triggers, [], ?_, .nil⟩
      rw [grown.journal.published, List.append_assoc]
  | orphaned free busy program emitted topics grown => exact held (Or.inl free)
  | _ => exact absurd active gone

private theorem Step.left (step : Step op returning False t t') (plays : op.Plays) (orderly : t.Orderly)
    (running : t'.scene.statusOf? runner node = some .inProgress) :
    t'.scene.active = some (runner, node) ∨ Departing runner node t'.scene.channel.journal.published := by
  cases before : t.scene.statusOf? runner node with
  | none => cases step.waiting_of_new before running
  | some status =>
      obtain ⟨events, ⟨⟨granted, tells⟩, _⟩, conduct⟩ := step.conduct (plays.follows runner node) before
      have ended : t.scene.endStatus runner node ≠ .inProgress := by
        unfold endStatus
        split <;> nofun
      cases conduct with
      | idle silent same active =>
          rcases orderly.left runner node (same.symm.trans running) with executing | departing
          · by_cases still : t'.scene.active = some (runner, node)
            · exact Or.inl still
            · exact Or.inr (step.departs executing still running)
          · rw [tells.published]
            exact Or.inr (departing.append silent)
      | begun waiting after active => exact Or.inl active
      | passed waiting silent after => exact absurd (Option.some.inj (after.symm.trans running)) ended
      | ended was early late after active => exact absurd (Option.some.inj (after.symm.trans running)) ended

private theorem Step.retired (step : Step op returning False t t') (plays : op.Plays) (orderly : t.Orderly)
    (complete : t'.scene.statusOf? runner node = some .completed) : t'.scene.repeats runner node = false := by
  cases before : t.scene.statusOf? runner node with
  | none => cases step.waiting_of_new before complete
  | some status =>
      obtain ⟨x, found, _⟩ := Option.bind_eq_some_iff.mp before
      have same : t'.scene.repeats runner node = t.scene.repeats runner node :=
        Turns.repeats (.single step) (plays.keepsRunners.1 runner) found node
      rw [same]
      have once : t'.scene.statusOf? runner node = some (t.scene.endStatus runner node) →
          t.scene.repeats runner node = false := by
        intro after
        cases again : t.scene.repeats runner node with
        | false => rfl
        | true =>
            rw [endStatus, again] at after
            cases complete.symm.trans after
      obtain ⟨events, ⟨⟨granted, tells⟩, _⟩, conduct⟩ := step.conduct (plays.follows runner node) before
      cases conduct with
      | idle silent same active => exact orderly.retired runner node (same.symm.trans complete)
      | begun waiting after active => cases after.symm.trans complete
      | passed waiting silent after => exact once after
      | ended was early late after active => exact once after

/-! ### Requests -/

theorem Step.knows (step : Step op returning False t t') (plays : op.Plays) {target : RunnerId × NodeId}
    (knows : t.scene.Knows target) : t'.scene.Knows target := by
  obtain ⟨status, known⟩ := Option.isSome_iff_exists.mp knows
  obtain ⟨x, found, _⟩ := Option.bind_eq_some_iff.mp known
  obtain ⟨y, found', alike⟩ := step.alike (plays.keepsRunners.1 target.1) found
  unfold Knows at knows ⊢
  rw [knows_iff found] at knows
  rw [knows_iff found', alike.known]
  exact knows

/-- What waits has waited before, or it was called for. -/
theorem Step.pending (step : Step op returning False t t') (plays : op.Plays) {request : Request}
    (waits : request ∈ t'.scene.pending) :
    request ∈ t.scene.pending ∨ t.called = some (request.runner, request.node) := by
  cases step with
  | queued held =>
      rcases List.mem_append.mp waits with before | last
      · exact Or.inl before
      · rw [List.mem_singleton.mp last]
        exact Or.inr rfl
  | reordered same => exact Or.inl (same.mem_iff.mpr waits)
  | taken releasing free first =>
      refine Or.inl ?_
      dsimp only
      rw [first]
      exact List.mem_cons_of_mem _ waits
  | requested asked =>
      subst asked
      exact False.elim plays
  | parted asked found idle => exact absurd asked (plays.keepsRunners.1 _)
  | forgotten asked => exact absurd asked (plays.keepsRunners.2 _)
  | _ => exact Or.inl waits

/-- What is called for is known, and it waited until then if it was taken up. -/
private theorem Step.called_known (step : Step op returning False t t') (plays : op.Plays) (orderly : t.Orderly)
    {target : RunnerId × NodeId} (called : t'.called = some target) : t.scene.Knows target := by
  cases step with
  | called other known =>
      cases called
      exact known plays
  | @taken m request pending releasing free first =>
      cases called
      have member : request ∈ m.scene.pending := by
        rw [first]
        exact List.mem_cons_self
      exact orderly.waiting request member
  | @delivered m key event rest x y ready j first found made =>
      obtain ⟨node, isReady, rfl⟩ := Option.map_eq_some_iff.mp called
      obtain ⟨rfl, waiting⟩ := Runner.waiting_of_ready made isReady
      unfold Knows
      rw [knows_iff found]
      exact Runner.contains_of_status waiting
  | _ => cases called

theorem Step.orderly (step : Step op returning False t t') (plays : op.Plays) (orderly : t.Orderly) : t'.Orderly := by
  refine ⟨fun runner node => step.left plays orderly, fun runner node => step.retired plays orderly, ?_, ?_⟩
  · intro request waits
    rcases step.pending plays waits with before | called
    · exact step.knows plays (orderly.waiting request before)
    · exact step.knows plays (orderly.called _ called)
  · intro target called
    exact step.knows plays (step.called_known plays orderly called)

end Plotline.Scene
