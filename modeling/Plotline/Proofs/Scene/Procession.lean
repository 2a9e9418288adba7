import Plotline.Proofs.Scene.Enrolment
import Plotline.Proofs.Scene.Intrusion

/-!
The order in which requests are released. Sorting them afresh for each, with a release in the midst of another for every
empty program, comes to the same as going once through the requests in their order; and neither the order in which they
are stored nor that in which the runners came has a part in it.
-/

namespace Plotline

/-! ### Requests that are due -/

namespace Outlook

/-- The node has not started, and there is something in it to run. -/
def Due (o : Outlook) (target : RunnerId × NodeId) : Prop :=
  o.statusOf target.1 target.2 = some .notStarted ∧
    ∃ program, o.programOf target.1 target.2 = some program ∧ program.isEmpty = false

variable {jams : Prop} {o o' : Outlook} {runner : RunnerId} {node : NodeId} {taken : List Request}
  {events : List StoryEvent}

private theorem not_due_of_empty {program : Program} (known : o.programOf runner node = some program)
    (empty : program.isEmpty = true) : ¬ o.Due (runner, node) := by
  rintro ⟨-, other, same, filled⟩
  cases known.symm.trans same
  cases empty.symm.trans filled

private theorem due_marked {target : RunnerId × NodeId} (other : target ≠ (runner, node)) (status : NodeStatus) :
    (o.marked runner node status).Due target ↔ o.Due target := by
  have same : (o.marked runner node status).statusOf target.1 target.2 = o.statusOf target.1 target.2 := if_neg other
  unfold Due
  rw [same]
  rfl

/-- Whether a node is due is not changed by what becomes of another. -/
private theorem Fate.due_iff (fate : Fate jams o runner node events o') {target : RunnerId × NodeId}
    (other : target ≠ (runner, node)) : o'.Due target ↔ o.Due target := by
  cases fate with
  | passedOver => exact Iff.rfl
  | ended | jammed | begun => exact due_marked other _

/-- While a program is loaded a node that is due finds it in its way. -/
private theorem Fate.not_due (fate : Fate False o runner node events o') (busy : o.interpreter.program ≠ none) :
    ¬ o.Due (runner, node) := by
  cases fate with
  | passedOver unready => exact fun due => unready due.1
  | ended _ known empty => exact not_due_of_empty known empty
  | jammed jam => cases jam
  | begun _ _ _ idle => exact absurd idle busy

theorem Course.none_due (course : Course False o taken events o') (free : o.active = none)
    (busy : o.interpreter.program ≠ none) : ∀ request ∈ o.pending, ¬ o.Due request.target := by
  induction course with
  | rests settled =>
      have none := settled.resolve_left (by simp [free])
      simp [none]
  | @takes o o' o'' request rest taken events more _ first fate course ih =>
      have ends := fate.ends free busy
      have later := ih ends.active (ends.interpreter.symm ▸ busy)
      rw [fate.pending] at later
      intro other member due
      by_cases same : other.target = request.target
      · exact fate.not_due busy (same ▸ due :)
      · have rested : other ∈ rest := by
          rw [first] at member
          exact (List.mem_cons.mp member).resolve_left fun equal => same (congrArg Request.target equal)
        exact later other rested ((fate.due_iff same).mpr due)

/-- Where no request is due, nothing can be in the way of any. -/
theorem Course.smooth (course : Course jams o taken events o') (none : ∀ request ∈ o.pending, ¬ o.Due request.target) :
    Course False o taken events o' := by
  induction course with
  | rests settled => exact .rests settled
  | @takes o o' o'' request rest taken events more free first fate course ih =>
      have rested : ∀ other ∈ o'.pending, other.target ≠ request.target → ¬ o'.Due other.target := by
        intro other member different
        rw [fate.pending] at member
        rw [fate.due_iff different]
        exact none other (first ▸ List.mem_cons_of_mem request member)
      cases fate with
      | passedOver unready =>
          refine .takes free first (.passedOver unready) (ih fun other member => ?_)
          exact none other (first ▸ List.mem_cons_of_mem request member)
      | ended waiting known empty home =>
          refine .takes free first (.ended waiting known empty home) (ih fun other member => ?_)
          by_cases same : other.target = request.target
          · rw [same]
            exact not_due_of_empty known empty
          · exact rested other member same
      | jammed jam waiting known filled busy home =>
          exact absurd ⟨waiting, _, known, filled⟩ (none request (first ▸ List.mem_cons_self))
      | begun waiting known filled idle home =>
          refine .takes free first (.begun waiting known filled idle home) ?_
          cases course with
          | rests settled => exact .rests settled
          | takes busy => cases busy

end Outlook

namespace Scene

variable {s t : Scene}

/-! ### Numbers -/

/-- The requests that wait have different numbers, and new ones will have others. -/
structure Numbered (s : Scene) : Prop where
  distinct : (s.pending.map Request.sequence).Nodup
  given : ∀ request ∈ s.pending, request.sequence < s.nextSequence

namespace Numbered

theorem enqueue (numbered : s.Numbered) (runner : RunnerId) (node : NodeId) : (s.enqueue runner node).Numbered := by
  constructor
  · unfold Scene.enqueue
    dsimp only
    rw [List.map_append, List.nodup_append]
    refine ⟨numbered.distinct, List.nodup_singleton _, ?_⟩
    rintro number member _ last rfl
    obtain ⟨request, waiting, rfl⟩ := List.mem_map.mp member
    have below := numbered.given request waiting
    have new : request.sequence = s.nextSequence := List.mem_singleton.mp last
    omega
  · intro request member
    rcases List.mem_append.mp member with earlier | last
    · exact Nat.lt_succ_of_lt (numbered.given request earlier)
    · rw [List.mem_singleton.mp last]
      exact Nat.lt_succ_self _

theorem of_perm (numbered : s.Numbered) {pending : List Request} (same : s.pending.Perm pending) :
    Numbered { s with pending } :=
  ⟨(same.map _).nodup_iff.mp numbered.distinct, fun request member => numbered.given request (same.mem_iff.mpr member)⟩

theorem of_sublist (numbered : s.Numbered) (fewer : t.pending.Sublist s.pending)
    (next : t.nextSequence = s.nextSequence) : t.Numbered :=
  ⟨(fewer.map _).nodup numbered.distinct, fun request member => next ▸ numbered.given request (fewer.subset member)⟩

end Numbered

theorem Step.numbered {op : Operation} {returning past : Prop} {u u' : Turn} (step : Step op returning past u u')
    (numbered : u.scene.Numbered) : u'.scene.Numbered := by
  cases step with
  | queued held => exact numbered.enqueue _ _
  | requested asked => exact numbered.enqueue _ _
  | reordered same => exact numbered.of_perm same
  | taken releasing free first => exact numbered.of_sublist (first ▸ List.sublist_cons_self _ _) rfl
  | parted asked found idle => exact numbered.of_sublist List.filter_sublist rfl
  | forgotten asked => exact numbered.of_sublist List.filter_sublist rfl
  | _ => exact ⟨numbered.distinct, numbered.given⟩

theorem Turns.numbered {op : Operation} {returning past : Prop} {u u' : Turn} (turns : Turns op returning past u u')
    (numbered : u.scene.Numbered) : u'.scene.Numbered := by
  induction turns with
  | refl => exact numbered
  | tail _ last ih => exact last.numbered ih

theorem perform_numbered (op : Operation) (s : Scene) (kept : s.Coherent ∧ s.Numbered) :
    (op.perform s).Coherent ∧ (op.perform s).Numbered := by
  have steps : Steps op True True ⟨s, [], false⟩ ⟨op.perform s, [], false⟩ :=
    perform_steps op kept.1 (fun _ => trivial) fun _ => trivial
  exact ⟨Turns.coherent steps kept.1, Turns.numbered steps kept.2⟩

theorem empty_numbered (settings : Settings) (stage : Stage) :
    (empty settings stage).Coherent ∧ (empty settings stage).Numbered :=
  ⟨(empty_sound settings stage).toCoherent, List.nodup_nil, nofun⟩

theorem reached_numbered (reached : Reached (fun _ _ => True) s) : s.Coherent ∧ s.Numbered :=
  @Reached.keeps _ (fun s => s.Coherent ∧ s.Numbered) s reached empty_numbered fun op s _ => perform_numbered op s

/-! ### The order -/

/-- The first request is to be released before the second: its runner has the smaller priority, or it came first. -/
def Precedes (s : Scene) (a b : Request) : Prop :=
  s.priorityOf a.runner < s.priorityOf b.runner ∨
    s.priorityOf a.runner = s.priorityOf b.runner ∧ a.sequence < b.sequence

theorem releaseOrder_precedes (numbered : s.Numbered) : s.releaseOrder.Pairwise s.Precedes := by
  have distinct : s.releaseOrder.Pairwise fun a b => a.sequence ≠ b.sequence :=
    List.pairwise_map.mp ((s.releaseOrder_perm.map Request.sequence).nodup_iff.mp numbered.distinct)
  refine (s.releaseOrder_ordered.and distinct).imp ?_
  rintro a b ⟨before, different⟩
  rw [goesBefore_iff] at before
  unfold Precedes
  omega

/-- The order is determined by the requests and the priorities. -/
theorem releaseOrder_unique (numbered : s.Numbered) (numbered' : t.Numbered) (same : s.pending.Perm t.pending)
    (priorities : t.priorityOf = s.priorityOf) : t.releaseOrder = s.releaseOrder := by
  have precedes : t.releaseOrder.Pairwise s.Precedes := by
    have strict := releaseOrder_precedes numbered'
    unfold Precedes at strict ⊢
    rwa [priorities] at strict
  have perm : t.releaseOrder.Perm s.releaseOrder :=
    (t.releaseOrder_perm.symm.trans same.symm).trans s.releaseOrder_perm
  refine perm.eq_of_pairwise ?_ precedes (releaseOrder_precedes numbered)
  intro a b _ _ before behind
  unfold Precedes at before behind
  omega

theorem release_of_free (free : s.active = none) : s.release = releaseAll s.releaseOrder s :=
  if_neg (by simp [isEventRunning, free])

/-- It does not matter in which order the requests are stored. -/
theorem release_reordered (numbered : s.Numbered) {pending : List Request} (same : s.pending.Perm pending)
    (free : s.active = none) : release { s with pending } = s.release := by
  have order : releaseOrder { s with pending } = s.releaseOrder :=
    releaseOrder_unique numbered (numbered.of_perm same) same rfl
  rw [release_of_free free, release_of_free (s := { s with pending }) free, order, releaseAll_pending]

/-! ### Sorting afresh -/

/-- Releases the request that is first at the moment, and so on for as many rounds as are given. A node whose program is
empty releases the next request itself before the round is over. -/
def releaseAfresh : Nat → Scene → Scene
  | 0, s => s
  | rounds + 1, s =>
    if s.isEventRunning then s
    else
      match s.releaseOrder with
      | [] => s
      | request :: rest =>
        let (begun, s) := ({ s with pending := rest }.note (.releasing request.runner request.node request.sequence)).beginNode
          request.runner request.node
        releaseAfresh rounds (if begun = .ended then releaseAfresh rounds s else s)

private theorem releaseOrder_of_none (none : s.pending = []) : s.releaseOrder = [] := by
  unfold releaseOrder
  rw [none, List.foldr_nil]

/-- A list that is in order already is gone through as it is. -/
private theorem releaseAll_pending_eq (ordered : s.releaseOrder = s.pending) : releaseAll s.pending s = s.release := by
  unfold release
  split
  · rename_i running
    exact releaseAll_of_running running s.pending
  · rw [ordered]

theorem release_of_attended (attended : s.Attended) : s.release = s := by
  rcases attended with running | none
  · exact if_pos running
  · have ordered : s.releaseOrder = s.pending := (releaseOrder_of_none none).trans none.symm
    rw [← releaseAll_pending_eq ordered, none, releaseAll, ← none]

private theorem releaseAfresh_of_attended (rounds : Nat) (attended : s.Attended) : s.releaseAfresh rounds = s := by
  cases rounds with
  | zero => rfl
  | succ rounds =>
      rcases attended with running | none
      · exact if_pos running
      · rw [releaseAfresh, releaseOrder_of_none none]
        split <;> rfl

/-- Once the first request has been taken up, the others are in order. -/
private theorem releaseOrder_takeUp {request : Request} {rest : List Request}
    (order : s.releaseOrder = request :: rest) : (s.takeUp request rest).releaseOrder = rest := by
  have priorities := takeUp_priorityOf request rest s
  have ordered : (s.takeUp request rest).Ordered rest := by
    have whole := s.releaseOrder_ordered
    rw [order] at whole
    unfold Ordered goesBefore at whole ⊢
    rw [priorities]
    exact (List.pairwise_cons.mp whole).2
  unfold releaseOrder
  rw [takeUp_pending]
  exact inOrder_of_ordered ordered

/-- The release goes on when its first request has been taken up. -/
theorem release_takeUp (free : s.active = none) {request : Request} {rest : List Request}
    (order : s.releaseOrder = request :: rest) : (s.takeUp request rest).release = s.release := by
  have waiting := takeUp_pending request rest s
  have ordered := (releaseOrder_takeUp order).trans waiting.symm
  rw [← releaseAll_pending_eq ordered, waiting, release_of_free free, order,
    releaseAll_of_free (by simp [isEventRunning, free])]

/-- With enough rounds, sorting afresh each time makes no difference. -/
theorem releaseAfresh_eq (rounds : Nat) (coherent : s.Coherent) (enough : s.pending.length ≤ rounds) :
    s.releaseAfresh rounds = s.release := by
  induction rounds generalizing s with
  | zero =>
      have none : s.pending = [] := List.eq_nil_of_length_eq_zero (Nat.le_zero.mp enough)
      exact (release_of_attended (.inr none)).symm
  | succ rounds ih =>
      by_cases running : s.isEventRunning = true
      · rw [releaseAfresh_of_attended _ (.inl running), release_of_attended (.inl running)]
      · have free : s.active = none := by simpa [isEventRunning] using running
        cases order : s.releaseOrder with
        | nil =>
            have none : s.pending = [] := (order ▸ s.releaseOrder_perm).eq_nil
            rw [releaseAfresh_of_attended _ (.inr none), release_of_attended (.inr none)]
        | cons request rest =>
            have next : (s.takeUp request rest).Coherent := takeUp_coherent coherent request rest
            have fewer : (s.takeUp request rest).pending.length ≤ rounds := by
              have all := s.releaseOrder_perm.length_eq
              rw [order, List.length_cons] at all
              rw [takeUp_pending]
              omega
            have inner := ih next fewer
            -- a node whose program was empty has released all that can be released by then
            have outer := releaseAfresh_of_attended rounds (release_attended (s.takeUp request rest))
            have round (begun : Begun) : releaseAfresh rounds
                (if begun = .ended then releaseAfresh rounds (s.takeUp request rest) else s.takeUp request rest) =
                  (s.takeUp request rest).release := by
              split
              · rw [inner, outer]
              · exact inner
            rw [releaseAfresh, if_neg running, order, ← release_takeUp free order]
            exact round _

/-! ### The release as a whole -/

/-- The order of the requests in which the outlook of a scene lets them be released. -/
def lineup (s : Scene) : Outlook := { s.outlook with pending := s.releaseOrder }

/-- Requests are released in the order of priorities and then of arrival. Those that are taken up are a beginning of that
order, and all but the last have come to nothing or to their end. -/
structure Procession (s : Scene) (taken : List Request) (events : List StoryEvent) : Prop where
  complete : s.pending.Perm s.releaseOrder
  sorted : s.releaseOrder.Pairwise s.Precedes
  course : s.lineup.Course (s.interpreter.program ≠ none) taken events s.release.outlook
  smooth : s.lineup.Course False taken events s.release.outlook ↔
    s.interpreter.program = none ∨ ∀ request ∈ s.pending, ¬ s.outlook.Due request.target
  recounts : Recounts taken events s.channel s.release.channel
  rest : s.releaseOrder = taken ++ s.release.pending
  last : ∀ target, s.release.active = some target →
    ∃ earlier request, taken = earlier ++ [request] ∧ target = request.target
  spent : s.release.active = none → s.release.pending = []
  afresh : ∀ rounds, s.pending.length ≤ rounds → s.releaseAfresh rounds = s.release
  stored : ∀ pending, s.pending.Perm pending → release { s with pending } = s.release
  likewise : ∀ t, Reached (fun _ _ => True) t → t.outlook = s.outlook →
    t.release.outlook = s.release.outlook ∧ Recounts taken events t.channel t.release.channel
  registered : ∀ xs ys : List Runner, xs.Perm ys → (xs.map (·.id)).Nodup → (∀ x ∈ xs, s.runner? x.id = none) →
    (run (xs.map .register) s).release.outlook = (run (ys.map .register) s).release.outlook

private theorem lineup_eq (numbered : s.Numbered) (numbered' : t.Numbered) (same : t.outlook = s.outlook) :
    t.lineup = s.lineup := by
  have pending : t.pending = s.pending := congrArg Outlook.pending same
  have priorities : t.priorityOf = s.priorityOf := congrArg Outlook.priorityOf same
  have order := releaseOrder_unique numbered numbered' (pending ▸ .refl _) priorities
  unfold lineup
  rw [same, order]

/-- Scenes with one outlook release their requests in one way. -/
private theorem release_alike {jams : Prop} (coherent : t.Coherent) (numbered : s.Numbered) (numbered' : t.Numbered)
    (same : t.outlook = s.outlook) (free : s.active = none) (left : s.interpreter.program ≠ none → jams)
    {taken : List Request} {events : List StoryEvent} (course : s.lineup.Course jams taken events s.release.outlook) :
    t.release.outlook = s.release.outlook ∧ Recounts taken events t.channel t.release.channel := by
  have free' : t.active = none := (congrArg Outlook.active same).trans free
  have interpreter : t.interpreter = s.interpreter := congrArg Outlook.interpreter same
  obtain ⟨taken', events', course', recounts⟩ := release_course coherent free' (interpreter.symm ▸ left)
  have course' : t.lineup.Course jams taken' events' t.release.outlook := course'
  rw [lineup_eq numbered numbered' same] at course'
  obtain ⟨rfl, rfl, outlook⟩ := course'.unique course
  exact ⟨outlook, recounts⟩

theorem release_outlook_eq (reached : Reached (fun _ _ => True) s) (reached' : Reached (fun _ _ => True) t)
    (same : t.outlook = s.outlook) : t.release.outlook = s.release.outlook := by
  obtain ⟨coherent, numbered⟩ := reached_numbered reached
  obtain ⟨coherent', numbered'⟩ := reached_numbered reached'
  cases active : s.active with
  | none =>
      obtain ⟨taken, events, course, -⟩ := release_course coherent active fun _ => trivial
      exact (release_alike coherent' numbered numbered' same active (fun _ => trivial) course).1
  | some target =>
      have running : s.isEventRunning = true := Option.isSome_iff_exists.mpr ⟨target, active⟩
      have running' : t.isEventRunning = true := (congrArg (·.active.isSome) same :).trans running
      rw [release_of_attended (.inl running), release_of_attended (.inl running'), same]

private theorem smooth_iff (free : s.active = none) {taken : List Request} {events : List StoryEvent}
    (course : s.lineup.Course (s.interpreter.program ≠ none) taken events s.release.outlook) :
    s.lineup.Course False taken events s.release.outlook ↔
      s.interpreter.program = none ∨ ∀ request ∈ s.pending, ¬ s.outlook.Due request.target := by
  constructor
  · intro smooth
    by_cases idle : s.interpreter.program = none
    · exact .inl idle
    · exact .inr fun request member => smooth.none_due free idle request (s.releaseOrder_perm.mem_iff.mp member)
  · rintro (idle | none)
    · exact course.mono fun busy => busy idle
    · exact course.smooth fun request member => none request (s.releaseOrder_perm.mem_iff.mpr member)

/-- A scene in which no node is active releases the requests that wait in their order. -/
theorem released_in_order (reached : Reached (fun _ _ => True) s) (free : s.active = none) :
    ∃ taken events, s.Procession taken events := by
  obtain ⟨coherent, numbered⟩ := reached_numbered reached
  obtain ⟨taken, events, course, recounts⟩ := release_course coherent free id
  have course : s.lineup.Course (s.interpreter.program ≠ none) taken events s.release.outlook := course
  refine ⟨taken, events, ?_⟩
  exact
    { complete := s.releaseOrder_perm
      sorted := releaseOrder_precedes numbered
      course
      smooth := smooth_iff free course
      recounts
      rest := course.taken_append
      last := fun target active => course.last free active
      spent := fun still => course.settled.resolve_left (by simp [outlook, still])
      afresh := fun rounds enough => releaseAfresh_eq rounds coherent enough
      stored := fun pending same => release_reordered numbered same free
      likewise := fun t reached' same =>
        release_alike (reached_numbered reached').1 numbered (reached_numbered reached').2 same free id course
      registered := fun xs ys same distinct fresh =>
        release_outlook_eq (reached.further _) (reached.further _) (enrolled_outlook same distinct fresh) }

/-- The bow is over as soon as it is made, the farce is on, and the tragedy goes on waiting. -/
theorem troupe_released_in_order : ∃ s taken events, Reached (fun _ _ => True) s ∧ s.active = none ∧
    s.Procession taken events ∧ taken.map Request.node = [⟨"bow"⟩, ⟨"farce"⟩] ∧
      s.release.active = some (⟨"troupe"⟩, ⟨"farce"⟩) ∧ s.release.pending.map Request.node = [⟨"tragedy"⟩] := by
  let ops : List Operation :=
    [.register troupe, .enqueue ⟨"troupe"⟩ ⟨"bow"⟩, .enqueue ⟨"troupe"⟩ ⟨"farce"⟩, .enqueue ⟨"troupe"⟩ ⟨"tragedy"⟩]
  let s := run ops (empty {} .instant)
  have reached : Reached (fun _ _ => True) s := reached_run ops {} .instant
  have free : s.active = none := by decide +kernel
  obtain ⟨taken, events, procession⟩ := released_in_order reached free
  have order : s.releaseOrder.map Request.node = [⟨"bow"⟩, ⟨"farce"⟩, ⟨"tragedy"⟩] := by decide +kernel
  have left : s.release.pending.map Request.node = [⟨"tragedy"⟩] := by decide +kernel
  rw [procession.rest, List.map_append, left] at order
  have split : taken.map Request.node ++ [⟨"tragedy"⟩] = [⟨"bow"⟩, ⟨"farce"⟩] ++ [⟨"tragedy"⟩] := order
  exact ⟨s, taken, events, reached, free, procession, List.append_cancel_right split, by decide +kernel, left⟩

/-- It is not true that whatever is released comes to nothing, has an empty program, or runs: after a node that was
started past the gate, the farce and the tragedy are over without having been played. -/
theorem farce_and_tragedy_unplayed : ∃ s, Reached (fun _ _ => True) s ∧ s.active = none ∧
    (∃ first second, s.releaseOrder = [first, second] ∧ s.outlook.Due first.target ∧ s.outlook.Due second.target) ∧
      s.release.active = none ∧ s.release.pending = [] ∧
        ¬ ∃ taken events, s.lineup.Course False taken events s.release.outlook := by
  let ops : List Operation :=
    [.register troupe, .trigger ⟨"troupe"⟩ ⟨"prologue"⟩, .start ⟨"troupe"⟩ ⟨"bow"⟩, .enqueue ⟨"troupe"⟩ ⟨"farce"⟩,
     .enqueue ⟨"troupe"⟩ ⟨"tragedy"⟩]
  let s := run ops (empty {} .instant)
  have reached : Reached (fun _ _ => True) s := reached_run ops {} .instant
  have order : s.releaseOrder = [⟨⟨"troupe"⟩, ⟨"farce"⟩, 0⟩, ⟨⟨"troupe"⟩, ⟨"tragedy"⟩, 1⟩] := by decide +kernel
  have free : s.active = none := by decide +kernel
  have busy : s.interpreter.program ≠ none := by decide +kernel
  have farce : s.outlook.Due (⟨"troupe"⟩, ⟨"farce"⟩) :=
    ⟨by decide +kernel, { instructions := [.dialogue "A" "Ha!" none] }, by decide +kernel, rfl⟩
  have tragedy : s.outlook.Due (⟨"troupe"⟩, ⟨"tragedy"⟩) :=
    ⟨by decide +kernel, { instructions := [.dialogue "A" "Alas!" none] }, by decide +kernel, rfl⟩
  refine ⟨s, reached, free, ⟨_, _, order, farce, tragedy⟩, by decide +kernel, by decide +kernel, ?_⟩
  rintro ⟨taken, events, smooth⟩
  have first : (⟨⟨"troupe"⟩, ⟨"farce"⟩, 0⟩ : Request) ∈ s.lineup.pending := by
    rw [lineup, order]
    exact List.mem_cons_self
  exact smooth.none_due free busy _ first farce

end Scene

end Plotline
