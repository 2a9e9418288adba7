import Plotline.Proofs.Interpreter.Heedless
import Plotline.Proofs.Runner.Echo
import Plotline.Proofs.Scene.Order

/-!
Scenes that differ in the log, and in requests that are made in vain. Such a request is for a node that is spent: it is
dropped in silence when it is released, so that whatever is done to both scenes has the same effect.
-/

namespace Plotline.Scene

variable {s s' s'' : Scene}

/-- The node that is requested is spent. -/
def Vain (s : Scene) (request : Request) : Prop := ∃ x ∈ s.runner? request.runner, x.Spent request.node

instance (s : Scene) : DecidablePred s.Vain := fun request =>
  inferInstanceAs (Decidable (∃ x ∈ s.runner? request.runner, x.Spent request.node))

/-- The requests that are not made in vain. -/
def live (s : Scene) (requests : List Request) : List Request := requests.filter fun request => ¬ s.Vain request

/-- Where more is in vain, requests that are live are the same if they were before. -/
private theorem live_of_vain (still : ∀ request, s.Vain request → s'.Vain request) {requests requests' : List Request}
    (same : s.live requests' = s.live requests) : s'.live requests' = s'.live requests := by
  have narrowed : ∀ list, s'.live (s.live list) = s'.live list := by
    intro list
    unfold live
    rw [List.filter_filter]
    apply List.filter_congr
    intro request _
    by_cases vain : s.Vain request
    · simp [still request vain]
    · simp [vain]
  rw [← narrowed requests', same, narrowed]

private theorem live_tail {request : Request} {rest rest' : List Request}
    (same : s.live (request :: rest') = s.live (request :: rest)) : s.live rest' = s.live rest := by
  unfold live at same ⊢
  rw [List.filter_cons, List.filter_cons] at same
  split at same
  · exact (List.cons.inj same).2
  · exact same

/-- A request that can be left out was made in vain. -/
private theorem vain_of_dropped {request : Request} {rest : List Request} {kept : Request → Bool}
    (dropped : kept request = false) (same : s.live (rest.filter kept) = s.live (request :: rest)) :
    s.Vain request := by
  by_contra lives
  have member : request ∈ s.live (request :: rest) := by simp [live, lives]
  rw [← same] at member
  have keep : kept request = true := (List.mem_filter.mp (List.mem_filter.mp member).1).2
  cases dropped.symm.trans keep

/-- The requests of a runner that is taken out go with it. -/
private theorem live_filter {gone : RunnerId} (parted : s'.runners = s.runners.filter (·.id ≠ gone))
    (requests : List Request) :
    s'.live (requests.filter (·.runner ≠ gone)) = (s.live requests).filter (·.runner ≠ gone) := by
  unfold live
  rw [List.filter_filter, List.filter_filter]
  apply List.filter_congr
  intro request _
  by_cases same : request.runner = gone
  · simp [same]
  · have looked : s'.runner? request.runner = s.runner? request.runner := by
      unfold runner?
      rw [parted]
      exact runner?_filter same
    have vain : s'.Vain request ↔ s.Vain request := by
      unfold Vain
      rw [looked]
    simp [same, vain]

/-- The scenes differ in remarks and in requests that are made in vain, and in nothing else. -/
structure Echoes (s s' : Scene) : Prop where
  owned : s.Owned
  heedless : s.stage.Heedless
  settings : s'.settings = s.settings
  stage : s'.stage = s.stage
  interpreter : s'.interpreter = s.interpreter
  channel : s.channel.Echoes s'.channel
  runners : s'.runners = s.runners
  live : s.live s'.pending = s.live s.pending
  nextSequence : s'.nextSequence = s.nextSequence
  active : s'.active = s.active
  kickstarted : s'.kickstarted = s.kickstarted

namespace Echoes

variable {runner : RunnerId} {node : NodeId}

theorem refl (owned : s.Owned) (heedless : s.stage.Heedless) : s.Echoes s :=
  ⟨owned, heedless, rfl, rfl, rfl, .refl _, rfl, rfl, rfl, rfl, rfl⟩

theorem runner? (echoes : s.Echoes s') (id : RunnerId) : s'.runner? id = s.runner? id := by
  unfold Scene.runner?
  rw [echoes.runners]

private theorem sameLive (echoes : s.Echoes s') : s'.live = s.live := by
  have vain : ∀ request, s'.Vain request ↔ s.Vain request := by
    intro request
    unfold Vain
    rw [echoes.runner?]
  unfold Scene.live
  simp only [vain]

theorem symm (echoes : s.Echoes s') : s'.Echoes s where
  owned := by
    unfold Owned Scene.runner?
    rw [echoes.runners]
    exact echoes.owned
  heedless := by
    rw [echoes.stage]
    exact echoes.heedless
  settings := echoes.settings.symm
  stage := echoes.stage.symm
  interpreter := echoes.interpreter.symm
  channel := echoes.channel.symm
  runners := echoes.runners.symm
  live := by
    rw [echoes.sameLive]
    exact echoes.live.symm
  nextSequence := echoes.nextSequence.symm
  active := echoes.active.symm
  kickstarted := echoes.kickstarted.symm

theorem trans (first : s.Echoes s') (last : s'.Echoes s'') : s.Echoes s'' where
  owned := first.owned
  heedless := first.heedless
  settings := last.settings.trans first.settings
  stage := last.stage.trans first.stage
  interpreter := last.interpreter.trans first.interpreter
  channel := first.channel.trans last.channel
  runners := last.runners.trans first.runners
  live := by
    have same := last.live
    rw [first.sameLive] at same
    exact same.trans first.live
  nextSequence := last.nextSequence.trans first.nextSequence
  active := last.active.trans first.active
  kickstarted := last.kickstarted.trans first.kickstarted

theorem isEventRunning (echoes : s.Echoes s') : s'.isEventRunning = s.isEventRunning := by
  unfold Scene.isEventRunning
  rw [echoes.active]

theorem statusOf? (echoes : s.Echoes s') (runner : RunnerId) (node : NodeId) :
    s'.statusOf? runner node = s.statusOf? runner node := by
  unfold Scene.statusOf?
  rw [echoes.runner?]

/-! ### Small changes -/

theorem withChannel (echoes : s.Echoes s') {ch ch' : Channel} (told : ch.Echoes ch') :
    Echoes { s with channel := ch } { s' with channel := ch' } :=
  { echoes with channel := told }

theorem note (echoes : s.Echoes s') (n : Note) : (s.note n).Echoes (s'.note n) :=
  echoes.withChannel (echoes.channel.note n)

theorem withPending (echoes : s.Echoes s') {pending pending' : List Request} (same : s.live pending' = s.live pending) :
    Echoes { s with pending } { s' with pending := pending' } :=
  { echoes with live := same }

theorem withActive (echoes : s.Echoes s') (active : Option (RunnerId × NodeId)) :
    Echoes { s with active } { s' with active } :=
  { echoes with active := rfl }

theorem enqueue (echoes : s.Echoes s') (runner : RunnerId) (node : NodeId) :
    (s.enqueue runner node).Echoes (s'.enqueue runner node) := by
  have live : s.live (s'.pending ++ [⟨runner, node, s.nextSequence⟩]) =
      s.live (s.pending ++ [⟨runner, node, s.nextSequence⟩]) := by
    have same := echoes.live
    unfold Scene.live at same ⊢
    rw [List.filter_append, List.filter_append, same]
  unfold Scene.enqueue
  rw [echoes.nextSequence]
  exact { echoes with live, nextSequence := rfl, channel := echoes.channel.note _ }

/-- The same runner is put in both scenes; it has aged. -/
theorem putRunner (echoes : s.Echoes s') {x y : Runner} (found : s.runner? x.id = some x) (ages : x.Ages y)
    {ch ch' : Channel} (told : ch.Echoes ch') : (s.putRunner y ch).Echoes (s'.putRunner y ch') := by
  have still : ∀ request, s.Vain request → (s.putRunner y ch).Vain request := by
    rintro request ⟨z, looked, spent⟩
    by_cases here : request.runner = x.id
    · rw [here, found] at looked
      cases looked
      exact ⟨y, by rw [here, runner?_putRunner_self found ages.id ch]; rfl, ages.spent _ spent⟩
    · exact ⟨z, by rw [runner?_putRunner found ages.id, if_neg here]; exact looked, spent⟩
  have runners : (s'.putRunner y ch').runners = (s.putRunner y ch).runners := by
    unfold Scene.putRunner
    rw [echoes.runners]
  exact
    { echoes with
      owned := echoes.owned.putRunner found ages.id ch
      channel := told
      runners
      live := live_of_vain still echoes.live }

/-! ### Nodes -/

theorem completeNode (echoes : s.Echoes s') (runner : RunnerId) (node : NodeId) :
    (s.completeNode runner node).Echoes (s'.completeNode runner node) := by
  have looked := echoes.runner? runner
  cases found : s.runner? runner with
  | none =>
      rw [found] at looked
      rw [Scene.completeNode, Scene.completeNode, found, looked]
      exact echoes
  | some x =>
      rw [found] at looked
      obtain rfl := id_of_runner? found
      rw [completeNode_found found, completeNode_found looked]
      exact echoes.putRunner found (x.afterEnd_ages node) (x.completeNode_echoes node echoes.channel)

theorem close (echoes : s.Echoes s') (runner : RunnerId) (node : NodeId) (rewards : List Reward) :
    (s.close runner node rewards).Echoes (s'.close runner node rewards) := by
  have ended := (echoes.withActive none).completeNode runner node
  unfold Scene.close
  dsimp only
  split
  · exact ended.withChannel (ended.channel.publish _)
  · exact ended.withChannel ((ended.channel.cue _).publish _)

theorem beginNode (echoes : s.Echoes s') (runner : RunnerId) (node : NodeId) :
    ∃ begun t t', s.beginNode runner node = (begun, t) ∧ s'.beginNode runner node = (begun, t') ∧ t.Echoes t' := by
  unfold Scene.beginNode
  rw [echoes.runner?]
  cases found : s.runner? runner with
  | none => exact ⟨_, _, _, rfl, rfl, echoes.note _⟩
  | some x =>
      obtain rfl := id_of_runner? found
      obtain ⟨program, y, ch, ch', begun, begun', told⟩ := x.beginNode_echoes node echoes.channel
      have ages := x.beginNode_ages node s.channel
      rw [begun] at ages
      have put := echoes.putRunner found ages told
      dsimp only
      rw [begun, begun']
      cases program with
      | none => exact ⟨_, _, _, rfl, rfl, put⟩
      | some program =>
          dsimp only
          split
          · exact ⟨_, _, _, rfl, rfl, (put.note _).close _ _ _⟩
          · rw [put.interpreter]
            obtain ⟨result, i, k, k', started, started', toldStart⟩ :=
              Interpreter.start_echoes program (s.putRunner y ch).interpreter put.channel.journal
            rw [started, started']
            have loaded : Echoes
                { s.putRunner y ch with interpreter := i, channel := { (s.putRunner y ch).channel with journal := k } }
                { s'.putRunner y ch' with
                  interpreter := i, channel := { (s'.putRunner y ch').channel with journal := k' } } :=
              { put.withChannel (put.channel.withJournal toldStart) with interpreter := rfl }
            cases result with
            | ok _ => exact ⟨_, _, _, rfl, rfl, loaded.withActive _⟩
            | error error => exact ⟨_, _, _, rfl, rfl, (loaded.note _).completeNode _ _⟩

/-! ### Releasing -/

/-- A request in vain begins nothing. -/
private theorem refused_of_vain (echoes : s.Echoes s') {request : Request} (vain : s.Vain request) :
    Echoes (s.beginNode request.runner request.node).2 s' := by
  obtain ⟨x, found, spent⟩ := vain
  obtain ⟨n, remark, refused⟩ := spent.refused s.channel
  have same : (s.beginNode request.runner request.node).2 = s.note n := by
    unfold Scene.beginNode
    rw [show s.runner? request.runner = some x from found]
    dsimp only
    rw [refused]
    exact putRunner_self echoes.owned found _
  rw [same]
  have noted : Channel.Echoes (s.channel.note n) s.channel := ⟨rfl, (Journal.note_echoes remark _).symm⟩
  exact { echoes with channel := noted.trans echoes.channel }

private theorem takeUp (echoes : s.Echoes s') (request : Request) {rest rest' : List Request}
    (same : s.live rest' = s.live rest) : (s.takeUp request rest).Echoes (s'.takeUp request rest') := by
  obtain ⟨begun, t, t', begins, begins', next⟩ :=
    ((echoes.withPending same).note (.releasing request.runner request.node request.sequence)).beginNode
      request.runner request.node
  unfold Scene.takeUp
  rw [begins, begins']
  exact next

/-- It makes no difference whether a request in vain is taken up. -/
private theorem takeUp_vain (echoes : s.Echoes s') {request : Request} (vain : s.Vain request)
    {rest rest' : List Request} (same : s.live rest' = s.live rest) :
    (s.takeUp request rest).Echoes { s' with pending := rest' } := by
  have remarked : Channel.Echoes
      (s.channel.note (.releasing request.runner request.node request.sequence)) s.channel :=
    ⟨rfl, (Journal.note_echoes rfl _).symm⟩
  have noted : Echoes
      ({ s with pending := rest }.note (.releasing request.runner request.node request.sequence))
      { s' with pending := rest' } :=
    { echoes.withPending same with channel := remarked.trans echoes.channel }
  exact noted.refused_of_vain vain

/-- Requests in vain may be left out before the others are released. -/
private theorem releaseAll (requests : List Request) (kept : Request → Bool) (echoes : s.Echoes s')
    (same : s.live (requests.filter kept) = s.live requests) :
    (Scene.releaseAll requests s).Echoes (Scene.releaseAll (requests.filter kept) s') := by
  induction requests generalizing s s' with
  | nil => exact echoes.withPending rfl
  | cons request rest ih =>
      by_cases running : s.isEventRunning = true
      · rw [releaseAll_of_running running, releaseAll_of_running (echoes.isEventRunning.trans running)]
        exact echoes.withPending same
      · rw [releaseAll_of_free running]
        cases keep : kept request with
        | true =>
            rw [List.filter_cons_of_pos keep] at same ⊢
            have sameRest := live_tail same
            have next := echoes.takeUp request sameRest
            -- more may be in vain by now; that the rests still agree is what `next` says of the pending requests
            have live := next.live
            rw [takeUp_pending, takeUp_pending] at live
            rw [releaseAll_of_free (by rwa [echoes.isEventRunning])]
            exact ih next live
        | false =>
            rw [List.filter_cons_of_neg (by simp [keep])] at same ⊢
            have vain : s.Vain request := vain_of_dropped keep same
            have sameRest : s.live (rest.filter kept) = s.live rest := by
              simpa [Scene.live, vain] using same
            have next := echoes.takeUp_vain vain sameRest
            have live := next.live
            rw [takeUp_pending] at live
            rw [← releaseAll_pending (rest.filter kept) s' (rest.filter kept)]
            exact ih next live

private theorem insertRequest (echoes : s.Echoes s') : s'.insertRequest = s.insertRequest := by
  have before : s'.goesBefore = s.goesBefore := by
    funext a b
    unfold goesBefore priorityOf
    simp only [echoes.runner?]
  funext request requests
  induction requests with
  | nil => rfl
  | cons other requests ih => rw [Scene.insertRequest, Scene.insertRequest, before, ih]

theorem release (echoes : s.Echoes s') : s.release.Echoes s'.release := by
  unfold Scene.release
  rw [echoes.isEventRunning]
  split
  · exact echoes
  · have ordered : s.live s'.releaseOrder = s.live s.releaseOrder := by
      have placed : s'.releaseOrder = s.inOrder s'.pending := by
        unfold releaseOrder
        rw [echoes.insertRequest]
        rfl
      have sorted : ∀ requests, s.live (s.inOrder requests) = s.inOrder (s.live requests) :=
        s.filter_inOrder _
      rw [placed, sorted, echoes.live]
      exact (sorted s.pending).symm
    have narrowed : ∀ list, s.live (s.live list) = s.live list := by
      intro list
      unfold Scene.live
      rw [List.filter_filter]
      simp
    -- both release the live requests of the other's order
    have first : (Scene.releaseAll s.releaseOrder s).Echoes (Scene.releaseAll (s.live s.releaseOrder) s') :=
      echoes.releaseAll s.releaseOrder _ (narrowed _)
    have last : (Scene.releaseAll s'.releaseOrder s').Echoes (Scene.releaseAll (s.live s.releaseOrder) s') := by
      rw [← ordered]
      refine (echoes.symm.trans echoes).releaseAll s'.releaseOrder _ ?_
      rw [echoes.sameLive]
      exact narrowed _
    exact first.trans last.symm

/-! ### Starting -/

theorem startNode (echoes : s.Echoes s') (runner : RunnerId) (node : NodeId) :
    (s.startNode runner node).2.Echoes (s'.startNode runner node).2 := by
  obtain ⟨begun, t, t', begins, begins', next⟩ := echoes.beginNode runner node
  unfold Scene.startNode
  rw [begins, begins']
  cases begun with
  | refused => exact next
  | running => exact next
  | ended => exact next.release

theorem tryStart (echoes : s.Echoes s') (runner : RunnerId) (node : NodeId) :
    (s.tryStart runner node).Echoes (s'.tryStart runner node) := by
  unfold Scene.tryStart
  rw [echoes.isEventRunning]
  split
  · exact echoes.enqueue runner node
  · exact echoes.startNode runner node

theorem foldl {α : Type} {f : Scene → α → Scene}
    (each : ∀ {t t' : Scene} (a : α), t.Echoes t' → (f t a).Echoes (f t' a)) (as : List α) (echoes : s.Echoes s') :
    (as.foldl f s).Echoes (as.foldl f s') := by
  induction as generalizing s s' with
  | nil => exact echoes
  | cons a as ih => exact ih (each a echoes)

theorem tryStartAll (echoes : s.Echoes s') (runner : RunnerId) (nodes : List NodeId) :
    (s.tryStartAll runner nodes).Echoes (s'.tryStartAll runner nodes) :=
  echoes.foldl (fun node next => next.tryStart runner node) nodes

theorem finishActive (echoes : s.Echoes s') (rewards : List Reward) :
    (s.finishActive rewards).Echoes (s'.finishActive rewards) := by
  unfold Scene.finishActive
  rw [echoes.active]
  split
  · exact echoes
  · exact (echoes.close _ _ rewards).release

private theorem kickstartRunner (r : Runner) (echoes : s.Echoes s') :
    (s.kickstartRunner r).Echoes (s'.kickstartRunner r) := by
  unfold Scene.kickstartRunner
  split
  · exact (echoes.note _).tryStart _ _
  · exact echoes.note _

theorem kickstart (echoes : s.Echoes s') : s.kickstart.Echoes s'.kickstart := by
  have begun : Echoes { s with kickstarted := true } { s' with kickstarted := true } :=
    { echoes with kickstarted := rfl }
  have openers : openers { s' with kickstarted := true } = openers { s with kickstarted := true } := by
    unfold Scene.openers leastPriority?
    dsimp only
    rw [echoes.runners, echoes.settings]
  unfold Scene.kickstart
  rw [echoes.kickstarted]
  split
  · exact echoes
  · dsimp only
    rw [openers]
    exact begun.foldl kickstartRunner _

/-! ### What a host does -/

theorem register (echoes : s.Echoes s') (r : Runner) : (s.register r).2.Echoes (s'.register r).2 := by
  unfold Scene.register
  rw [echoes.runner?]
  cases found : s.runner? r.id with
  | some x => exact echoes.note _
  | none =>
      obtain ⟨ready, y, ch, ch', made, made', told⟩ := r.setUp_echoes echoes.channel
      have fresh : s.runner? y.id = none := by
        rw [(Runner.setUp_made made).2.1]
        exact found
      dsimp only
      rw [made, made']
      have still : ∀ request, s.Vain request →
          Vain { s with runners := insertRunner y s.runners, channel := ch.note (.registered y.id y.priority) }
            request := by
        rintro request ⟨x, looked, spent⟩
        refine ⟨x, ?_, spent⟩
        have other : request.runner ≠ y.id := by
          intro same
          rw [same, fresh] at looked
          cases looked
        rw [runner?_insertRunner fresh, if_neg other]
        exact looked
      have joined : Echoes
          { s with runners := insertRunner y s.runners, channel := ch.note (.registered y.id y.priority) }
          { s' with runners := insertRunner y s'.runners, channel := ch'.note (.registered y.id y.priority) } :=
        { echoes with
          owned := echoes.owned.insertRunner fresh _
          runners := congrArg (insertRunner y) echoes.runners
          channel := told.note _
          live := live_of_vain still echoes.live }
      exact joined.tryStartAll _ _

theorem unregister (echoes : s.Echoes s') (id : RunnerId) : (s.unregister id).2.Echoes (s'.unregister id).2 := by
  unfold Scene.unregister
  rw [echoes.runner?, echoes.active]
  cases found : s.runner? id with
  | none => exact echoes.note _
  | some x =>
      dsimp only
      split
      · exact echoes.note _
      · obtain ⟨y, ch, ch', down, down', told⟩ := x.takeDown_echoes echoes.channel
        rw [down, down', echoes.runners]
        exact
          { echoes with
            owned := echoes.owned.part id _ _
            active := rfl
            runners := rfl
            channel := told.note _
            live := by rw [live_filter rfl, live_filter rfl, echoes.live] }

theorem publish (echoes : s.Echoes s') (event : StoryEvent) : (s.publish event).Echoes (s'.publish event) :=
  echoes.withChannel (echoes.channel.publish event)

theorem trigger (echoes : s.Echoes s') (runner : RunnerId) (node : NodeId) :
    ((s.trigger runner node).toOption.getD s).Echoes ((s'.trigger runner node).toOption.getD s') := by
  unfold Scene.trigger
  rw [echoes.runner?]
  cases found : s.runner? runner with
  | none => exact echoes
  | some x =>
      dsimp only
      split
      · exact echoes.tryStart runner node
      · exact echoes

theorem observe (echoes : s.Echoes s') (topic : Topic) : (s.observe topic).2.Echoes (s'.observe topic).2 := by
  obtain ⟨id, ch, ch', made, made', told⟩ := echoes.channel.subscribe topic .observer
  unfold Scene.observe
  rw [made, made']
  exact echoes.withChannel told

theorem stopObserving (echoes : s.Echoes s') (id : SubscriptionId) :
    (s.stopObserving id).2.Echoes (s'.stopObserving id).2 :=
  echoes.withChannel (echoes.channel.unsubscribe id)

theorem continueInput (echoes : s.Echoes s') :
    (s.continueInput.toOption.getD s).Echoes (s'.continueInput.toOption.getD s') := by
  unfold Scene.continueInput
  rw [echoes.interpreter]
  cases s.interpreter.continueInput with
  | error error => exact echoes
  | ok i => exact { echoes with interpreter := rfl }

theorem selectChoice (echoes : s.Echoes s') (index : Nat) :
    ((s.selectChoice index).toOption.getD s).Echoes ((s'.selectChoice index).toOption.getD s') := by
  unfold Scene.selectChoice
  rw [echoes.interpreter]
  rcases s.interpreter.selectChoice_echoes index echoes.channel.journal with
    ⟨error, refused, refused'⟩ | ⟨i, k, k', chosen, chosen', told⟩
  · rw [refused, refused']
    exact echoes
  · rw [chosen, chosen']
    exact { echoes.withChannel (echoes.channel.withJournal told) with interpreter := rfl }

theorem requestSkip (echoes : s.Echoes s') : s.requestSkip.Echoes s'.requestSkip :=
  { echoes with interpreter := congrArg Interpreter.requestSkip echoes.interpreter }

end Echoes

end Plotline.Scene
