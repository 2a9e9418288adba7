import Plotline.Proofs.Scene.Recapture
import Plotline.Proofs.Scene.Release
import Plotline.Proofs.Scene.Unison

/-!
Which requests outlive it when a scene takes its own capture over while a node is active. A request is judged by the
status that its node has at that time, although a repeatable node in progress could run again when the request would be
released.
-/

namespace Plotline.Scene

variable {s : Scene}

/-- While a node is active, nothing but the log and the requests has changed. -/
private theorem restore_capture_of_running (owned : s.Owned) (keeps : s.settings.restorePolicy = .keep)
    (running : s.isEventRunning = true) :
    s.restore s.capture =
      { s.noted (s.runners.map recaptured) with pending := s.pending.filter fun request => s.Outstanding request } := by
  have taken := restoreEntries_capture s.runners owned keeps (fun _ member => member) []
  unfold restore capture
  rw [taken]
  dsimp only [List.foldl_nil]
  exact if_pos running

/-- A repeatable node that is requested is outstanding unless it is in progress. -/
private theorem outstanding_of_repeats (orderly : Turn.Orderly ⟨⟨s, [], false⟩, none⟩) {request : Request}
    (waits : request ∈ s.pending) (again : s.repeats request.runner request.node = true) :
    s.Outstanding request ↔ s.statusOf? request.runner request.node ≠ some .inProgress := by
  obtain ⟨status, known⟩ := Option.isSome_iff_exists.mp (orderly.waiting request waits)
  dsimp only at known
  unfold Outstanding
  rw [known]
  cases status with
  | notStarted => simp
  | inProgress => simp
  | completed => cases again.symm.trans (orderly.retired _ _ known)

/-- A request for a node that runs only once is made in vain unless the node is outstanding. -/
private theorem vain_of_once {request : Request} (knows : s.Knows (request.runner, request.node))
    (once : s.repeats request.runner request.node = false) (started : ¬ s.Outstanding request) : s.Vain request := by
  obtain ⟨status, known⟩ := Option.isSome_iff_exists.mp knows
  obtain ⟨x, found, contained⟩ := Option.bind_eq_some_iff.mp known
  refine ⟨x, found, ⟨?_, Runner.contains_of_status contained, ?_⟩⟩
  · rw [← repeats_of_runner? found]
    exact once
  · rw [← statusOf?_of_runner? found]
    exact started

/-- If no request for a repeatable node is lost, those that are lost were made in vain. -/
private theorem echoes_of_kept (owned : s.Owned) (heedless : s.stage.Heedless)
    (orderly : Turn.Orderly ⟨⟨s, [], false⟩, none⟩)
    (kept : ∀ request ∈ s.pending, s.repeats request.runner request.node = true → s.Outstanding request) :
    s.Echoes { s.noted (s.runners.map recaptured) with
      pending := s.pending.filter fun request => s.Outstanding request } := by
  have remarked : s.channel.journal.Echoes (s.channel.journal.notes (s.runners.map recaptured)) := by
    apply Journal.notes_echoes
    intro n member
    obtain ⟨x, -, rfl⟩ := List.mem_map.mp member
    rfl
  have live : s.live (s.pending.filter fun request => s.Outstanding request) = s.live s.pending := by
    unfold Scene.live
    rw [List.filter_filter]
    apply List.filter_congr
    intro request waits
    by_cases outstanding : s.Outstanding request
    · simp [outstanding]
    · have once : s.repeats request.runner request.node = false :=
        Bool.eq_false_iff.mpr fun again => outstanding (kept request waits again)
      simp [vain_of_once (orderly.waiting request waits) once outstanding]
  exact { Echoes.refl owned heedless with channel := ⟨rfl, remarked⟩, live := live }

/-- A scene that was only played takes its own capture over while a node is active. Of the requests for repeatable nodes
those are lost whose node is in progress, and no other. If none is lost, and the stage pays no heed to the log, then
whatever is done afterwards has the same effect as it would have had without: the same nodes run in the same order. -/
theorem kept_iff_not_in_progress (reached : Reached (fun op _ => op.Plays) s)
    (keeps : s.settings.restorePolicy = .keep) (running : s.isEventRunning = true) :
    (∀ request ∈ s.pending, s.repeats request.runner request.node = true →
      (request ∈ (s.restore s.capture).pending ↔ s.statusOf? request.runner request.node ≠ some .inProgress)) ∧
    (s.stage.Heedless →
      (∀ request ∈ s.pending, s.repeats request.runner request.node = true →
        request ∈ (s.restore s.capture).pending) →
      ∀ ops : List Operation, (∀ op ∈ ops, op.Proceeds) →
        (run ops (s.restore s.capture)).runners = (run ops s).runners ∧
          (run ops (s.restore s.capture)).active = (run ops s).active ∧
            (run ops (s.restore s.capture)).channel.journal.deeds = (run ops s).channel.journal.deeds) := by
  obtain ⟨sound, orderly, -⟩ := reached.keeps empty_answered perform_answered
  have owned : s.Owned := sound.toCoherent.owned
  rw [restore_capture_of_running owned keeps running]
  have kept : ∀ request ∈ s.pending,
      (request ∈ s.pending.filter (fun request => s.Outstanding request) ↔ s.Outstanding request) := by
    intro request waits
    simp [waits]
  constructor
  · intro request waits again
    exact (kept request waits).trans (outstanding_of_repeats orderly waits again)
  · intro heedless lossless ops proceed
    have echoes := echoes_of_kept owned heedless orderly fun request waits again =>
      (kept request waits).mp (lossless request waits again)
    have after := echoes.run ops proceed
    exact ⟨after.runners, after.active, after.channel.journal.symm⟩

/-- A tower with a bell that is rung again and again, and a gate that is opened once. -/
def tower : StoryPackage :=
  { runners :=
      [{ id := ⟨"ringer"⟩
         storyboard :=
           { name := ⟨"tower"⟩
             nodes :=
               [{ id := ⟨"bell"⟩
                  isRepeatable := true
                  program := { instructions := [.dialogue "A" "Ding." none] } },
                { id := ⟨"gate"⟩, program := { instructions := [.dialogue "A" "Come in." none] } }] } }] }

/-- The gate is opened; while that lasts it is asked for again, and so is the bell. -/
private def calledAtGate : List Operation :=
  [.trigger ⟨"ringer"⟩ ⟨"gate"⟩, .trigger ⟨"ringer"⟩ ⟨"gate"⟩, .trigger ⟨"ringer"⟩ ⟨"bell"⟩]

/-- The bell is rung; while that lasts it is asked for again. -/
private def rungTwice : List Operation := [.trigger ⟨"ringer"⟩ ⟨"bell"⟩, .trigger ⟨"ringer"⟩ ⟨"bell"⟩]

/-- The player goes on twice, and the story with him. -/
private def goesOn : List Operation := [.tick 0, .continueInput, .tick 0, .continueInput, .tick 0]

private theorem calledAtGate_busy (s : Scene) (is : s = run calledAtGate (ofPackage tower {} .instant).2) :
    s.settings.restorePolicy = .keep ∧ s.isEventRunning = true ∧
      s.pending = [⟨⟨"ringer"⟩, ⟨"gate"⟩, 0⟩, ⟨⟨"ringer"⟩, ⟨"bell"⟩, 1⟩] ∧
        s.repeats ⟨"ringer"⟩ ⟨"gate"⟩ = false ∧ s.repeats ⟨"ringer"⟩ ⟨"bell"⟩ = true ∧
          s.statusOf? ⟨"ringer"⟩ ⟨"bell"⟩ = some .notStarted ∧
            (s.restore s.capture).pending = [⟨⟨"ringer"⟩, ⟨"bell"⟩, 1⟩] := by
  subst is
  decide +kernel

/-- While the gate opens, the second request for it is dropped, the one for the bell is kept, and the bell is rung as it
would have been. -/
theorem tower_kept :
    let s := run calledAtGate (ofPackage tower {} .instant).2
    s.pending = [⟨⟨"ringer"⟩, ⟨"gate"⟩, 0⟩, ⟨⟨"ringer"⟩, ⟨"bell"⟩, 1⟩] ∧
      (s.restore s.capture).pending = [⟨⟨"ringer"⟩, ⟨"bell"⟩, 1⟩] ∧
        (⟨⟨"ringer"⟩, ⟨"bell"⟩, 1⟩ : Request) ∈ (s.restore s.capture).pending ∧
          (run goesOn (s.restore s.capture)).channel.journal.deeds = (run goesOn s).channel.journal.deeds := by
  intro s
  have fromWorld : ∀ op ∈ calledAtGate, op.FromWorld := by simp [calledAtGate, Operation.FromWorld]
  have proceed : ∀ op ∈ goesOn, op.Proceeds := by simp [goesOn, Operation.Proceeds]
  have reached : Reached (fun op _ => op.Plays) s := reached_of_package tower {} .instant fromWorld
  have stage : s.stage = Stage.instant := rfl
  have heedless : s.stage.Heedless := stage ▸ fun _ _ _ _ => rfl
  obtain ⟨keeps, running, waiting, once, again, outstanding, left⟩ := calledAtGate_busy s rfl
  clear_value s
  obtain ⟨kept, onwards⟩ := kept_iff_not_in_progress reached keeps running
  have bell : (⟨⟨"ringer"⟩, ⟨"bell"⟩, 1⟩ : Request) ∈ (s.restore s.capture).pending :=
    (kept _ (by simp [waiting]) again).mpr (by simp [outstanding])
  have lossless : ∀ request ∈ s.pending, s.repeats request.runner request.node = true →
      request ∈ (s.restore s.capture).pending := by
    simp [waiting, once, left]
  exact ⟨waiting, left, bell, (onwards heedless lossless goesOn proceed).2.2⟩

/-- It is not true of every story that a scene which takes its own capture over loses no request for a repeatable node:
the bell that is asked for while it is rung is rung once only. -/
theorem bell_request_lost :
    let s := run rungTwice (ofPackage tower {} .instant).2
    (∀ op ∈ rungTwice, op.FromWorld) ∧ s.settings.restorePolicy = .keep ∧ s.isEventRunning = true ∧
      s.pending = [⟨⟨"ringer"⟩, ⟨"bell"⟩, 0⟩] ∧ s.repeats ⟨"ringer"⟩ ⟨"bell"⟩ = true ∧
        (s.restore s.capture).pending = [] ∧
          (run goesOn (s.restore s.capture)).channel.journal.published.count
              (.nodeStarted ⟨"ringer"⟩ ⟨"tower"⟩ ⟨"bell"⟩) = 1 ∧
            (run goesOn s).channel.journal.published.count (.nodeStarted ⟨"ringer"⟩ ⟨"tower"⟩ ⟨"bell"⟩) = 2 := by
  refine ⟨by simp [rungTwice, Operation.FromWorld], ?_⟩
  decide +kernel

end Plotline.Scene
