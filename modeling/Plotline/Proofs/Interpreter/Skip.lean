import Plotline.Proofs.Interpreter.Heedless
import Plotline.Proofs.Interpreter.Poise
import Plotline.Proofs.Interpreter.Wait

/-!
The player's wish to skip. It cuts short the timed wait that is pending, which then ends as if its time were over. Where
none is pending the wish is lost: whatever the host asks for afterwards, no later wait comes to hear of it.
-/

namespace Plotline

/-! ### Two interpreters, one of them asked to skip -/

namespace Interpreter

/-- The interpreters differ at most in whether a skip is asked for, and while time is waited for not even in that. -/
inductive SkipsApart (i : Interpreter) : Interpreter → Prop
  | intro (skip : Bool) (timed : i.remainingWait? ≠ none → skip = i.skipRequested) :
      SkipsApart i { i with skipRequested := skip }

/-- One instruction has led to the same, but for a skip that is asked for. -/
inductive Progress.SkipsApart : Progress → Progress → Prop
  | next {i i' : Interpreter} (apart : i.SkipsApart i') (j : Journal) : SkipsApart (.next i j) (.next i' j)
  | stop (outcome : Option ProgramOutcome) {i i' : Interpreter} (apart : i.SkipsApart i') (j : Journal) :
      SkipsApart (.stop outcome i j) (.stop outcome i' j)

namespace SkipsApart

variable {i i' : Interpreter}

theorem refl (i : Interpreter) : i.SkipsApart i := ⟨i.skipRequested, fun _ => rfl⟩

/-- Where no time is waited for, it does not matter whether a skip is asked for. -/
theorem of_untimed (untimed : i.remainingWait? = none) (skip : Bool) :
    i.SkipsApart { i with skipRequested := skip } :=
  ⟨skip, fun timed => absurd untimed timed⟩

theorem isRunning (apart : i.SkipsApart i') : i'.isRunning = i.isRunning := by
  cases apart
  rfl

theorem atCursor (apart : i.SkipsApart i') (cursor : Nat) :
    SkipsApart { i with cursor := cursor } { i' with cursor := cursor } := by
  obtain ⟨skip, timed⟩ := apart
  exact intro (i := { i with cursor := cursor }) skip timed

theorem emitting (apart : i.SkipsApart i') (events : List StoryEvent) :
    SkipsApart { i with emitted := events } { i' with emitted := events } := by
  obtain ⟨skip, timed⟩ := apart
  exact intro (i := { i with emitted := events }) skip timed

theorem follow (apart : i.SkipsApart i') (flow : Flow) (j : Journal) :
    (i.follow flow j).SkipsApart (i'.follow flow j) := by
  have passed : SkipsApart { i with cursor := i.cursor + 1 } { i' with cursor := i.cursor + 1 } :=
    apart.atCursor (i.cursor + 1)
  have kept := apart
  obtain ⟨skip, timed⟩ := kept
  cases flow with
  | advance => exact .next passed j
  | redirect target => exact .next (apart.atCursor target) j
  | waitForInput => exact .stop none (of_untimed rfl skip) _
  | waitForChoice options => exact .stop none (of_untimed rfl skip) j
  | waitFor duration =>
      unfold Interpreter.follow
      dsimp only
      split
      · exact .next passed j
      -- a wait that begins forgets the skips asked for before it
      · exact .stop none (refl _) _
  | finish ending => exact .stop _ (refl _) _

theorem step (apart : i.SkipsApart i') (stage : Stage) (j : Journal) :
    (i.step stage j).SkipsApart (i'.step stage j) := by
  have kept := apart
  obtain ⟨skip, timed⟩ := kept
  have same : ∀ program instruction,
      deedFor { i with skipRequested := skip } program instruction = i.deedFor program instruction :=
    fun _ _ => rfl
  unfold Interpreter.step
  dsimp only
  split
  · exact .stop none apart j
  · split
    · exact apart.follow _ j
    · rw [same]
      split
      · exact .next (apart.atCursor _) _
      · exact (apart.emitting _).follow _ _

theorem run (apart : i.SkipsApart i') (stage : Stage) (budget : Nat) (j : Journal) :
    ∃ outcome k k' l, i.run stage budget j = (outcome, k, l) ∧ i'.run stage budget j = (outcome, k', l) ∧
      k.SkipsApart k' := by
  induction budget generalizing i i' j with
  | zero =>
      have same : (i'.run stage 0 j).2.2 = (i.run stage 0 j).2.2 := by
        cases apart
        rfl
      exact ⟨none, i, i', _, rfl, congrArg (none, i', ·) same, apart⟩
  | succ budget ih =>
      have stepped := apart.step stage j
      unfold Interpreter.run
      revert stepped
      generalize i.step stage j = p
      generalize i'.step stage j = p'
      intro stepped
      cases stepped with
      | next apart l => exact ih apart l
      | stop outcome apart l => exact ⟨outcome, _, _, l, rfl, rfl, apart⟩

theorem settleSuspension (apart : i.SkipsApart i') (elapsed : Duration) (j : Journal) :
    ∃ ready k k' l, i.settleSuspension elapsed j = (ready, k, l) ∧ i'.settleSuspension elapsed j = (ready, k', l) ∧
      k.SkipsApart k' := by
  obtain ⟨skip, timed⟩ := apart
  cases waits : i.remainingWait? with
  | none =>
      have untimed : ∀ remaining, i.suspension ≠ some (.timer remaining) := by
        intro remaining timer
        cases waits.symm.trans (remainingWait?_eq_some.mpr timer)
      unfold Interpreter.settleSuspension
      dsimp only
      split
      · exact ⟨true, _, _, j, rfl, rfl, of_untimed waits skip⟩
      · split
        · exact ⟨false, _, _, j, rfl, rfl, of_untimed waits skip⟩
        · exact ⟨true, _, _, _, rfl, rfl, of_untimed rfl skip⟩
      · exact ⟨false, _, _, j, rfl, rfl, of_untimed waits skip⟩
      · exact absurd ‹_› (untimed _)
  | some remaining =>
      obtain rfl : skip = i.skipRequested := timed (by simp [waits])
      exact ⟨_, _, _, _, rfl, rfl, refl _⟩

theorem resume (apart : i.SkipsApart i') (stage : Stage) (elapsed : Duration) (j : Journal) :
    ∃ outcome k k' l, i.resume stage elapsed j = (outcome, k, l) ∧ i'.resume stage elapsed j = (outcome, k', l) ∧
      k.SkipsApart k' := by
  unfold Interpreter.resume
  rw [apart.isRunning]
  split
  · obtain ⟨ready, k, k', l, settled, settled', apart⟩ := apart.settleSuspension elapsed j
    rw [settled, settled']
    dsimp only
    split
    · have steps : k'.maxSteps = k.maxSteps := by
        cases apart
        rfl
      rw [steps]
      exact apart.run stage _ l
    · exact ⟨none, k, k', l, rfl, rfl, apart⟩
  · exact ⟨none, i, i', j, rfl, rfl, apart⟩

theorem start (apart : i.SkipsApart i') (program : Program) (j : Journal) :
    ∃ result k k' l, i.start program j = (result, k, l) ∧ i'.start program j = (result, k', l) ∧ k.SkipsApart k' := by
  unfold Interpreter.start
  rw [apart.isRunning]
  split
  · exact ⟨_, i, i', _, rfl, rfl, apart⟩
  · split
    · exact ⟨_, i, i', _, rfl, rfl, apart⟩
    · cases apart
      exact ⟨_, _, _, _, rfl, rfl, refl _⟩

theorem continueInput (apart : i.SkipsApart i') :
    (∃ error, i.continueInput = .error error ∧ i'.continueInput = .error error) ∨
      ∃ k k', i.continueInput = .ok k ∧ i'.continueInput = .ok k' ∧ k.SkipsApart k' := by
  obtain ⟨skip, timed⟩ := apart
  unfold Interpreter.continueInput
  dsimp only
  split
  · exact .inr ⟨_, _, rfl, rfl, ⟨skip, timed⟩⟩
  · exact .inl ⟨_, rfl, rfl⟩

theorem selectChoice (apart : i.SkipsApart i') (index : Nat) (j : Journal) :
    (∃ error, i.selectChoice index j = .error error ∧ i'.selectChoice index j = .error error) ∨
      ∃ k k' l, i.selectChoice index j = .ok (k, l) ∧ i'.selectChoice index j = .ok (k', l) ∧ k.SkipsApart k' := by
  obtain ⟨skip, -⟩ := apart
  have same : ({ i with skipRequested := skip }).options? = i.options? := rfl
  unfold Interpreter.selectChoice
  rw [same]
  split
  · exact .inl ⟨_, rfl, rfl⟩
  · split
    · exact .inl ⟨_, rfl, rfl⟩
    · exact .inr ⟨_, _, _, rfl, rfl, of_untimed rfl skip⟩

end SkipsApart

end Interpreter

/-! ### Two runs, one of them with a wish to skip -/

namespace Rehearsal

/-- The runs have come to the same, but for a skip that is asked for where no time is waited for. -/
inductive SkipsApart (r : Rehearsal) : Rehearsal → Prop
  | intro {i : Interpreter} (apart : r.interpreter.SkipsApart i) : SkipsApart r { r with interpreter := i }

/-- The runs have come to the same, but for remarks in their journals. -/
structure Echoes (r r' : Rehearsal) : Prop where
  same : r' = { r with journal := r'.journal }
  journal : r.journal.Echoes r'.journal

variable {r r' : Rehearsal}

/-- Every call is answered alike, and the runs stay as close as they are. -/
theorem SkipsApart.perform (apart : r.SkipsApart r') (stage : Stage) (call : Call) :
    call.answer stage r' = call.answer stage r ∧ (call.perform stage r).SkipsApart (call.perform stage r') := by
  obtain ⟨apart⟩ := apart
  rename_i i
  cases call with
  | start program =>
      obtain ⟨result, k, k', l, started, started', apart⟩ := apart.start program r.journal
      dsimp only [Call.answer, Call.perform]
      rw [started, started']
      cases result with
      | ok granted => exact ⟨rfl, ⟨apart⟩⟩
      | error error => exact ⟨rfl, ⟨apart⟩⟩
  | resume elapsed =>
      obtain ⟨outcome, k, k', l, resumed, resumed', apart⟩ := apart.resume stage elapsed r.journal
      dsimp only [Call.answer, Call.perform]
      rw [resumed, resumed']
      exact ⟨rfl, ⟨apart⟩⟩
  | continueInput =>
      dsimp only [Call.answer, Call.perform]
      rcases apart.continueInput with ⟨error, refused, refused'⟩ | ⟨k, k', granted, granted', apart⟩
      · rw [refused, refused']
        exact ⟨rfl, ⟨apart⟩⟩
      · rw [granted, granted']
        exact ⟨rfl, ⟨apart⟩⟩
  | selectChoice index =>
      dsimp only [Call.answer, Call.perform]
      rcases apart.selectChoice index r.journal with ⟨error, refused, refused'⟩ | ⟨k, k', l, granted, granted', apart⟩
      · rw [refused, refused']
        exact ⟨rfl, ⟨apart⟩⟩
      · rw [granted, granted']
        exact ⟨rfl, ⟨apart⟩⟩
  | requestSkip =>
      have same : i.requestSkip = r.interpreter.requestSkip := by
        cases apart
        rfl
      refine ⟨rfl, ?_⟩
      dsimp only [Call.perform]
      rw [same]
      exact ⟨.refl _⟩
  | takeEmitted =>
      have emitted : i.takeEmitted.1 = r.interpreter.takeEmitted.1 := by
        cases apart
        rfl
      refine ⟨congrArg Call.Answer.events emitted, ?_⟩
      dsimp only [Call.perform]
      rw [emitted]
      exact ⟨apart.emitting []⟩
  | setTable table =>
      obtain ⟨skip, timed⟩ := apart
      exact ⟨rfl, ⟨.intro skip timed⟩⟩

theorem SkipsApart.rehearse (apart : r.SkipsApart r') (stage : Stage) (calls : List Call) :
    answers stage calls r' = answers stage calls r ∧ (rehearse stage calls r).SkipsApart (rehearse stage calls r') := by
  induction calls generalizing r r' with
  | nil => exact ⟨rfl, apart⟩
  | cons call calls ih =>
      obtain ⟨answered, apart⟩ := apart.perform stage call
      obtain ⟨same, apart⟩ := ih apart
      exact ⟨congrArg₂ List.cons answered same, apart⟩

/-- Where no timed wait is pending, a skip that is asked for changes nothing for whatever comes after it. -/
theorem requestSkip_apart (untimed : r.interpreter.remainingWait? = none) (stage : Stage) :
    r.SkipsApart (Call.requestSkip.perform stage r) :=
  ⟨.of_untimed untimed true⟩

end Rehearsal

namespace Interpreter

variable {i : Interpreter} {program : Program} {cursor : Nat} {remaining elapsed enough : Duration}

/-- A wait that is cut short ends, and the program goes on with the next instruction as if no time had passed. -/
theorem resume_of_skip (holds : i.Holds program cursor remaining) (stage : Stage) (elapsed : Duration) (j : Journal) :
    i.requestSkip.resume stage elapsed j =
      i.goOn.resume stage 0 ((j.note (.waitCutShort cursor)).cue (.skipListener false)) := by
  have pending : i.requestSkip.suspension = some (.timer remaining) := holds.suspension
  have skipped : i.requestSkip.skipRequested = true := rfl
  have place : i.requestSkip.cursor = cursor := holds.cursor
  have forgotten : { i.requestSkip.goOn with skipRequested := false } = i.goOn := by
    unfold requestSkip goOn
    rw [← holds.unskipped]
  have settled : i.requestSkip.settleSuspension elapsed j =
      (true, i.goOn, (j.note (.waitCutShort cursor)).cue (.skipListener false)) := by
    unfold settleSuspension
    rw [pending]
    dsimp only
    rw [if_pos skipped, forgotten, place]
  have running : i.requestSkip.isRunning = true := holds.running
  have running' : i.goOn.isRunning = true := holds.running
  unfold resume
  rw [if_pos running, if_pos running', settled]
  rfl

end Interpreter

namespace Rehearsal

variable {r r' : Rehearsal} {remaining elapsed enough : Duration}

theorem resume_of_skip {program : Program} {cursor : Nat} {stage : Stage}
    (holds : r.interpreter.Holds program cursor remaining) (heedless : stage.Heedless) (spent : remaining ≤ enough)
    (elapsed : Duration) :
    (Call.resume elapsed).answer stage (Call.requestSkip.perform stage r) = (Call.resume enough).answer stage r ∧
      ((Call.resume enough).perform stage r).Echoes
        ((Call.resume elapsed).perform stage (Call.requestSkip.perform stage r)) := by
  have noted : (r.journal.cue (.skipListener false)).Echoes
      ((r.journal.note (.waitCutShort cursor)).cue (.skipListener false)) :=
    (Journal.note_echoes rfl r.journal).cue _
  obtain ⟨outcome, i, l, l', resumed, resumed', echoes⟩ :=
    Interpreter.resume_echoes heedless 0 r.interpreter.goOn noted
  rw [← Interpreter.resume_of_over holds spent] at resumed
  rw [← Interpreter.resume_of_skip holds stage elapsed] at resumed'
  dsimp only [Call.answer, Call.perform]
  rw [resumed, resumed']
  exact ⟨rfl, rfl, echoes⟩

/-- The player's wish to skip shortens the timed wait that is pending, and does nothing else. Where none is pending,
every run of calls is answered as without the wish, shows the same and comes to the same place, except that the wish may
still stand. Where one is pending, the wait ends as if its time were over, however little time has passed. -/
theorem skip_shortens_pending_wait :
    (∀ (stage : Stage) (calls : List Call) (r : Rehearsal), r.interpreter.remainingWait? = none →
      answers stage (.requestSkip :: calls) r = .granted :: answers stage calls r ∧
        (rehearse stage calls r).SkipsApart (rehearse stage (.requestSkip :: calls) r)) ∧
    ∀ (stage : Stage) (settings : InterpreterSettings) (table : CommandTable) (calls : List Call) (r : Rehearsal),
      rehearse stage calls (ofSettings settings table) = r → ∀ remaining, r.interpreter.remainingWait? = some remaining →
        r.interpreter.skipRequested = false → stage.Heedless → ∀ elapsed enough, remaining ≤ enough →
          (Call.resume elapsed).answer stage (Call.requestSkip.perform stage r) = (Call.resume enough).answer stage r ∧
            ((Call.resume enough).perform stage r).Echoes
              ((Call.resume elapsed).perform stage (Call.requestSkip.perform stage r)) := by
  constructor
  · intro stage calls r untimed
    obtain ⟨same, apart⟩ := (requestSkip_apart untimed stage).rehearse stage calls
    exact ⟨congrArg (Call.Answer.granted :: ·) same, apart⟩
  · rintro stage settings table calls r rfl remaining waits unskipped heedless elapsed enough spent
    have poised := rehearse_poised stage settings table calls
    have timer := Interpreter.remainingWait?_eq_some.mp waits
    obtain ⟨program, loaded⟩ := poised.loaded (by simp [timer])
    exact resume_of_skip ⟨loaded, rfl, timer, unskipped⟩ heedless spent elapsed

/-- A walk to the stall and, after a word, on to the gate. -/
def stroll : Program where
  instructions :=
    [.actor "M" (.moveTo "stall" (.ofNat 3)), .dialogue "M" "Too dear." none, .actor "M" (.moveTo "gate" (.ofNat 2))]

/-- The first walk is cut short. The wish to skip that is uttered in between does not shorten the second. -/
theorem stroll_skips :
    let walking := rehearse .nominal [.start stroll, .resume 0] (ofSettings {} .standard)
    let talking := rehearse .nominal [.requestSkip, .resume 0] walking
    let onward : List Call := [.continueInput, .resume 0]
    (walking.interpreter.remainingWait? = some 3000000000 ∧
      (Call.resume 0).answer .nominal (Call.requestSkip.perform .nominal walking) =
        (Call.resume 3000000000).answer .nominal walking) ∧
    talking.interpreter.isRunning = true ∧
      (rehearse .nominal onward talking).SkipsApart (rehearse .nominal (.requestSkip :: onward) talking) ∧
      (rehearse .nominal (.requestSkip :: onward) talking).interpreter.remainingWait? = some 2000000000 := by
  intro walking talking onward
  have waits : walking.interpreter.remainingWait? = some 3000000000 := by decide +kernel
  have unskipped : walking.interpreter.skipRequested = false := by decide +kernel
  have untimed : talking.interpreter.remainingWait? = none := by decide +kernel
  obtain ⟨lost, spent⟩ := skip_shortens_pending_wait
  have shortened := spent .nominal {} .standard [.start stroll, .resume 0] walking rfl 3000000000 waits unskipped
    (fun _ _ _ _ => rfl) 0 3000000000 (Nat.le_refl _)
  have apart := lost .nominal onward talking untimed
  exact ⟨⟨waits, shortened.1⟩, by decide +kernel, apart.2, by decide +kernel⟩

end Rehearsal

end Plotline
