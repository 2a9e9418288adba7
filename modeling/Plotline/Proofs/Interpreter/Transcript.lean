import Plotline.Proofs.Interpreter.Poise
import Plotline.Proofs.Interpreter.Recital

/-!
What a program shows and emits depends on nothing but the choices of the player: not on the stage's answers, on the
time that passes, on how often and when the host goes on, or on the steps allowed each time.
-/

namespace Plotline

namespace Interpreter

/-- A program is loaded or refused, and nothing is shown. -/
theorem start_cases (program : Program) (i : Interpreter) (j : Journal) :
    ∃ j' : Journal, j'.presented = j.presented ∧
      ((∃ error, i.start program j = (.error error, i, j')) ∨
        i.start program j =
          (.ok (),
            { i with
              program := some program
              cursor := 0
              waitingForInput := false
              skipRequested := false
              suspension := none },
            j')) := by
  unfold start
  split
  · exact ⟨_, Journal.presented_note _ j, .inl ⟨_, rfl⟩⟩
  · split
    · exact ⟨_, Journal.presented_note _ j, .inl ⟨_, rfl⟩⟩
    · exact ⟨_, (Journal.presented_note _ _).trans (Journal.presented_notes _ j), .inr rfl⟩

/-- An accepted choice goes on at the option's label, and nothing is shown. -/
theorem selectChoice_comes {s : Script} {i i' : Interpreter} {j j' : Journal} {index : Nat} (performs : i.Performs s)
    (selected : i.selectChoice index j = .ok (i', j')) :
    ∃ place, s.choose? index i.place = some place ∧ Utters {} i j i' j' ∧ Arrives s place i' none := by
  unfold selectChoice at selected
  split at selected
  · cases selected
  · rename_i options offered
    have choice := options?_eq_some offered
    split at selected
    · cases selected
    · rename_i option found
      cases selected
      refine ⟨.before (s.program.resolve option.target i.cursor).1, ?_, utters_nothing (by simp) rfl, ?_⟩
      · simp [place, choice, Script.choose?, found]
      · simp only [performs.program, Option.getD_some]
        exact ⟨⟨rfl, performs.table, performs.cinematicReveal⟩, place_of_free rfl⟩

/-- Nothing is chosen where no program is loaded. -/
theorem selectChoice_of_free {i : Interpreter} (free : i.suspension = none) (index : Nat) (j : Journal) :
    i.selectChoice index j = .error (.notWaiting .choice) := by
  simp [selectChoice, options?, free]

end Interpreter

namespace Rehearsal

/-- Nothing has been started, told or chosen yet. -/
structure Fresh (s : Script) (r : Rehearsal) : Prop where
  program : r.interpreter.program = none
  suspension : r.interpreter.suspension = none
  table : r.interpreter.table = s.table
  cinematicReveal : r.interpreter.cinematicReveal = s.cinematicReveal
  presented : r.presented = []
  emitted : r.emitted = []
  chosen : r.chosen = []
  outcome : r.outcome = none

/-- The script has come to the place, and what was told on the way is what was shown and emitted. -/
structure Reaches (s : Script) (r : Rehearsal) (place : Place) : Prop where
  tells : s.Tells (.before 0) r.chosen ⟨r.presented, r.emitted⟩ place
  arrives : Interpreter.Arrives s place r.interpreter r.outcome

/-- As long as no other program is started, it is the script that is told. -/
structure Follows (s : Script) (r : Rehearsal) : Prop where
  fresh : r.started = [] → r.Fresh s
  reaches : r.started = [s.program] → ∃ place, r.Reaches s place

/-- From the one to the other nothing was started, told or chosen, and no wait was begun or ended. -/
structure Idles (r r' : Rehearsal) : Prop where
  program : r'.interpreter.program = r.interpreter.program
  cursor : r'.interpreter.cursor = r.interpreter.cursor
  suspension : r'.interpreter.suspension = r.interpreter.suspension
  table : r'.interpreter.table = r.interpreter.table
  cinematicReveal : r'.interpreter.cinematicReveal = r.interpreter.cinematicReveal
  presented : r'.presented = r.presented
  emitted : r'.emitted = r.emitted
  started : r'.started = r.started
  chosen : r'.chosen = r.chosen
  outcome : r'.outcome = r.outcome

variable {s : Script} {r r' : Rehearsal} {place : Place}

theorem Idles.fresh (idles : Idles r r') (fresh : r.Fresh s) : r'.Fresh s where
  program := idles.program.trans fresh.program
  suspension := idles.suspension.trans fresh.suspension
  table := idles.table.trans fresh.table
  cinematicReveal := idles.cinematicReveal.trans fresh.cinematicReveal
  presented := idles.presented.trans fresh.presented
  emitted := idles.emitted.trans fresh.emitted
  chosen := idles.chosen.trans fresh.chosen
  outcome := idles.outcome.trans fresh.outcome

theorem Idles.reaches (idles : Idles r r') (reaches : r.Reaches s place) : r'.Reaches s place := by
  constructor
  · rw [idles.presented, idles.emitted, idles.chosen]
    exact reaches.tells
  · have arrives := reaches.arrives
    rw [idles.outcome]
    cases outcome : r.outcome with
    | none =>
        rw [outcome] at arrives
        obtain ⟨performs, stands⟩ := arrives
        refine ⟨⟨idles.program.trans performs.program, idles.table.trans performs.table, ?_⟩, ?_⟩
        · exact idles.cinematicReveal.trans performs.cinematicReveal
        · rw [← stands]
          unfold Interpreter.place
          rw [idles.suspension, idles.cursor]
    | some outcome =>
        rw [outcome] at arrives
        exact ⟨idles.program.trans arrives.1, idles.suspension.trans arrives.2.1, arrives.2.2⟩

theorem Follows.of_idles (follows : r.Follows s) (idles : Idles r r') : r'.Follows s := by
  constructor
  · intro none
    exact idles.fresh (follows.fresh (idles.started.symm.trans none))
  · intro one
    obtain ⟨place, there⟩ := follows.reaches (idles.started.symm.trans one)
    exact ⟨place, idles.reaches there⟩

theorem Reaches.performs (reaches : r.Reaches s place) (going : r.outcome = none) :
    r.interpreter.Performs s ∧ r.interpreter.place = place := by
  have arrives := reaches.arrives
  rwa [going] at arrives

theorem Reaches.ended (reaches : r.Reaches s place) {outcome : ProgramOutcome} (closed : r.outcome = some outcome) :
    r.interpreter.program = none ∧ r.interpreter.suspension = none ∧ place = .ended outcome := by
  have arrives := reaches.arrives
  rwa [closed] at arrives

/-- More is told after what was told. -/
theorem Reaches.further (reaches : r.Reaches s place) {choices : List Nat} {told : Told} {last : Place}
    (tells : s.Tells place choices told last)
    (uttered : Interpreter.Utters told r.interpreter r.journal r'.interpreter r'.journal) (taken : r'.taken = r.taken)
    (chosen : r'.chosen = r.chosen ++ choices) (arrives : Interpreter.Arrives s last r'.interpreter r'.outcome) :
    r'.Reaches s last := by
  refine ⟨?_, arrives⟩
  have whole := reaches.tells.trans tells
  have same : Told.followedBy ⟨r.presented, r.emitted⟩ told = ⟨r'.presented, r'.emitted⟩ := by
    simp only [Told.followedBy, presented, emitted, uttered.cues, uttered.events, taken, List.append_assoc]
  rwa [same, ← chosen] at whole

theorem start_follows (stage : Stage) (program : Program) (follows : r.Follows s) :
    ((Call.start program).perform stage r).Follows s := by
  obtain ⟨j', shown, ⟨error, refused⟩ | granted⟩ := Interpreter.start_cases program r.interpreter r.journal
  · dsimp only [Call.perform]
    rw [refused]
    dsimp only
    exact follows.of_idles ⟨rfl, rfl, rfl, rfl, rfl, shown, rfl, rfl, rfl, rfl⟩
  · dsimp only [Call.perform]
    rw [granted]
    constructor
    · simp
    · intro one
      obtain ⟨none, rfl⟩ : r.started = [] ∧ program = s.program := by
        simpa [List.append_eq_singleton_iff] using one
      have fresh := follows.fresh none
      refine ⟨.before 0, ?_, ?_⟩
      · have emitted := fresh.emitted
        dsimp only [presented, Rehearsal.emitted] at emitted ⊢
        rw [shown, fresh.chosen, emitted]
        rw [show r.journal.presented = [] from fresh.presented]
        exact .here
      · rw [fresh.outcome]
        exact ⟨⟨rfl, fresh.table, fresh.cinematicReveal⟩, Interpreter.place_of_free rfl⟩

theorem resume_follows (stage : Stage) (elapsed : Duration) (follows : r.Follows s) :
    ((Call.resume elapsed).perform stage r).Follows s := by
  have idle : r.interpreter.program = none → (Call.resume elapsed).perform stage r = r := by
    intro none
    simp [Call.perform, Interpreter.resume, Interpreter.isRunning, none]
  constructor
  · intro none
    have fresh := follows.fresh none
    rw [idle fresh.program]
    exact fresh
  · intro one
    obtain ⟨place, there⟩ := follows.reaches one
    cases outcome : r.outcome with
    | some outcome =>
        rw [idle (there.ended outcome).1]
        exact ⟨place, there⟩
    | none =>
        obtain ⟨performs, rfl⟩ := there.performs outcome
        obtain ⟨told, last, tells, uttered, arrives⟩ :=
          Interpreter.resume_recites (j := r.journal) stage elapsed performs
        refine ⟨last, there.further tells uttered rfl (List.append_nil _).symm ?_⟩
        simpa [Call.perform, outcome] using arrives

theorem selectChoice_follows (stage : Stage) (index : Nat) (follows : r.Follows s) :
    ((Call.selectChoice index).perform stage r).Follows s := by
  dsimp only [Call.perform]
  split
  · rename_i i' j' selected
    have waits : r.interpreter.suspension ≠ none := by
      intro free
      cases (Interpreter.selectChoice_of_free free index r.journal).symm.trans selected
    constructor
    · intro none
      exact absurd (follows.fresh none).suspension waits
    · intro one
      obtain ⟨place, there⟩ := follows.reaches one
      cases outcome : r.outcome with
      | some outcome => exact absurd (there.ended outcome).2.1 waits
      | none =>
          obtain ⟨performs, rfl⟩ := there.performs outcome
          obtain ⟨last, chose, uttered, arrives⟩ := Interpreter.selectChoice_comes performs selected
          refine ⟨last, there.further (.chosen chose .here) uttered rfl rfl ?_⟩
          simpa [outcome] using arrives
  · exact follows

theorem perform_follows (stage : Stage) (call : Call) (r : Rehearsal) (keeps : call.KeepsTable)
    (follows : r.Follows s) : (call.perform stage r).Follows s := by
  cases call with
  | start program => exact start_follows stage program follows
  | resume elapsed => exact resume_follows stage elapsed follows
  | continueInput =>
      dsimp only [Call.perform, Interpreter.continueInput]
      split
      · rename_i continued
        split at continued
        · cases continued
          exact follows.of_idles ⟨rfl, rfl, rfl, rfl, rfl, rfl, rfl, rfl, rfl, rfl⟩
        · cases continued
      · exact follows
  | selectChoice index => exact selectChoice_follows stage index follows
  | requestSkip => exact follows.of_idles ⟨rfl, rfl, rfl, rfl, rfl, rfl, rfl, rfl, rfl, rfl⟩
  | takeEmitted =>
      have emitted : ((Call.takeEmitted).perform stage r).emitted = r.emitted := by
        simp [Call.perform, Rehearsal.emitted, Interpreter.takeEmitted]
      exact follows.of_idles ⟨rfl, rfl, rfl, rfl, rfl, rfl, emitted, rfl, rfl, rfl⟩
  | setTable table => exact keeps.elim

/-- The two have shown and emitted the same, as far as they have come; and if both have ended, all of it. -/
structure Agree (r r' : Rehearsal) : Prop where
  presented : r.presented <+: r'.presented ∨ r'.presented <+: r.presented
  emitted : r.emitted <+: r'.emitted ∨ r'.emitted <+: r.emitted
  ended : r.outcome.isSome = true → r'.outcome.isSome = true →
    r.presented = r'.presented ∧ r.emitted = r'.emitted ∧ r.outcome = r'.outcome

theorem Agree.symm (agree : Agree r r') : Agree r' r where
  presented := agree.presented.symm
  emitted := agree.emitted.symm
  ended closed closed' := by
    obtain ⟨presented, emitted, outcome⟩ := agree.ended closed' closed
    exact ⟨presented.symm, emitted.symm, outcome.symm⟩

/-- One that goes on where the other stands agrees with it. -/
theorem Reaches.agree {last : Place} (here : r.Reaches s place) (there : r'.Reaches s last) {choices : List Nat}
    {later : Told} (tells : s.Tells place choices later last)
    (told : (⟨r'.presented, r'.emitted⟩ : Told) = Told.followedBy ⟨r.presented, r.emitted⟩ later) : Agree r r' := by
  obtain ⟨presented, emitted⟩ := Told.mk.inj told
  refine ⟨.inl ⟨_, presented.symm⟩, .inl ⟨_, emitted.symm⟩, ?_⟩
  intro closed closed'
  obtain ⟨outcome, closed⟩ := Option.isSome_iff_exists.mp closed
  obtain ⟨outcome', closed'⟩ := Option.isSome_iff_exists.mp closed'
  obtain rfl := (here.ended closed).2.2
  obtain ⟨rfl, same⟩ := tells.of_ended
  cases same.symm.trans (there.ended closed').2.2
  simp [presented, emitted, closed, closed']

end Rehearsal

/-- All in which two runs of a program may differ: the stage, the steps allowed each time, and what the host does. -/
structure Staging where
  stage : Stage
  maxSteps : Nat
  calls : List Call
  keepsTable : ∀ call ∈ calls, call.KeepsTable

namespace Staging

def rehearsal (x : Staging) (table : CommandTable) (cinematicRevealSeconds : Single) : Rehearsal :=
  rehearse x.stage x.calls (.ofSettings ⟨cinematicRevealSeconds, x.maxSteps⟩ table)

variable {table : CommandTable} {cinematicRevealSeconds : Single} {program : Program}

theorem reaches (x : Staging) (started : (x.rehearsal table cinematicRevealSeconds).started = [program]) :
    ∃ place, (x.rehearsal table cinematicRevealSeconds).Reaches
      ⟨program, table, .ofSeconds cinematicRevealSeconds⟩ place := by
  have start : (Rehearsal.ofSettings ⟨cinematicRevealSeconds, x.maxSteps⟩ table).Follows
      ⟨program, table, .ofSeconds cinematicRevealSeconds⟩ :=
    ⟨fun _ => ⟨rfl, rfl, rfl, rfl, rfl, rfl, rfl, rfl⟩, nofun⟩
  have follows := rehearse_keeps (Rehearsal.perform_follows x.stage) x.calls _ x.keepsTable start
  exact follows.reaches started

/-- Two runs in which the same program is started, and nothing else, agree in what they show and emit, provided that
the player chooses alike as long as both choose. -/
theorem transcripts_agree (x y : Staging) (started : (x.rehearsal table cinematicRevealSeconds).started = [program])
    (started' : (y.rehearsal table cinematicRevealSeconds).started = [program])
    (alike : (x.rehearsal table cinematicRevealSeconds).chosen <+: (y.rehearsal table cinematicRevealSeconds).chosen ∨
      (y.rehearsal table cinematicRevealSeconds).chosen <+: (x.rehearsal table cinematicRevealSeconds).chosen) :
    (x.rehearsal table cinematicRevealSeconds).Agree (y.rehearsal table cinematicRevealSeconds) := by
  obtain ⟨place, here⟩ := x.reaches started
  obtain ⟨place', there⟩ := y.reaches started'
  rcases here.tells.comparable there.tells alike with ⟨choices, later, tells, told⟩ | ⟨choices, later, tells, told⟩
  · exact here.agree there tells told
  · exact (there.agree here tells told).symm

/-- A merchant who calls the guard on whoever buys. -/
def bazaar : Program where
  instructions :=
    [.dialogue "M" "Look around." none,
      .actor "M" (.moveTo "stall" (.ofNat 3)),
      .choice none [⟨"Leave", ⟨"street"⟩⟩, ⟨"Buy", ⟨"deal"⟩⟩],
      .label ⟨"deal"⟩,
      .trigger ⟨"guard"⟩ ⟨"round"⟩,
      .label ⟨"street"⟩,
      .dialogue "M" "Farewell." none]

/-- One step at a time, with wishes that are refused, and a wait that is cut short. -/
def hesitant : Staging where
  stage := .nominal
  maxSteps := 1
  calls :=
    [.resume 1, .start bazaar, .continueInput, .resume 1, .start bazaar, .resume 1, .continueInput, .resume 1, .resume 1,
      .requestSkip, .resume 1, .resume 1, .selectChoice 2, .selectChoice 1, .resume 1, .resume 1, .resume 1, .takeEmitted,
      .resume 1, .continueInput, .resume 1, .resume 1]
  keepsTable := by simp [Call.KeepsTable]

def brisk : Staging where
  stage := .instant
  maxSteps := 100
  calls := [.start bazaar, .resume 0, .continueInput, .resume 0, .selectChoice 1, .resume 0, .continueInput, .resume 0]
  keepsTable := by simp [Call.KeepsTable]

theorem bazaar_transcripts_agree :
    (hesitant.rehearsal .standard (.ofNat 2)).Agree (brisk.rehearsal .standard (.ofNat 2)) ∧
      (hesitant.rehearsal .standard (.ofNat 2)).outcome = some (.finished []) ∧
      (brisk.rehearsal .standard (.ofNat 2)).outcome = some (.finished []) := by
  have started : (hesitant.rehearsal .standard (.ofNat 2)).started = [bazaar] := by decide +kernel
  have started' : (brisk.rehearsal .standard (.ofNat 2)).started = [bazaar] := by decide +kernel
  have alike : (hesitant.rehearsal .standard (.ofNat 2)).chosen <+: (brisk.rehearsal .standard (.ofNat 2)).chosen := by
    decide +kernel
  exact ⟨transcripts_agree hesitant brisk started started' (.inl alike), by decide +kernel, by decide +kernel⟩

end Staging

end Plotline
