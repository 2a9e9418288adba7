import Plotline.Proofs.Interpreter.Deed
import Plotline.Proofs.Interpreter.Indexed

/-!
What holds of a bare interpreter between any two calls: an idle one holds nothing, a wait is one that can end, the
cursor stands within the program, and the stage listens for the player exactly where the program waits for one. So it is
with the flag and the table of an interpreter that keeps an index: where the flag is down, neither a program nor a label
is held.
-/

namespace Plotline

namespace Cue

def continues? : Cue → Option Bool
  | continueListener on => some on
  | _ => none

def skips? : Cue → Option Bool
  | skipListener on => some on
  | _ => none

end Cue

namespace Journal

/-- What the last cue that said anything of the kind has said. -/
def last? (view : Cue → Option Bool) (j : Journal) : Option Bool :=
  j.findSome? fun
    | .cue c => view c
    | _ => none

@[simp] theorem last?_note (view : Cue → Option Bool) (n : Note) (j : Journal) :
    (j.note n).last? view = j.last? view := rfl

@[simp] theorem last?_notes (view : Cue → Option Bool) (ns : List Note) (j : Journal) :
    (j.notes ns).last? view = j.last? view := by
  induction ns generalizing j with
  | nil => rfl
  | cons n ns ih => exact (ih (j.note n)).trans (last?_note view n j)

theorem last?_cue (view : Cue → Option Bool) (c : Cue) (j : Journal) :
    (j.cue c).last? view = (view c).or (j.last? view) := by
  unfold last? cue
  rw [List.findSome?_cons]
  cases told : view c <;> simp [told]

/-- The stage listens for no wish of the player. -/
structure Deaf (j : Journal) : Prop where
  continues : j.last? Cue.continues? ≠ some true
  skips : j.last? Cue.skips? ≠ some true

namespace Deaf

variable {j j' : Journal}

theorem of_same (deaf : j.Deaf) (continues : j'.last? Cue.continues? = j.last? Cue.continues?)
    (skips : j'.last? Cue.skips? = j.last? Cue.skips?) : j'.Deaf :=
  ⟨continues ▸ deaf.continues, skips ▸ deaf.skips⟩

theorem note (deaf : j.Deaf) (n : Note) : (j.note n).Deaf := deaf.of_same rfl rfl

theorem notes (deaf : j.Deaf) (ns : List Note) : (j.notes ns).Deaf :=
  deaf.of_same (last?_notes _ ns j) (last?_notes _ ns j)

theorem cue (deaf : j.Deaf) {c : Cue} (shows : c.isPresentation = true) : (j.cue c).Deaf := by
  have neither : c.continues? = none ∧ c.skips? = none := by
    cases c <;> first | exact ⟨rfl, rfl⟩ | cases shows
  refine deaf.of_same ?_ ?_ <;> rw [last?_cue]
  · rw [neither.1, Option.none_or]
  · rw [neither.2, Option.none_or]

end Deaf

end Journal

namespace Interpreter

/-- What holds of an interpreter and the journal of its stage between two calls. -/
structure Poised (i : Interpreter) (j : Journal) : Prop where
  idle : i.program = none → i.suspension = none ∧ i.waitingForInput = false
  waits : i.waitingForInput = true → i.suspension = some .input
  offers : ∀ options, i.suspension = some (.choice options) → options ≠ []
  timed : ∀ remaining, i.suspension = some (.timer remaining) → remaining ≠ 0
  within : ∀ program, i.program = some program → i.cursor ≤ program.length ∧
    (i.suspension.isSome = true → i.cursor < program.length)
  continues : j.last? Cue.continues? = some true ↔ i.suspension = some .input
  skips : j.last? Cue.skips? = some true ↔ ∃ remaining, i.suspension = some (.timer remaining)

variable {i i' : Interpreter} {j j' : Journal} {program : Program}

theorem poised_of_idle (idle : i.program = none) (free : i.suspension = none) (ready : i.waitingForInput = false)
    (deaf : j.Deaf) : Poised i j where
  idle _ := ⟨free, ready⟩
  waits := by simp [ready]
  offers := by simp [free]
  timed := by simp [free]
  within := by simp [idle]
  continues := by simp [free, deaf.continues]
  skips := by simp [free, deaf.skips]

/-- A program is loaded that waits for nothing. -/
theorem poised_of_going (loaded : i.program = some program) (free : i.suspension = none)
    (ready : i.waitingForInput = false) (within : i.cursor ≤ program.length) (deaf : j.Deaf) : Poised i j where
  idle := by simp [loaded]
  waits := by simp [ready]
  offers := by simp [free]
  timed := by simp [free]
  within := by simp [loaded, free, within]
  continues := by simp [free, deaf.continues]
  skips := by simp [free, deaf.skips]

namespace Poised

theorem ready (poised : Poised i j) (other : i.suspension ≠ some .input) : i.waitingForInput = false := by
  cases waiting : i.waitingForInput with
  | false => rfl
  | true => exact absurd (poised.waits waiting) other

theorem deaf (poised : Poised i j) (free : i.suspension = none) : j.Deaf := by
  constructor
  · rw [Ne, poised.continues, free]
    nofun
  · rw [Ne, poised.skips, free]
    nofun

/-- Only a loaded program waits. -/
theorem loaded (poised : Poised i j) (waits : i.suspension ≠ none) : ∃ program, i.program = some program := by
  cases held : i.program with
  | some program => exact ⟨program, rfl⟩
  | none => exact absurd (poised.idle held).1 waits

end Poised

/-! ### Carrying out instructions -/

/-- An instruction has been carried out; if the program goes on, it waits for nothing. -/
def Progress.Poised : Progress → Prop
  | .next i j => i.Poised j ∧ i.suspension = none ∧ i.isRunning = true
  | .stop _ i j => i.Poised j

theorem next_poised (loaded : i.program = some program) (free : i.suspension = none)
    (ready : i.waitingForInput = false) (within : i.cursor ≤ program.length) (deaf : j.Deaf) :
    (Progress.next i j).Poised :=
  ⟨poised_of_going loaded free ready within deaf, free, by simp [isRunning, loaded]⟩

theorem finish_poised (ending : EndOfProgram) (i : Interpreter) (j : Journal) :
    (i.finish ending j).2.1.Poised (i.finish ending j).2.2 := by
  have deaf : Journal.Deaf ((j.cue (.continueListener false)).cue (.skipListener false)) := by
    constructor <;> simp [Journal.last?_cue, Cue.continues?, Cue.skips?]
  exact poised_of_idle rfl rfl rfl (deaf.note _)

theorem follow_poised (loaded : i.program = some program) (free : i.suspension = none)
    (ready : i.waitingForInput = false) (within : i.cursor < program.length) (deaf : j.Deaf) {flow : Flow}
    (fits : flow.heading.Fits program) : (i.follow flow j).Poised := by
  cases flow with
  | advance => exact next_poised loaded free ready within deaf
  | redirect target => exact next_poised loaded free ready fits deaf
  | waitForInput =>
      exact
        { idle := by simp [loaded]
          waits := by simp
          offers := by simp
          timed := by simp
          within := by simp [loaded, within, Nat.le_of_lt within]
          continues := by simp [Journal.last?_cue, Cue.continues?]
          skips := by simpa [Journal.last?_cue, Cue.skips?] using deaf.skips }
  | waitForChoice options =>
      exact
        { idle := by simp [loaded]
          waits := by simp [ready]
          offers := by
            intro others offered
            cases offered
            exact fits
          timed := by simp
          within := by simp [loaded, within, Nat.le_of_lt within]
          continues := by simpa using deaf.continues
          skips := by simpa using deaf.skips }
  | waitFor duration =>
      by_cases none : duration = 0
      · rw [follow, if_pos none]
        exact next_poised loaded free ready within deaf
      · rw [follow, if_neg none]
        exact
          { idle := by simp [loaded]
            waits := by simp [ready]
            offers := by simp
            timed := by simpa using none
            within := by simp [loaded, within, Nat.le_of_lt within]
            continues := by simpa [Journal.last?_cue, Cue.continues?] using deaf.continues
            skips := by simp [Journal.last?_cue, Cue.skips?] }
  | finish ending => exact finish_poised ending i j

theorem giveCue_deaf (stage : Stage) {cue : Option Cue} (shows : ∀ c ∈ cue, c.isPresentation = true)
    (deaf : j.Deaf) : Journal.Deaf (giveCue stage cue j).2 := by
  cases cue with
  | none => exact deaf
  | some c => exact deaf.cue (shows c rfl)

theorem step_poised (stage : Stage) (poised : Poised i j) (free : i.suspension = none) :
    (i.step stage j).Poised := by
  have ready := poised.ready (by simp [free])
  have deaf := poised.deaf free
  unfold step
  split
  · exact poised
  · rename_i program loaded
    split
    · exact finish_poised {} i j
    · rename_i instruction found
      have within : i.cursor < program.length := (List.getElem?_eq_some_iff.mp found).1
      split
      · exact next_poised loaded free ready within (deaf.note _)
      · rename_i deed made
        have regular := deedFor_regular within made
        have cued := giveCue_deaf stage regular.cue (deaf.notes deed.note.toList)
        cases given : giveCue stage deed.cue (j.notes deed.note.toList) with
        | mk answer j' =>
            rw [given] at cued
            exact follow_poised (i := { i with emitted := deed.emitted.toList ++ i.emitted }) loaded free ready within
              cued (regular.fits answer)

theorem run_poised (stage : Stage) (budget : Nat) (poised : Poised i j) (free : i.suspension = none)
    (running : i.isRunning = true) : (i.run stage budget j).2.1.Poised (i.run stage budget j).2.2 := by
  induction budget generalizing i j with
  | zero =>
      obtain ⟨program, loaded⟩ := Option.isSome_iff_exists.mp running
      exact poised_of_going loaded free (poised.ready (by simp [free])) (poised.within program loaded).1
        ((poised.deaf free).note _)
  | succ budget ih =>
      have carried := step_poised stage poised free
      rw [run]
      cases stepped : i.step stage j with
      | stop outcome i' j' =>
          rw [stepped] at carried
          exact carried
      | next i' j' =>
          rw [stepped] at carried
          exact ih carried.1 carried.2.1 carried.2.2

/-! ### Calls -/

theorem Poised.note (poised : Poised i j) (n : Note) : Poised i (j.note n) :=
  { poised with }

/-- A wait that is over leaves the program free to go on. -/
structure Settled (i : Interpreter) (result : Bool × Interpreter × Journal) : Prop where
  poised : result.2.1.Poised result.2.2
  free : result.1 = true → result.2.1.suspension = none
  running : result.2.1.isRunning = i.isRunning

theorem goOn_poised (poised : Poised i j) (waited : i.suspension ≠ none) (ready : i.waitingForInput = false)
    (deaf : j'.Deaf) : i.goOn.Poised j' := by
  obtain ⟨program, loaded⟩ := poised.loaded waited
  have within := (poised.within program loaded).2 (Option.isSome_iff_ne_none.mpr waited)
  exact poised_of_going loaded rfl ready within deaf

theorem settleSuspension_settled (elapsed : Duration) (poised : Poised i j) :
    Settled i (i.settleSuspension elapsed j) := by
  unfold settleSuspension
  split
  · rename_i free
    exact ⟨poised, fun _ => free, rfl⟩
  · rename_i input
    split
    · exact ⟨poised, nofun, rfl⟩
    · rename_i ready
      have deaf : (j.cue (.continueListener false)).Deaf := by
        constructor
        · simp [Journal.last?_cue, Cue.continues?]
        · simpa [Journal.last?_cue, Cue.skips?, input] using poised.skips
      exact ⟨goOn_poised poised (by simp [input]) (by simpa using ready) deaf, fun _ => rfl, rfl⟩
  · exact ⟨poised, nofun, rfl⟩
  · rename_i remaining timer
    have ready := poised.ready (by simp [timer])
    have deaf : (j.cue (.skipListener false)).Deaf := by
      constructor
      · simpa [Journal.last?_cue, Cue.continues?, timer] using poised.continues
      · simp [Journal.last?_cue, Cue.skips?]
    have gone := goOn_poised poised (by simp [timer]) ready deaf
    split
    · exact ⟨{ gone with }, fun _ => rfl, rfl⟩
    · split
      · exact ⟨gone, fun _ => rfl, rfl⟩
      · rename_i short
        obtain ⟨program, loaded⟩ := poised.loaded (by simp [timer])
        refine ⟨?_, nofun, rfl⟩
        exact
          { idle := by simp [loaded]
            waits := by simp [ready]
            offers := by simp
            timed := by
              intro rest waits
              cases waits
              exact Nat.sub_ne_zero_of_lt (Nat.not_le.mp short)
            within := by simpa [timer] using poised.within
            continues := by simpa [timer] using poised.continues
            skips := by simpa [timer] using poised.skips }

theorem start_poised (program : Program) (poised : Poised i j) :
    (i.start program j).2.1.Poised (i.start program j).2.2 := by
  unfold start
  split
  · exact poised.note _
  · rename_i idle
    split
    · exact poised.note _
    · have free := (poised.idle (by simpa [isRunning] using idle)).1
      exact poised_of_going rfl rfl rfl (Nat.zero_le _) (((poised.deaf free).notes _).note _)

theorem resume_poised (stage : Stage) (elapsed : Duration) (poised : Poised i j) :
    (i.resume stage elapsed j).2.1.Poised (i.resume stage elapsed j).2.2 := by
  have settled := settleSuspension_settled elapsed poised
  unfold resume
  split
  · rename_i running
    cases ended : i.settleSuspension elapsed j with
    | mk ready rest =>
        rw [ended] at settled
        cases ready with
        | true => exact run_poised stage _ settled.poised (settled.free rfl) (settled.running.trans running)
        | false => exact settled.poised
  · exact poised

theorem options?_eq_some {options : List ChoiceOption} (offered : i.options? = some options) :
    i.suspension = some (.choice options) := by
  unfold options? at offered
  split at offered
  · cases offered
    assumption
  · cases offered

theorem selectChoice_poised {index : Nat} (poised : Poised i j)
    (selected : i.selectChoice index j = .ok (i', j')) : i'.Poised j' := by
  unfold selectChoice at selected
  split at selected
  · cases selected
  · rename_i options offered
    have choice := options?_eq_some offered
    split at selected
    · cases selected
    · rename_i option _
      cases selected
      obtain ⟨program, loaded⟩ := poised.loaded (by simp [choice])
      have within := (poised.within program loaded).2 (by simp [choice])
      have ready := poised.ready (by simp [choice])
      have deaf : j.Deaf := by
        constructor
        · simpa [choice] using poised.continues
        · simpa [choice] using poised.skips
      refine poised_of_going loaded rfl ready ?_ ((deaf.note _).note _)
      rw [loaded]
      exact Program.resolve_le within option.target

theorem continueInput_poised (poised : Poised i j) (continued : i.continueInput = .ok i') : i'.Poised j := by
  unfold continueInput at continued
  split at continued
  · cases continued
    exact { poised with idle := fun idle => ⟨(poised.idle idle).1, rfl⟩, waits := nofun }
  · cases continued

end Interpreter

namespace Rehearsal

theorem ofSettings_poised (settings : InterpreterSettings) (table : CommandTable) :
    (ofSettings settings table).interpreter.Poised (ofSettings settings table).journal :=
  Interpreter.poised_of_idle rfl rfl rfl ⟨nofun, nofun⟩

theorem perform_poised (stage : Stage) (call : Call) (r : Rehearsal) (poised : r.interpreter.Poised r.journal) :
    (call.perform stage r).interpreter.Poised (call.perform stage r).journal := by
  cases call with
  | start program =>
      have begun := Interpreter.start_poised program poised
      dsimp only [Call.perform]
      split <;> (rename_i answered; rw [answered] at begun; exact begun)
  | resume elapsed => exact Interpreter.resume_poised stage elapsed poised
  | continueInput =>
      dsimp only [Call.perform]
      split
      · exact Interpreter.continueInput_poised poised ‹_›
      · exact poised
  | selectChoice index =>
      dsimp only [Call.perform]
      split
      · exact Interpreter.selectChoice_poised poised ‹_›
      · exact poised
  | requestSkip => exact { poised with }
  | takeEmitted => exact { poised with }
  | setTable table => exact { poised with }

/-- After every sequence of calls the interpreter is poised, whatever programs it was given, whatever its stage
answered, and whatever became of its command table. -/
theorem rehearse_poised (stage : Stage) (settings : InterpreterSettings) (table : CommandTable) (calls : List Call) :
    (rehearse stage calls (ofSettings settings table)).interpreter.Poised
      (rehearse stage calls (ofSettings settings table)).journal :=
  rehearse_keeps (fun call r (_ : True) poised => perform_poised stage call r poised) calls _ (fun _ _ => trivial)
    (ofSettings_poised settings table)

end Rehearsal

/-! ### Flag and table -/

namespace Interpreter.Indexed

/-- What holds of an interpreter with its flag and its table, and of the journal of its stage, between two calls. -/
structure Poised (x : Indexed) (j : Journal) : Prop where
  idle : x.running = false → x.interpreter.program = none ∧ x.labels = [] ∧ x.interpreter.suspension = none ∧
    x.interpreter.waitingForInput = false
  runs : x.running = true → ∃ program, x.interpreter.program = some program ∧ x.labels = program.labels.first ∧
    x.interpreter.cursor ≤ program.length ∧
      (x.interpreter.suspension.isSome = true → x.interpreter.cursor < program.length)
  waits : x.interpreter.waitingForInput = true → x.interpreter.suspension = some .input
  offers : ∀ options, x.interpreter.suspension = some (.choice options) → options ≠ []
  timed : ∀ remaining, x.interpreter.suspension = some (.timer remaining) → remaining ≠ 0
  continues : j.last? Cue.continues? = some true ↔ x.interpreter.suspension = some .input
  skips : j.last? Cue.skips? = some true ↔ ∃ remaining, x.interpreter.suspension = some (.timer remaining)

theorem poised_of_plain {i : Interpreter} {j : Journal} (poised : Interpreter.Poised i j) : i.indexed.Poised j where
  idle stopped := by
    rcases Option.eq_none_or_eq_some i.program with idle | ⟨program, loaded⟩
    · obtain ⟨free, ready⟩ := poised.idle idle
      rw [indexed_idle idle]
      exact ⟨idle, rfl, free, ready⟩
    · rw [indexed_loaded loaded] at stopped
      cases stopped
  runs running := by
    obtain ⟨program, loaded⟩ := Option.isSome_iff_exists.mp running
    rw [indexed_loaded loaded]
    exact ⟨program, loaded, rfl, poised.within program loaded⟩
  waits := poised.waits
  offers := poised.offers
  timed := poised.timed
  continues := poised.continues
  skips := poised.skips

/-- After every sequence of calls the interpreter is poised, with its flag and its table, whatever programs it was given,
whatever its stage answered, and whatever became of its command table. -/
theorem poised_after_calls (stage : Stage) (settings : InterpreterSettings) (table : CommandTable)
    (calls : List Call) :
    let (_, x, j) := (ofSettings settings table).performAll stage calls []
    x.Poised j := by
  have same := performAll_eq stage calls (Rehearsal.ofSettings settings table)
  change (ofSettings settings table).performAll stage calls [] = _ at same
  rw [same]
  exact poised_of_plain (Rehearsal.rehearse_poised stage settings table calls)

end Interpreter.Indexed

end Plotline
