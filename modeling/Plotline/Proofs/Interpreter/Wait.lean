import Mathlib.Data.List.Basic
import Plotline.Proofs.Interpreter.Deed
import Plotline.Proofs.Interpreter.Resume

/-!
Timed waits. A program begins to wait for time to pass when the stage has answered a cue with how long it takes, and is
then told to listen for the player's wish to skip. Such a wait ends the resumption in which it begins, and it is the time
of later resumptions that is charged to it.
-/

namespace Plotline

namespace Journal

/-- In what has been added the stage has not been told to listen for a skip, so no timed wait has begun. -/
def Waitless (j j' : Journal) : Prop :=
  ∃ entries, j' = entries ++ j ∧ Entry.cue (.skipListener true) ∉ entries

/-- In what has been added a timed wait begins: the stage says how long a cue takes, and is told to listen for a skip. -/
def BeginsWait (stage : Stage) (duration : Duration) (j j' : Journal) : Prop :=
  ∃ later earlier cue, j' = later ++ .cue (.skipListener true) :: .cue cue :: (earlier ++ j) ∧
    stage (earlier ++ j) cue = .after duration

namespace Waitless

variable {j j' j'' : Journal}

theorem refl (j : Journal) : j.Waitless j := ⟨[], rfl, List.not_mem_nil⟩

theorem trans (first : j.Waitless j') (last : j'.Waitless j'') : j.Waitless j'' := by
  obtain ⟨early, rfl, earlyFree⟩ := first
  obtain ⟨late, rfl, lateFree⟩ := last
  exact ⟨late ++ early, (List.append_assoc _ _ _).symm, List.mem_append.not.mpr (not_or.mpr ⟨lateFree, earlyFree⟩)⟩

theorem cons (entry : Entry) (other : entry ≠ .cue (.skipListener true)) (j : Journal) : j.Waitless (entry :: j) :=
  ⟨[entry], rfl, by simpa using other.symm⟩

theorem note (n : Note) (j : Journal) : j.Waitless (j.note n) := cons (.note n) nofun j

theorem notes (ns : List Note) (j : Journal) : j.Waitless (j.notes ns) := by
  induction ns generalizing j with
  | nil => exact refl j
  | cons n ns ih => exact (note n j).trans (ih (j.note n))

theorem cue {c : Cue} (other : c ≠ .skipListener true) (j : Journal) : j.Waitless (j.cue c) :=
  cons (.cue c) (by simpa using other) j

/-- Without a wait that begins there is none. -/
theorem not_beginsWait (waitless : j.Waitless j') (stage : Stage) (duration : Duration) :
    ¬ BeginsWait stage duration j j' := by
  rintro ⟨later, earlier, c, is, -⟩
  obtain ⟨entries, grown, free⟩ := waitless
  have same : entries = later ++ .cue (.skipListener true) :: .cue c :: earlier :=
    List.append_cancel_right ((grown.symm.trans is).trans (by simp))
  exact free (same ▸ List.mem_append_right _ List.mem_cons_self)

end Waitless

end Journal

namespace Interpreter

/-- The interpreter holds a program that waits for this time to pass, and no skip is asked for. -/
structure Holds (program : Program) (cursor : Nat) (remaining : Duration) (i : Interpreter) : Prop where
  program : i.program = some program
  cursor : i.cursor = cursor
  suspension : i.suspension = some (.timer remaining)
  unskipped : i.skipRequested = false

theorem remainingWait?_eq_some {i : Interpreter} {remaining : Duration} :
    i.remainingWait? = some remaining ↔ i.suspension = some (.timer remaining) := by
  unfold remainingWait?
  split
  · rename_i timer
    rw [timer]
    simp
  · rename_i other
    exact ⟨nofun, fun timer => absurd timer (other remaining)⟩

theorem remainingWait?_of_free {i : Interpreter} (free : i.suspension = none) : i.remainingWait? = none := by
  unfold remainingWait?
  rw [free]

theorem Holds.remaining {i : Interpreter} {program : Program} {cursor : Nat} {remaining : Duration}
    (holds : i.Holds program cursor remaining) : i.remainingWait? = some remaining :=
  remainingWait?_eq_some.mpr holds.suspension

/-- Since the journal was `j` either no timed wait has begun, and none is pending; or one has begun that is pending with
the whole of its time. -/
inductive Attends (stage : Stage) (j : Journal) (i : Interpreter) (j' : Journal) : Prop
  | free (waitless : j.Waitless j') (free : i.remainingWait? = none)
  | begun {program : Program} {cursor : Nat} {duration : Duration} {c : Cue} {earlier later : List Entry}
      (holds : i.Holds program cursor duration) (positive : 0 < duration)
      (grown : j' = later ++ .cue (.skipListener true) :: .cue c :: (earlier ++ j))
      (answer : stage (earlier ++ j) c = .after duration)
      (before : Entry.cue (.skipListener true) ∉ Entry.cue c :: earlier)
      (after : Entry.cue (.skipListener true) ∉ later)

namespace Attends

variable {stage : Stage} {i i' : Interpreter} {j j' j'' : Journal}

theorem head (first : j.Waitless j') (attends : Attends stage j' i j'') : Attends stage j i j'' := by
  cases attends with
  | free waitless free => exact .free (first.trans waitless) free
  | @begun program cursor duration c earlier later holds positive grown answer before after =>
      obtain ⟨entries, rfl, none⟩ := first
      rw [← List.append_assoc] at grown answer
      refine .begun holds positive grown answer ?_ after
      rw [← List.cons_append]
      exact List.mem_append.not.mpr (not_or.mpr ⟨before, none⟩)

theorem tail (attends : Attends stage j i j') (last : j'.Waitless j'')
    (program : i'.program = i.program) (cursor : i'.cursor = i.cursor) (suspension : i'.suspension = i.suspension)
    (unskipped : i'.skipRequested = i.skipRequested) : Attends stage j i' j'' := by
  cases attends with
  | free waitless free =>
      refine .free (waitless.trans last) ?_
      unfold remainingWait? at free ⊢
      rw [suspension]
      exact free
  | begun holds positive grown answer before after =>
      obtain ⟨entries, rfl, none⟩ := last
      refine .begun ⟨program.trans holds.program, cursor.trans holds.cursor, suspension.trans holds.suspension,
        unskipped.trans holds.unskipped⟩ positive ?_ answer before (List.mem_append.not.mpr (not_or.mpr ⟨none, after⟩))
      rw [grown, List.append_assoc]

/-- A wait that has begun is pending with the whole of its time. -/
theorem holds_of_beginsWait (attends : Attends stage j i j') {duration : Duration}
    (begins : j.BeginsWait stage duration j') : 0 < duration ∧ ∃ program cursor, i.Holds program cursor duration := by
  cases attends with
  | free waitless free => exact absurd begins (waitless.not_beginsWait stage duration)
  | @begun program cursor duration' c earlier later holds positive grown answer before after =>
      obtain ⟨later', earlier', c', grown', answer'⟩ := begins
      have same : later' ++ Entry.cue (.skipListener true) :: (.cue c' :: earlier') =
          later ++ Entry.cue (.skipListener true) :: (.cue c :: earlier) := by
        refine List.append_cancel_right (?_ : _ ++ j = _ ++ j)
        simpa using grown'.symm.trans grown
      obtain ⟨-, -, parts⟩ := (List.append_cons_inj_of_notMem after before).mp same.symm
      obtain ⟨rfl, rfl⟩ : c = c' ∧ earlier = earlier' := by simpa using parts
      cases answer'.symm.trans answer
      exact ⟨positive, program, cursor, holds⟩

/-- A wait that is pending has begun. -/
theorem beginsWait_of_remaining (attends : Attends stage j i j') {duration : Duration}
    (remaining : i.remainingWait? = some duration) : j.BeginsWait stage duration j' := by
  cases attends with
  | free waitless free => cases free.symm.trans remaining
  | @begun program cursor duration' c earlier later holds positive grown answer before after =>
      cases holds.remaining.symm.trans remaining
      exact ⟨later, earlier, c, grown, answer⟩

end Attends

end Interpreter

/-! ### Carrying out instructions -/

/-- Time passes only for a cue that the stage has said to take it. -/
theorem Handler.answer_of_waitFor {run : RunView} {handler : Handler} {instruction : Instruction} {deed : Deed}
    (performed : handler.perform run instruction = .ok deed) {answer : Completion} {duration : Duration}
    (waits : deed.flow answer = .waitFor duration) : answer = .after duration ∧ ∃ c, deed.cue = some c := by
  have completes : ∀ {answer : Completion}, Flow.ofCompletion answer = .waitFor duration → answer = .after duration := by
    intro answer waits
    cases answer <;> cases waits
    rfl
  unfold Handler.perform at performed
  split at performed <;> (try split at performed) <;> cases performed <;> (try dsimp only at waits) <;>
    (try split at waits) <;> first | cases waits | exact ⟨completes waits, _, rfl⟩

namespace Interpreter

variable {i : Interpreter} {j : Journal}

theorem deedFor_answer_of_waitFor {program : Program} {instruction : Instruction} {deed : Deed}
    (found : i.deedFor program instruction = .ok deed) {answer : Completion} {duration : Duration}
    (waits : deed.flow answer = .waitFor duration) : answer = .after duration ∧ ∃ c, deed.cue = some c := by
  unfold deedFor at found
  cases handler : i.handlerFor program.archetype instruction with
  | error error => rw [handler] at found; cases found
  | ok handler' => rw [handler] at found; exact Handler.answer_of_waitFor found waits

/-- What has become of waits when an instruction has been carried out; if the program goes on, it waits for nothing. -/
def Progress.Attends (stage : Stage) (j : Journal) : Progress → Prop
  | .next i' j' => i'.suspension = none ∧ j.Waitless j'
  | .stop _ i' j' => i'.Attends stage j j'

theorem finish_attends (stage : Stage) (ending : EndOfProgram) (i : Interpreter) (j : Journal) :
    (i.finish ending j).2.1.Attends stage j (i.finish ending j).2.2 := by
  have closed := (Journal.Waitless.cue (c := .continueListener false) nofun j).trans
    (.cue (c := .skipListener false) nofun _)
  exact .free (closed.trans (.note _ _)) rfl

/-- Whatever follows an instruction that does not make the program wait for time. -/
theorem follow_attends (stage : Stage) (free : i.suspension = none) {flow : Flow}
    (untimed : ∀ duration, flow = .waitFor duration → duration = 0) : (i.follow flow j).Attends stage j := by
  cases flow with
  | advance => exact ⟨free, .refl j⟩
  | redirect target => exact ⟨free, .refl j⟩
  | waitForInput => exact .free (.cue (c := .continueListener true) nofun j) rfl
  | waitForChoice options => exact .free (.refl j) rfl
  | waitFor duration =>
      rw [follow, if_pos (untimed duration rfl)]
      exact ⟨free, .refl j⟩
  | finish ending => exact finish_attends stage ending i j

theorem step_attends (stage : Stage) (i : Interpreter) (j : Journal) (free : i.suspension = none) :
    (i.step stage j).Attends stage j := by
  unfold step
  split
  · exact .free (.refl j) (remainingWait?_of_free free)
  · rename_i program loaded
    split
    · exact follow_attends stage free nofun
    · rename_i instruction found
      split
      · exact ⟨free, .note _ j⟩
      · rename_i deed made
        have regular := deedFor_regular (List.getElem?_eq_some_iff.mp found).1 made
        have noted := Journal.Waitless.notes deed.note.toList j
        have shown : ∀ c ∈ deed.cue, c ≠ .skipListener true := by
          rintro c member rfl
          cases regular.cue _ member
        cases given : giveCue stage deed.cue (j.notes deed.note.toList) with
        | mk answer j' =>
            have cued : j.Waitless j' := by
              cases cue : deed.cue with
              | none =>
                  rw [cue] at given
                  cases given
                  exact noted
              | some c =>
                  rw [cue] at given
                  cases given
                  exact noted.trans (.cue (shown c cue) _)
            dsimp only
            by_cases timed : ∃ duration, deed.flow answer = .waitFor duration ∧ duration ≠ 0
            -- the wait is due to the answer that the stage has just given
            · obtain ⟨duration, waits, positive⟩ := timed
              obtain ⟨rfl, c, cue⟩ := deedFor_answer_of_waitFor made waits
              rw [cue] at given
              obtain ⟨answer, rfl⟩ := Prod.mk.inj given
              obtain ⟨earlier, grown, none⟩ := noted
              rw [waits, follow, if_neg positive]
              have cued : (j.notes deed.note.toList).cue c = .cue c :: (earlier ++ j) := congrArg (Entry.cue c :: ·) grown
              have other := shown c cue
              refine .begun ⟨loaded, rfl, rfl, rfl⟩ (Nat.pos_of_ne_zero positive) ?_ (grown ▸ answer) ?_ List.not_mem_nil
              · rw [cued]
                rfl
              · simpa [none] using other.symm
            · have untimed : ∀ duration, deed.flow answer = .waitFor duration → duration = 0 := by
                intro duration waits
                by_contra positive
                exact timed ⟨duration, waits, positive⟩
              have follows := follow_attends (i := { i with emitted := deed.emitted.toList ++ i.emitted }) (j := j')
                stage free untimed
              cases followed : follow (deed.flow answer) { i with emitted := deed.emitted.toList ++ i.emitted } j' with
              | next i'' j'' =>
                  rw [followed] at follows
                  exact ⟨follows.1, cued.trans follows.2⟩
              | stop outcome i'' j'' =>
                  rw [followed] at follows
                  exact .head cued follows

theorem run_attends (stage : Stage) (budget : Nat) (i : Interpreter) (j : Journal) (free : i.suspension = none) :
    (i.run stage budget j).2.1.Attends stage j (i.run stage budget j).2.2 := by
  induction budget generalizing i j with
  | zero => exact .free (.note _ j) (remainingWait?_of_free free)
  | succ budget ih =>
      have carried := step_attends stage i j free
      rw [run]
      cases stepped : i.step stage j with
      | stop outcome i' j' =>
          rw [stepped] at carried
          exact carried
      | next i' j' =>
          rw [stepped] at carried
          exact .head carried.2 (ih i' j' carried.1)

/-! ### Going on -/

/-- The wait goes on: neither is it over after this time, nor is a skip asked for. -/
def StillWaits (elapsed : Duration) (i : Interpreter) : Prop :=
  ∃ remaining, i.suspension = some (.timer remaining) ∧ i.skipRequested = false ∧ elapsed < remaining

theorem settleSuspension_waitless (elapsed : Duration) (i : Interpreter) (j : Journal) (spent : ¬ i.StillWaits elapsed) :
    j.Waitless (i.settleSuspension elapsed j).2.2 ∧
      ((i.settleSuspension elapsed j).1 = true → (i.settleSuspension elapsed j).2.1.suspension = none) ∧
        ((i.settleSuspension elapsed j).1 = false → (i.settleSuspension elapsed j).2.1.remainingWait? = none) := by
  unfold settleSuspension
  split
  · rename_i free
    exact ⟨.refl j, fun _ => free, nofun⟩
  · rename_i input
    split
    · exact ⟨.refl j, nofun, fun _ => by simp [remainingWait?, input]⟩
    · exact ⟨.cue (c := .continueListener false) nofun j, fun _ => rfl, nofun⟩
  · rename_i choice
    exact ⟨.refl j, nofun, fun _ => by simp [remainingWait?, choice]⟩
  · rename_i remaining timer
    have closed := fun j : Journal => Journal.Waitless.cue (c := .skipListener false) (by nofun) j
    split
    · exact ⟨(Journal.Waitless.note _ j).trans (closed _), fun _ => rfl, nofun⟩
    · rename_i unskipped
      split
      · exact ⟨closed j, fun _ => rfl, nofun⟩
      · rename_i short
        exact absurd ⟨remaining, timer, by simpa using unskipped, Nat.not_le.mp short⟩ spent

/-- A resumption in which no timed wait goes on may begin one, which then has the whole of its time before it. -/
theorem resume_attends (stage : Stage) (elapsed : Duration) (i : Interpreter) (j : Journal)
    (running : i.isRunning = true) (spent : ¬ i.StillWaits elapsed) :
    (i.resume stage elapsed j).2.1.Attends stage j (i.resume stage elapsed j).2.2 := by
  have settled := settleSuspension_waitless elapsed i j spent
  unfold resume
  rw [if_pos running]
  cases ended : i.settleSuspension elapsed j with
  | mk ready rest =>
      rw [ended] at settled
      obtain ⟨waitless, ready', blocked⟩ := settled
      cases ready with
      | true => exact .head waitless (run_attends stage _ rest.1 rest.2 (ready' rfl))
      | false => exact .free waitless (blocked rfl)

section

variable {program : Program} {cursor : Nat} {remaining elapsed : Duration}

theorem Holds.running (holds : i.Holds program cursor remaining) : i.isRunning = true := by
  simp [isRunning, holds.program]

/-- As long as its time is not over, a wait goes on, and nothing else happens. -/
theorem resume_of_short (holds : i.Holds program cursor remaining) (short : elapsed < remaining) (stage : Stage)
    (j : Journal) :
    i.resume stage elapsed j = (none, { i with suspension := some (.timer (remaining - elapsed)) }, j) := by
  have settled : i.settleSuspension elapsed j =
      (false, { i with suspension := some (.timer (remaining - elapsed)) }, j) := by
    unfold settleSuspension
    rw [holds.suspension]
    dsimp only
    rw [holds.unskipped, if_neg Bool.false_ne_true, if_neg (Nat.not_le.mpr short)]
  unfold resume
  rw [if_pos holds.running, settled]
  rfl

/-- A wait whose time is over ends, and the program goes on with the next instruction as if no time had passed. -/
theorem resume_of_over (holds : i.Holds program cursor remaining) (spent : remaining ≤ elapsed) (stage : Stage)
    (j : Journal) : i.resume stage elapsed j = i.goOn.resume stage 0 (j.cue (.skipListener false)) := by
  have settled : i.settleSuspension elapsed j = (true, i.goOn, j.cue (.skipListener false)) := by
    unfold settleSuspension
    rw [holds.suspension]
    dsimp only
    rw [holds.unskipped, if_neg Bool.false_ne_true, if_pos spent]
  have running : i.goOn.isRunning = true := holds.running
  unfold resume
  rw [if_pos holds.running, if_pos running, settled]
  rfl

end

/-- Where no timed wait is pending it makes no difference how much time has passed. -/
theorem resume_of_free (free : i.remainingWait? = none) (stage : Stage) (elapsed : Duration) (j : Journal) :
    i.resume stage elapsed j = i.resume stage 0 j := by
  have settled : i.settleSuspension elapsed j = i.settleSuspension 0 j := by
    unfold settleSuspension
    split
    · rfl
    · rfl
    · rfl
    · rename_i remaining timer
      cases free.symm.trans (remainingWait?_eq_some.mpr timer)
  unfold resume
  rw [settled]

end Interpreter

end Plotline
