import Plotline.Proofs.Interpreter.Rehearsal
import Plotline.Proofs.Interpreter.Telling

/-!
The interpreter tells a script: each instruction it carries out, and each resumption as a whole, takes the script from
the place where the program stands to the place where it stands then, and shows and emits what is told on the way.
-/

namespace Plotline

namespace Journal

@[simp] theorem presented_note (n : Note) (j : Journal) : (j.note n).presented = j.presented := by
  simp [presented, cues, note, List.filterMap_append]

@[simp] theorem presented_notes (ns : List Note) (j : Journal) : (j.notes ns).presented = j.presented := by
  induction ns generalizing j with
  | nil => rfl
  | cons n ns ih => exact (ih (j.note n)).trans (presented_note n j)

theorem presented_cue (c : Cue) (j : Journal) :
    (j.cue c).presented = j.presented ++ if c.isPresentation then [c] else [] := by
  simp [presented, cues, cue, List.filterMap_append, List.filter_cons]

@[simp] theorem presented_continueListener (on : Bool) (j : Journal) :
    (j.cue (.continueListener on)).presented = j.presented :=
  (presented_cue _ j).trans (List.append_nil _)

@[simp] theorem presented_skipListener (on : Bool) (j : Journal) :
    (j.cue (.skipListener on)).presented = j.presented :=
  (presented_cue _ j).trans (List.append_nil _)

end Journal

namespace Interpreter

/-- Where the loaded program has come to. A wait for the player's wish or for time to pass is over as soon as it has
begun, as far as the telling goes. -/
def place (i : Interpreter) : Place :=
  match i.suspension with
  | none => .before i.cursor
  | some .input | some (.timer _) => .before (i.cursor + 1)
  | some (.choice options) => .choosing i.cursor options

theorem place_of_free {i : Interpreter} (free : i.suspension = none) : i.place = .before i.cursor := by
  unfold place
  rw [free]

structure Performs (s : Script) (i : Interpreter) : Prop where
  program : i.program = some s.program
  table : i.table = s.table
  cinematicReveal : i.cinematicReveal = s.cinematicReveal

theorem Performs.deedFor {s : Script} {i : Interpreter} (performs : i.Performs s) (instruction : Instruction) :
    (s.interpreter i.cursor).deedFor s.program instruction = i.deedFor s.program instruction := by
  unfold Interpreter.deedFor handlerFor
  rw [performs.table, performs.cinematicReveal]
  rfl

/-- In going from one state to the next the interpreter has told this. -/
structure Utters (told : Told) (i : Interpreter) (j : Journal) (i' : Interpreter) (j' : Journal) : Prop where
  cues : j'.presented = j.presented ++ told.cues
  events : i'.emitted.reverse = i.emitted.reverse ++ told.events

theorem utters_nothing {i i' : Interpreter} {j j' : Journal} (shown : j'.presented = j.presented)
    (emitted : i'.emitted = i.emitted) : Utters {} i j i' j' :=
  ⟨by simp [shown], by simp [emitted]⟩

theorem Utters.trans {first later : Told} {i i' i'' : Interpreter} {j j' j'' : Journal}
    (head : Utters first i j i' j') (tail : Utters later i' j' i'' j'') :
    Utters (first.followedBy later) i j i'' j'' := by
  constructor
  · rw [tail.cues, head.cues, List.append_assoc]
    rfl
  · rw [tail.events, head.events, List.append_assoc]
    rfl

/-- The script has come to the place: the interpreter stands there, or has ended there. -/
def Arrives (s : Script) (place : Place) (i : Interpreter) : Option ProgramOutcome → Prop
  | none => i.Performs s ∧ i.place = place
  | some outcome => i.program = none ∧ i.suspension = none ∧ place = .ended outcome

/-- From the state before an instruction it has told this and come to the place. -/
def Progress.Comes (s : Script) (told : Told) (place : Place) (i : Interpreter) (j : Journal) : Progress → Prop
  | .next i' j' => Utters told i j i' j' ∧ Arrives s place i' none ∧ i'.suspension = none
  | .stop outcome i' j' => Utters told i j i' j' ∧ Arrives s place i' outcome

theorem Progress.Comes.after {s : Script} {told : Told} {place : Place} {i i' : Interpreter} {j j' : Journal}
    {p : Progress} (head : Utters told i j i' j') (tail : p.Comes s {} place i' j') : p.Comes s told place i j := by
  have whole : ∀ {i'' j''}, Utters {} i' j' i'' j'' → Utters told i j i'' j'' := by
    intro i'' j'' last
    have uttered := head.trans last
    rwa [Told.followedBy_nothing] at uttered
  cases p with
  | next i'' j'' => exact ⟨whole tail.1, tail.2⟩
  | stop outcome i'' j'' => exact ⟨whole tail.1, tail.2⟩

variable {s : Script} {i : Interpreter} {j : Journal}

theorem finish_comes (ending : EndOfProgram) :
    Progress.Comes s {} (.ended (outcomeOf ending).1) i j
      (.stop (some (i.finish ending j).1) (i.finish ending j).2.1 (i.finish ending j).2.2) := by
  refine ⟨utters_nothing ?_ rfl, rfl, rfl, rfl⟩
  simp [finish]

theorem follow_comes (performs : i.Performs s) (free : i.suspension = none) (flow : Flow) :
    (i.follow flow j).Comes s {} (flow.heading.placeFrom i.cursor) i j := by
  have still : ∀ cursor, Arrives s (.before cursor) { i with cursor } none := by
    intro cursor
    exact ⟨{ performs with }, place_of_free free⟩
  cases flow with
  | advance => exact ⟨utters_nothing rfl rfl, still _, free⟩
  | redirect target => exact ⟨utters_nothing rfl rfl, still _, free⟩
  | waitForInput => exact ⟨utters_nothing (by simp) rfl, { performs with }, rfl⟩
  | waitForChoice options => exact ⟨utters_nothing rfl rfl, { performs with }, rfl⟩
  | waitFor duration =>
      by_cases none : duration = 0
      · rw [follow, if_pos none]
        exact ⟨utters_nothing rfl rfl, still _, free⟩
      · rw [follow, if_neg none]
        exact ⟨utters_nothing (by simp) rfl, { performs with }, rfl⟩
  | finish ending => exact finish_comes ending

theorem giveCue_presented (stage : Stage) {cue : Option Cue} (shows : ∀ c ∈ cue, c.isPresentation = true)
    (j : Journal) : Journal.presented (giveCue stage cue j).2 = j.presented ++ cue.toList := by
  cases cue with
  | none => simp [giveCue]
  | some c => simp [giveCue, Journal.presented_cue, shows c rfl]

/-- What the deed shows and emits is told, and the program goes on where the deed leads, whatever the answer. -/
theorem deed_comes (stage : Stage) (performs : i.Performs s) (free : i.suspension = none) {deed : Deed} {run : RunView}
    (regular : deed.Regular run) :
    Progress.Comes s ⟨deed.cue.toList, deed.emitted.toList⟩ ((deed.flow .immediate).heading.placeFrom i.cursor) i j
      (follow (deed.flow (giveCue stage deed.cue (j.notes deed.note.toList)).1)
        { i with emitted := deed.emitted.toList ++ i.emitted }
        (giveCue stage deed.cue (j.notes deed.note.toList)).2) := by
  have shown := giveCue_presented stage regular.cue (j.notes deed.note.toList)
  rw [Journal.presented_notes] at shown
  have uttered : Utters ⟨deed.cue.toList, deed.emitted.toList⟩ i j
      { i with emitted := deed.emitted.toList ++ i.emitted }
      (giveCue stage deed.cue (j.notes deed.note.toList)).2 := by
    refine ⟨shown, ?_⟩
    cases deed.emitted <;> simp
  rw [regular.steady .immediate (giveCue stage deed.cue (j.notes deed.note.toList)).1]
  exact .after uttered (follow_comes (i := { i with emitted := deed.emitted.toList ++ i.emitted }) { performs with } free _)

/-- One instruction is carried out as the script tells it. -/
theorem step_comes (stage : Stage) (performs : i.Performs s) (free : i.suspension = none) :
    ∃ told place, s.tell? i.place = some (told, place) ∧ (i.step stage j).Comes s told place i j := by
  rw [place_of_free free]
  unfold step
  split
  · rename_i idle
    cases idle.symm.trans performs.program
  · rename_i program loaded
    obtain rfl := Option.some.inj (loaded.symm.trans performs.program)
    unfold Script.tell?
    dsimp only
    cases found : s.program.instructions[i.cursor]? with
    | none => exact ⟨_, _, rfl, follow_comes performs free (.finish {})⟩
    | some instruction =>
        dsimp only
        rw [performs.deedFor]
        cases made : i.deedFor s.program instruction with
        | error error =>
            refine ⟨_, _, rfl, utters_nothing (by simp) rfl, ⟨{ performs with }, ?_⟩, free⟩
            exact place_of_free free
        | ok deed =>
            have regular := deedFor_regular (List.getElem?_eq_some_iff.mp found).1 made
            exact ⟨_, _, rfl, deed_comes stage performs free regular⟩

/-- In one resumption the script has told this, from where it stood to the place. -/
def Recites (s : Script) (i : Interpreter) (j : Journal) (result : Option ProgramOutcome × Interpreter × Journal) :
    Prop :=
  ∃ told place, s.Tells i.place [] told place ∧ Utters told i j result.2.1 result.2.2 ∧ Arrives s place result.2.1 result.1

theorem run_recites (stage : Stage) (budget : Nat) (performs : i.Performs s) (free : i.suspension = none) :
    Recites s i j (i.run stage budget j) := by
  induction budget generalizing i j with
  | zero => exact ⟨_, _, .here, utters_nothing (Journal.presented_note _ j) rfl, performs, rfl⟩
  | succ budget ih =>
      obtain ⟨first, middle, told, comes⟩ := step_comes stage (j := j) performs free
      rw [run]
      cases stepped : i.step stage j with
      | stop outcome i' j' =>
          rw [stepped] at comes
          exact ⟨first, middle, .single told, comes.1, comes.2⟩
      | next i' j' =>
          rw [stepped] at comes
          obtain ⟨uttered, ⟨performs', stands⟩, free'⟩ := comes
          obtain ⟨later, place, tells, utters, arrives⟩ := ih performs' free'
          rw [stands] at tells
          exact ⟨_, place, .next told tells, uttered.trans utters, arrives⟩

/-- A wait that ends changes nothing about where the program has come to. -/
theorem settleSuspension_stays (elapsed : Duration) (performs : i.Performs s) :
    Utters {} i j (i.settleSuspension elapsed j).2.1 (i.settleSuspension elapsed j).2.2 ∧
      Arrives s i.place (i.settleSuspension elapsed j).2.1 none ∧
      ((i.settleSuspension elapsed j).1 = true → (i.settleSuspension elapsed j).2.1.suspension = none) := by
  have same : Utters {} i j i j := utters_nothing rfl rfl
  unfold settleSuspension
  split
  · rename_i free
    exact ⟨same, ⟨performs, rfl⟩, fun _ => free⟩
  · rename_i input
    have stands : i.goOn.place = i.place := by simp [place, goOn, input]
    split
    · exact ⟨same, ⟨performs, rfl⟩, nofun⟩
    · exact ⟨utters_nothing (by simp) rfl, ⟨{ performs with }, stands⟩, fun _ => rfl⟩
  · exact ⟨same, ⟨performs, rfl⟩, nofun⟩
  · rename_i remaining timer
    have stands : i.goOn.place = i.place := by simp [place, goOn, timer]
    split
    · exact ⟨utters_nothing (by simp) rfl, ⟨{ performs with }, stands⟩, fun _ => rfl⟩
    · split
      · exact ⟨utters_nothing (by simp) rfl, ⟨{ performs with }, stands⟩, fun _ => rfl⟩
      · exact ⟨utters_nothing rfl rfl, ⟨{ performs with }, by simp [place, timer]⟩, nofun⟩

theorem resume_recites (stage : Stage) (elapsed : Duration) (performs : i.Performs s) :
    Recites s i j (i.resume stage elapsed j) := by
  have running : i.isRunning = true := by simp [isRunning, performs.program]
  obtain ⟨uttered, ⟨performs', stands⟩, free⟩ := settleSuspension_stays (j := j) elapsed performs
  unfold resume
  rw [if_pos running]
  cases settled : i.settleSuspension elapsed j with
  | mk ready rest =>
      rw [settled] at uttered performs' stands free
      cases ready with
      | true =>
          obtain ⟨told, place, tells, utters, arrives⟩ := run_recites stage rest.1.maxSteps (j := rest.2) performs' (free rfl)
          rw [stands] at tells
          exact ⟨told, place, tells, uttered.trans utters, arrives⟩
      | false => exact ⟨_, _, .here, uttered, performs', stands⟩

end Interpreter

end Plotline
