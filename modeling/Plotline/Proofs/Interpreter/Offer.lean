import Plotline.Proofs.Interpreter.Landing
import Plotline.Proofs.Interpreter.Resume

/-!
Whose labels a run follows. A program waits for a choice only at the instruction that offers it; so a label that a run
is sent to is one that the instruction at the cursor refers to, however late the choice is made. And all of a run is
about programs that were started.
-/

namespace Plotline

/-- The instruction there can send the program to the label. -/
inductive Program.Refers (p : Program) (cursor : Nat) (label : LabelName) : Prop
  | jump (here : p.instructions[cursor]? = some (.jump label))
  | option {prompt : Option String} {options : List ChoiceOption} {o : ChoiceOption}
      (here : p.instructions[cursor]? = some (.choice prompt options)) (member : o ∈ options)
      (target : o.target = label)

/-- Only a choice makes the program wait for one, and only for its own options. -/
theorem Handler.choice_of_waits {run : RunView} {handler : Handler} {instruction : Instruction} {deed : Deed}
    (performed : handler.perform run instruction = .ok deed) {answer : Completion} {options : List ChoiceOption}
    (waits : deed.flow answer = .waitForChoice options) : ∃ prompt, instruction = .choice prompt options := by
  have untimed : Flow.ofCompletion answer ≠ .waitForChoice options := by cases answer <;> nofun
  unfold perform at performed
  split at performed
  case h_5 => -- an actor
    split at performed
    · cases performed
    · rename_i name command _
      cases performed
      cases command with
      | appear position => cases waits
      | _ => exact absurd waits untimed
  case h_9 => -- a choice
    split at performed
    · cases performed
    · cases performed
      cases waits
      exact ⟨_, rfl⟩
  case h_14 => -- audio
    rename_i command
    cases performed
    cases command with
    | playOneShot clip => cases waits
    | _ => exact absurd waits untimed
  case h_22 => -- a trigger
    split at performed
    · cases performed
    · cases performed
      cases waits
  all_goals cases performed
  all_goals first
    | cases waits
    | exact absurd waits untimed

namespace Interpreter

variable {i i' : Interpreter}

/-- What is offered is what the instruction at the cursor offers. -/
def Offering (i : Interpreter) : Prop :=
  ∀ options, i.suspension = some (.choice options) →
    ∃ program prompt, i.program = some program ∧ program.instructions[i.cursor]? = some (.choice prompt options)

theorem offering_of_free (free : i.suspension = none) : i.Offering := by
  intro options offered
  cases free.symm.trans offered

/-- The offer stands where nothing moves. -/
theorem Offering.of_same (offering : i.Offering) (program : i'.program = i.program) (cursor : i'.cursor = i.cursor)
    (suspension : i'.suspension = i.suspension) : i'.Offering := by
  intro options offered
  rw [program, cursor]
  exact offering options (suspension.symm.trans offered)

/-- One instruction has been carried out; if the program goes on, it waits for nothing. -/
def Progress.Offering : Progress → Prop
  | .next i _ => i.suspension = none
  | .stop _ i _ => i.Offering

theorem follow_offering (free : i.suspension = none) {flow : Flow}
    (choice : ∀ options, flow = .waitForChoice options →
      ∃ program prompt, i.program = some program ∧ program.instructions[i.cursor]? = some (.choice prompt options))
    (j : Journal) : (i.follow flow j).Offering := by
  cases flow with
  | advance => exact free
  | redirect target => exact free
  | waitForInput => exact fun _ offered => nomatch offered
  | waitForChoice options =>
      rintro _ ⟨⟩
      exact choice options rfl
  | waitFor duration =>
      unfold follow
      dsimp only
      split
      · exact free
      · exact fun _ offered => nomatch offered
  | finish ending => exact offering_of_free rfl

theorem step_offering (free : i.suspension = none) (stage : Stage) (j : Journal) : (i.step stage j).Offering := by
  unfold step
  split
  · exact offering_of_free free
  · rename_i program loaded
    split
    · exact offering_of_free rfl
    · rename_i instruction found
      split
      · exact free
      · rename_i deed made
        refine follow_offering (i := { i with emitted := deed.emitted.toList ++ i.emitted }) free ?_ _
        intro options waits
        unfold deedFor at made
        cases handler : i.handlerFor program.archetype instruction with
        | error error => rw [handler] at made; cases made
        | ok handler' =>
            rw [handler] at made
            obtain ⟨prompt, rfl⟩ := Handler.choice_of_waits made waits
            exact ⟨program, prompt, loaded, found⟩

theorem run_offering (stage : Stage) (budget : Nat) (free : i.suspension = none) (j : Journal) :
    (i.run stage budget j).2.1.Offering := by
  induction budget generalizing i j with
  | zero => exact offering_of_free free
  | succ budget ih =>
      have offering := step_offering free stage j
      rw [run]
      cases stepped : i.step stage j with
      | stop outcome i' j' => rw [stepped] at offering; exact offering
      | next i' j' => rw [stepped] at offering; exact ih offering j'

theorem settleSuspension_offering (elapsed : Duration) (offering : i.Offering) (j : Journal) :
    (i.settleSuspension elapsed j).2.1.Offering ∧
      ((i.settleSuspension elapsed j).1 = true → (i.settleSuspension elapsed j).2.1.suspension = none) := by
  unfold settleSuspension
  split
  · rename_i free
    exact ⟨offering, fun _ => free⟩
  · split
    · exact ⟨offering, nofun⟩
    · exact ⟨offering_of_free rfl, fun _ => rfl⟩
  · exact ⟨offering, nofun⟩
  · split
    · exact ⟨offering_of_free rfl, fun _ => rfl⟩
    · split
      · exact ⟨offering_of_free rfl, fun _ => rfl⟩
      · exact ⟨fun _ offered => (nomatch offered), nofun⟩

theorem resume_offering (stage : Stage) (elapsed : Duration) (offering : i.Offering) (j : Journal) :
    (i.resume stage elapsed j).2.1.Offering := by
  obtain ⟨settled, free⟩ := settleSuspension_offering elapsed offering j
  unfold resume
  split
  · cases ended : i.settleSuspension elapsed j with
    | mk ready rest =>
        rw [ended] at settled free
        cases ready with
        | true => exact run_offering stage _ (free rfl) rest.2
        | false => exact settled
  · exact offering

/-- What a run passes by itself is instructions that are asked for. -/
theorem accepted_not_mem_fetches (stage : Stage) (budget : Nat) (i : Interpreter) (j : Journal) {p : Program}
    {cursor : Nat} {label : LabelName} : .accepted p cursor label ∉ i.fetches stage budget j := by
  induction budget generalizing i j with
  | zero => exact List.not_mem_nil
  | succ budget ih =>
      unfold fetches
      split
      · exact List.not_mem_nil
      · intro member
        rcases List.mem_cons.mp member with same | later
        · cases same
        · split at later
          · cases later
          · exact ih _ _ later

theorem accepted_not_mem_fetchesAfter (stage : Stage) (elapsed : Duration) (i : Interpreter) (j : Journal)
    {p : Program} {cursor : Nat} {label : LabelName} :
    .accepted p cursor label ∉ i.fetchesAfter stage elapsed j := by
  unfold fetchesAfter
  split
  · dsimp only
    split
    · exact accepted_not_mem_fetches stage _ _ _
    · exact List.not_mem_nil
  · exact List.not_mem_nil

theorem start_offering (program : Program) (offering : i.Offering) (j : Journal) :
    (i.start program j).2.1.Offering := by
  unfold start
  split
  · exact offering
  · split
    · exact offering
    · exact offering_of_free rfl

end Interpreter

namespace Rehearsal

theorem perform_offering (stage : Stage) (call : Call) (r : Rehearsal) (offering : r.interpreter.Offering) :
    (call.perform stage r).interpreter.Offering := by
  cases call with
  | start program =>
      have started := Interpreter.start_offering program offering r.journal
      dsimp only [Call.perform]
      split <;> (rename_i answered; rw [answered] at started; exact started)
  | resume elapsed => exact Interpreter.resume_offering stage elapsed offering r.journal
  | continueInput =>
      dsimp only [Call.perform]
      split
      · rename_i continued
        unfold Interpreter.continueInput at continued
        split at continued <;> cases continued
        exact offering.of_same rfl rfl rfl
      · exact offering
  | selectChoice index =>
      dsimp only [Call.perform]
      split
      · rename_i selected
        unfold Interpreter.selectChoice at selected
        split at selected
        · cases selected
        · split at selected <;> cases selected
          exact Interpreter.offering_of_free rfl
      · exact offering
  | requestSkip => exact offering.of_same rfl rfl rfl
  | takeEmitted => exact offering.of_same rfl rfl rfl
  | setTable table => exact offering.of_same rfl rfl rfl

/-- An option that is accepted is one of those that the instruction at the cursor offers. -/
theorem refers_of_accepted (stage : Stage) (call : Call) (r : Rehearsal) (offering : r.interpreter.Offering)
    {p : Program} {cursor : Nat} {label : LabelName} (accepted : .accepted p cursor label ∈ call.marks stage r) :
    p.Refers cursor label := by
  cases call with
  | resume elapsed => exact absurd accepted (Interpreter.accepted_not_mem_fetchesAfter stage elapsed _ _)
  | selectChoice index =>
      dsimp only [Call.marks] at accepted
      split at accepted
      · rename_i program o loaded found
        cases List.mem_singleton.mp accepted
        obtain ⟨options, offered, member⟩ := Option.bind_eq_some_iff.mp found
        obtain ⟨_, prompt, held, here⟩ := offering options (Interpreter.options?_eq_some offered)
        cases loaded.symm.trans held
        exact .option here (List.mem_of_getElem? member) rfl
      · cases accepted
  | _ => cases accepted

theorem refers_of_turns (stage : Stage) (calls : List Call) (r : Rehearsal) (offering : r.interpreter.Offering)
    {m : Mark} (member : m ∈ marks stage calls r) {p : Program} {cursor : Nat} {label : LabelName}
    (turns : m.Turns p cursor label) : p.Refers cursor label := by
  induction calls generalizing r with
  | nil => cases member
  | cons call calls ih =>
      rcases List.mem_append.mp member with now | later
      · cases turns with
        | jump here => exact .jump here
        | option => exact refers_of_accepted stage call r offering now
      · exact ih _ (perform_offering stage call r offering) later

end Rehearsal

/-! ### Programs that were started -/

namespace Interpreter

theorem program_of_fetches (stage : Stage) (budget : Nat) (i : Interpreter) (j : Journal) {m : Mark}
    (member : m ∈ i.fetches stage budget j) : i.program = some m.program := by
  induction budget generalizing i j with
  | zero => cases member
  | succ budget ih =>
      unfold fetches at member
      split at member
      · cases member
      · rename_i program loaded
        have orderly := step_orderly stage i j
        rcases List.mem_cons.mp member with rfl | later
        · exact loaded
        · split at later
          · cases later
          · rename_i i' j' stepped
            rw [stepped] at orderly
            exact orderly.program.symm.trans (ih i' j' later)

theorem program_of_fetchesAfter (stage : Stage) (elapsed : Duration) (i : Interpreter) (j : Journal) {m : Mark}
    (member : m ∈ i.fetchesAfter stage elapsed j) : i.program = some m.program := by
  have settled := (settleSuspension_yields elapsed i j).program
  unfold fetchesAfter at member
  split at member
  · dsimp only at member
    split at member
    · exact settled.symm.trans (program_of_fetches stage _ _ _ member)
    · cases member
  · cases member

end Interpreter

namespace Rehearsal

theorem program_of_marks (stage : Stage) (call : Call) (r : Rehearsal) {m : Mark} (member : m ∈ call.marks stage r) :
    r.interpreter.program = some m.program := by
  cases call with
  | resume elapsed => exact Interpreter.program_of_fetchesAfter stage elapsed _ _ member
  | selectChoice index =>
      dsimp only [Call.marks] at member
      split at member
      · rename_i program o loaded found
        cases List.mem_singleton.mp member
        exact loaded
      · cases member
  | _ => cases member

/-- The program that is loaded after a call was loaded before, or the call has loaded it. -/
theorem program_of_perform (stage : Stage) (call : Call) (r : Rehearsal) {p : Program}
    (loaded : (call.perform stage r).interpreter.program = some p) :
    r.interpreter.program = some p ∨ call = .start p := by
  cases call with
  | start program =>
      have started : (r.interpreter.start program r.journal).2.1.program = some p →
          r.interpreter.program = some p ∨ Call.start program = .start p := by
        intro held
        unfold Interpreter.start at held
        split at held
        · exact .inl held
        · split at held
          · exact .inl held
          · exact .inr (congrArg Call.start (Option.some.inj held))
      dsimp only [Call.perform] at loaded
      split at loaded <;> (rename_i answered; rw [answered] at started; exact started loaded)
  | resume elapsed =>
      have kept := (Interpreter.resume_yields stage elapsed r.interpreter r.journal).program
      have held : (r.interpreter.resume stage elapsed r.journal).2.1.program = some p := loaded
      rw [kept] at held
      unfold Interpreter.programAfter at held
      split at held
      · exact .inl held
      · cases held
  | continueInput =>
      dsimp only [Call.perform] at loaded
      split at loaded
      · rename_i continued
        unfold Interpreter.continueInput at continued
        split at continued <;> cases continued
        exact .inl loaded
      · exact .inl loaded
  | selectChoice index =>
      dsimp only [Call.perform] at loaded
      split at loaded
      · rename_i selected
        unfold Interpreter.selectChoice at selected
        split at selected
        · cases selected
        · split at selected <;> cases selected
          exact .inl loaded
      · exact .inl loaded
  | requestSkip => exact .inl loaded
  | takeEmitted => exact .inl loaded
  | setTable table => exact .inl loaded

/-- What a run passes it passes in the program that was there, or in one that is started on the way. -/
theorem started_of_marks (stage : Stage) (calls : List Call) (r : Rehearsal) {m : Mark}
    (member : m ∈ marks stage calls r) : r.interpreter.program = some m.program ∨ .start m.program ∈ calls := by
  induction calls generalizing r with
  | nil => cases member
  | cons call calls ih =>
      rcases List.mem_append.mp member with now | later
      · exact .inl (program_of_marks stage call r now)
      · rcases ih _ later with loaded | started
        · rcases program_of_perform stage call r loaded with held | rfl
          · exact .inl held
          · exact .inr List.mem_cons_self
        · exact .inr (List.mem_cons_of_mem call started)

end Rehearsal

end Plotline
