import Plotline.Proofs.Interpreter.Offer

/-!
What the log complains of while programs run: instructions that are passed over, and labels that are not there. Under
the usual command table each complaint is about a mark of the run, and which marks are complained of can be read off
the program.
-/

namespace Plotline

/-- The program could not do what it says. -/
def Note.isComplaint : Note → Bool
  | instructionSkipped .. | undefinedLabel .. => true
  | _ => false

/-- What the log complains of, in order. -/
def Journal.complaints (j : Journal) : List Note :=
  j.reverse.filterMap fun
    | .note n => if n.isComplaint then some n else none
    | _ => none

namespace Journal

theorem complaints_cue (c : Cue) (j : Journal) : (j.cue c).complaints = j.complaints := by
  simp [complaints, cue]

theorem complaints_notes (ns : List Note) (j : Journal) :
    (j.notes ns).complaints = j.complaints ++ ns.filter Note.isComplaint := by
  induction ns generalizing j with
  | nil => exact (List.append_nil _).symm
  | cons n ns ih =>
      have first : (j.note n).complaints = j.complaints ++ [n].filter Note.isComplaint := by
        cases complains : n.isComplaint <;> simp [complaints, note, complains]
      have stepped : j.notes (n :: ns) = (j.note n).notes ns := rfl
      rw [stepped, ih, first, List.append_assoc, ← List.filter_append]
      rfl

theorem complaints_note {n : Note} (plain : n.isComplaint = false) (j : Journal) :
    (j.note n).complaints = j.complaints := by
  refine (complaints_notes [n] j).trans ?_
  rw [List.filter_cons_of_neg (by simp [plain])]
  exact List.append_nil _

end Journal

/-! ### What is complained of -/

/-- What is wrong with an instruction that lacks the name of an actor, or of the runner or the node that it triggers. -/
def Instruction.nameless? : Instruction → Option InstructionError
  | .actor name _ => if name.isEmpty then some .actorWithoutName else none
  | .trigger runner node => if runner.text.isEmpty || node.text.isEmpty then some .triggerWithoutTarget else none
  | _ => none

/-- Why a program of the archetype passes the instruction over, if it does. -/
def Instruction.refusal? (archetype : Archetype) : Instruction → Option InstructionError
  | .unknown => some .unknown
  | .choice _ options =>
    if archetype = .cinematicText then some (.noHandler .choice)
    else if options.isEmpty then some .choiceWithoutOptions
    else none
  | instruction => instruction.nameless?

namespace Program

/-- The complaint about a label that leads nowhere. -/
def astray? (p : Program) (cursor : Nat) (label : LabelName) : Option Note :=
  if .label label ∈ p.instructions then none else some (.undefinedLabel cursor label)

/-- The complaint about an instruction that is asked for. -/
def complaint? (p : Program) (cursor : Nat) (instruction : Instruction) : Option Note :=
  match instruction.refusal? p.archetype with
  | some error => some (.instructionSkipped cursor instruction.kind error)
  | none =>
    match instruction with
    | .jump label => p.astray? cursor label
    | _ => none

theorem resolve_complaints (p : Program) (label : LabelName) (cursor : Nat) :
    [(p.resolve label cursor).2].filter Note.isComplaint = (p.astray? cursor label).toList := by
  unfold resolve astray?
  cases found : p.position? label with
  | none => rw [if_neg (position?_eq_none.mp found)]; rfl
  | some target =>
      have defined : .label label ∈ p.instructions := List.mem_of_getElem? (position?_eq_some.mp found).1
      rw [if_pos defined]
      rfl

/-- An instruction that is carried out and is no jump gives nothing to complain of. -/
theorem complaint?_of_other {p : Program} {cursor : Nat} {instruction : Instruction}
    (accepted : instruction.refusal? p.archetype = none) (other : ∀ label, instruction ≠ .jump label) :
    p.complaint? cursor instruction = none := by
  unfold complaint?
  rw [accepted]
  cases instruction with
  | jump label => exact absurd rfl (other label)
  | _ => rfl

end Program

def Mark.complaint? : Mark → Option Note
  | fetched p cursor => p.instructions[cursor]?.bind (p.complaint? cursor)
  | accepted p cursor label => p.astray? cursor label

/-! ### One instruction -/

namespace Interpreter

variable {i : Interpreter} {program : Program} {instruction : Instruction}

/-- But for dialogue and choices all archetypes carry out instructions in the usual way. -/
theorem deedFor_standard (standard : i.table = .standard) {kind : InstructionKind}
    (known : instruction.kind = some kind) (plain : kind ≠ .dialogue ∧ kind ≠ .choice) (program : Program) :
    i.deedFor program instruction =
      (Handler.standard kind).perform ⟨program, i.cursor, i.cinematicReveal⟩ instruction := by
  have handler : CommandTable.standard.handler? program.archetype kind = some (.standard kind) := by
    cases program.archetype <;> cases kind <;> first | rfl | exact absurd rfl plain.1 | exact absurd rfl plain.2
  unfold deedFor handlerFor
  rw [standard, known]
  dsimp only
  rw [handler]
  rfl

/-- Cinematic text offers no choices. -/
theorem deedFor_choice (standard : i.table = .standard) (program : Program) (prompt : Option String)
    (options : List ChoiceOption) :
    i.deedFor program (.choice prompt options) =
      if program.archetype = .cinematicText then .error (.noHandler .choice)
      else (Handler.standard .choice).perform ⟨program, i.cursor, i.cinematicReveal⟩ (.choice prompt options) := by
  unfold deedFor handlerFor
  rw [standard]
  cases program.archetype <;> rfl

/-- What becomes of the instruction can be read off the program: why it is passed over, or what the log complains of as
it is carried out. -/
def Foretold (i : Interpreter) (program : Program) (instruction : Instruction) : Except InstructionError Deed → Prop
  | .error error => instruction.refusal? program.archetype = some error
  | .ok deed => deed.note.toList.filter Note.isComplaint = (program.complaint? i.cursor instruction).toList ∧
      instruction.refusal? program.archetype = none

theorem deedFor_foretold (standard : i.table = .standard) (program : Program) (instruction : Instruction) :
    i.Foretold program instruction (i.deedFor program instruction) := by
  have quiet : ∀ deed : Deed, deed.note.toList.filter Note.isComplaint = [] →
      instruction.refusal? program.archetype = none → (∀ label, instruction ≠ .jump label) →
        i.Foretold program instruction (.ok deed) := by
    intro deed silent accepted other
    refine ⟨?_, accepted⟩
    rw [silent, Program.complaint?_of_other accepted other]
    rfl
  cases instruction with
  | dialogue speaker text revealSeconds =>
      unfold deedFor handlerFor
      rw [standard]
      cases program.archetype <;> exact quiet _ rfl rfl nofun
  | actor name command =>
      rw [deedFor_standard standard rfl (by decide)]
      unfold Handler.perform
      dsimp only
      split
      · rename_i unnamed
        exact if_pos unnamed
      · rename_i named
        exact quiet _ rfl (if_neg named) nofun
  | choice prompt options =>
      rw [deedFor_choice standard]
      unfold Handler.perform
      dsimp only
      split
      · rename_i cinematic
        exact if_pos cinematic
      · rename_i other
        split
        · rename_i none
          exact (if_neg other).trans (if_pos none)
        · rename_i offered
          exact quiet _ rfl ((if_neg other).trans (if_neg offered)) nofun
  | jump label =>
      rw [deedFor_standard standard rfl (by decide)]
      exact ⟨program.resolve_complaints label i.cursor, rfl⟩
  | trigger runner node =>
      rw [deedFor_trigger standard]
      split
      · rename_i unnamed
        exact if_pos unnamed
      · rename_i named
        exact quiet _ rfl (if_neg named) nofun
  | unknown => exact rfl
  | _ =>
      rw [deedFor_standard standard rfl (by decide)]
      exact quiet _ rfl rfl nofun

/-! ### Runs -/

/-- The journal afterwards. -/
def Progress.journal : Progress → Journal
  | .next _ j => j
  | .stop _ _ j => j

theorem finish_complaints (ending : EndOfProgram) (i : Interpreter) (j : Journal) :
    (i.finish ending j).2.2.complaints = j.complaints := by
  have plain : (outcomeOf ending).2.isComplaint = false := by
    unfold outcomeOf
    split <;> rfl
  unfold finish
  dsimp only
  rw [Journal.complaints_note plain, Journal.complaints_cue, Journal.complaints_cue]

theorem follow_complaints (flow : Flow) (i : Interpreter) (j : Journal) :
    (i.follow flow j).journal.complaints = j.complaints := by
  cases flow with
  | waitForInput => exact j.complaints_cue _
  | waitFor duration =>
      unfold follow
      dsimp only
      split
      · rfl
      · exact j.complaints_cue _
  | finish ending => exact finish_complaints ending i j
  | _ => rfl

theorem giveCue_complaints (stage : Stage) (cue : Option Cue) (j : Journal) :
    (giveCue stage cue j).2.complaints = j.complaints := by
  cases cue with
  | none => rfl
  | some c => exact j.complaints_cue c

theorem step_complaints (standard : i.table = .standard) (loaded : i.program = some program) (stage : Stage)
    (j : Journal) :
    (i.step stage j).journal.complaints =
      j.complaints ++ (Mark.fetched program i.cursor).complaint?.toList := by
  unfold step Mark.complaint?
  rw [loaded]
  dsimp only
  cases program.instructions[i.cursor]? with
  | none => exact (follow_complaints _ i j).trans (List.append_nil _).symm
  | some instruction =>
      have foretold := deedFor_foretold standard program instruction
      rw [Option.bind_some]
      dsimp only
      split
      · rename_i error refused
        rw [refused] at foretold
        have complained : program.complaint? i.cursor instruction =
            some (.instructionSkipped i.cursor instruction.kind error) := by
          unfold Program.complaint?
          rw [show instruction.refusal? program.archetype = some error from foretold]
        rw [complained]
        exact j.complaints_notes [_]
      · rename_i deed made
        rw [made] at foretold
        rw [← foretold.1, ← Journal.complaints_notes]
        exact (follow_complaints _ _ _).trans (giveCue_complaints stage deed.cue _)

theorem run_complaints (stage : Stage) (budget : Nat) (standard : i.table = .standard) (j : Journal) :
    (i.run stage budget j).2.2.complaints =
      j.complaints ++ (i.fetches stage budget j).filterMap Mark.complaint? := by
  induction budget generalizing i j with
  | zero => exact (j.complaints_note rfl).trans (List.append_nil _).symm
  | succ budget ih =>
      unfold fetches
      rw [run]
      cases loaded : i.program with
      | none =>
          have idle : i.step stage j = .stop none i j := by
            unfold step
            rw [loaded]
          rw [idle]
          exact (List.append_nil _).symm
      | some program =>
          have complained := step_complaints standard loaded stage j
          have table := (step_voices standard stage j).table
          have first : ∀ ms : List Mark, (Mark.fetched program i.cursor :: ms).filterMap Mark.complaint? =
              (Mark.fetched program i.cursor).complaint?.toList ++ ms.filterMap Mark.complaint? := by
            intro ms
            cases complaint : (Mark.fetched program i.cursor).complaint? <;> simp [complaint]
          dsimp only
          rw [first, ← List.append_assoc]
          cases stepped : i.step stage j with
          | stop outcome i' j' =>
              rw [stepped] at complained
              rw [← complained]
              exact (List.append_nil _).symm
          | next i' j' =>
              rw [stepped] at complained table
              rw [← complained]
              exact ih (table.trans standard) j'

theorem settleSuspension_complaints (elapsed : Duration) (i : Interpreter) (j : Journal) :
    (i.settleSuspension elapsed j).2.2.complaints = j.complaints := by
  unfold settleSuspension
  split
  · rfl
  · split
    · rfl
    · exact j.complaints_cue _
  · rfl
  · split
    · exact ((j.note _).complaints_cue _).trans (j.complaints_note rfl)
    · split
      · exact j.complaints_cue _
      · rfl

theorem resume_complaints (stage : Stage) (elapsed : Duration) (standard : i.table = .standard) (j : Journal) :
    (i.resume stage elapsed j).2.2.complaints =
      j.complaints ++ (i.fetchesAfter stage elapsed j).filterMap Mark.complaint? := by
  have settled := settleSuspension_complaints elapsed i j
  have table := (settleSuspension_voices elapsed i j).table
  unfold fetchesAfter resume
  split
  · cases ended : i.settleSuspension elapsed j with
    | mk ready rest =>
        rw [ended] at settled table
        rw [← settled]
        cases ready with
        | true => exact run_complaints stage _ (table.trans standard) rest.2
        | false => exact (List.append_nil _).symm
  · exact (List.append_nil _).symm

theorem start_complaints (program : Program) (i : Interpreter) (j : Journal) :
    (i.start program j).2.2.complaints = j.complaints := by
  have plain : (program.labels.repeated.map fun entry => Note.repeatedLabel entry.1 entry.2).filter
      Note.isComplaint = [] := by
    refine List.filter_eq_nil_iff.mpr fun n member => ?_
    obtain ⟨entry, -, rfl⟩ := List.mem_map.mp member
    nofun
  unfold start
  split
  · exact j.complaints_note rfl
  · split
    · exact j.complaints_note rfl
    · rw [Journal.complaints_note rfl, Journal.complaints_notes, plain, List.append_nil]

/-- Of an option that is accepted the log complains if it leads nowhere. -/
theorem selectChoice_complaints {i' : Interpreter} {index : Nat} {j j' : Journal} (loaded : i.program = some program)
    {o : ChoiceOption} (found : i.options?.bind (·[index]?) = some o)
    (selected : i.selectChoice index j = .ok (i', j')) :
    j'.complaints = j.complaints ++ (program.astray? i.cursor o.target).toList := by
  unfold selectChoice at selected
  obtain ⟨options, offered, member⟩ := Option.bind_eq_some_iff.mp found
  rw [offered] at selected
  dsimp only at selected
  rw [member, loaded] at selected
  cases selected
  rw [← Program.resolve_complaints, ← j.complaints_note (n := .optionSelected index o.text i.cursor) rfl]
  exact Journal.complaints_notes [_] _

end Interpreter

namespace Rehearsal

theorem perform_complaints (stage : Stage) (call : Call) (keeps : call.KeepsTable) (r : Rehearsal)
    (poised : r.interpreter.Poised r.journal) (standard : r.interpreter.table = .standard) :
    (call.perform stage r).journal.complaints =
      r.journal.complaints ++ (call.marks stage r).filterMap Mark.complaint? := by
  have nothing : r.journal.complaints = r.journal.complaints ++ ([] : List Mark).filterMap Mark.complaint? :=
    (List.append_nil _).symm
  cases call with
  | start program =>
      have plain := Interpreter.start_complaints program r.interpreter r.journal
      dsimp only [Call.perform, Call.marks]
      split <;> (rename_i answered; rw [answered] at plain; exact plain.trans nothing)
  | resume elapsed => exact Interpreter.resume_complaints stage elapsed standard r.journal
  | continueInput =>
      dsimp only [Call.perform, Call.marks]
      split <;> exact nothing
  | selectChoice index =>
      dsimp only [Call.perform, Call.marks]
      cases selected : r.interpreter.selectChoice index r.journal with
      | ok result =>
          obtain ⟨program, o, loaded, found, -⟩ := Interpreter.selectChoice_passes poised selected
          rw [loaded, found]
          refine (Interpreter.selectChoice_complaints loaded found selected).trans (congrArg (_ ++ ·) ?_)
          cases astray : program.astray? r.interpreter.cursor o.target <;> simp [Mark.complaint?, astray]
      | error error =>
          rw [Interpreter.selectChoice_of_missing selected]
          cases r.interpreter.program <;> exact nothing
  | requestSkip => exact nothing
  | takeEmitted => exact nothing
  | setTable table => exact absurd keeps id

/-- The log complains of what is to be complained of in the marks of the run, and of nothing else. -/
theorem rehearse_complaints (stage : Stage) (calls : List Call) (keeps : ∀ call ∈ calls, call.KeepsTable)
    (r : Rehearsal) (poised : r.interpreter.Poised r.journal) (standard : r.interpreter.table = .standard) :
    (rehearse stage calls r).journal.complaints =
      r.journal.complaints ++ (marks stage calls r).filterMap Mark.complaint? := by
  induction calls generalizing r with
  | nil => exact (List.append_nil _).symm
  | cons call calls ih =>
      have kept := keeps call List.mem_cons_self
      have table := (perform_passes stage call kept r poised standard).table
      have later := ih (fun other member => keeps other (List.mem_cons_of_mem call member)) (call.perform stage r)
        (perform_poised stage call r poised) (table.trans standard)
      unfold marks
      rw [List.filterMap_append, ← List.append_assoc, ← perform_complaints stage call kept r poised standard]
      exact later

end Rehearsal

end Plotline
