import Plotline.Proofs.Interpreter.Rehearsal
import Plotline.Proofs.Interpreter.Resume
import Plotline.Proofs.Story.Label

/-!
Interpreters that keep an index. Such an interpreter says by a flag whether it runs, and it has a table of the labels of
its program: both are set when a program starts and cleared when it ends. Handlers get to see the table and not the
program. From a new interpreter on, flag and table always belong to the program that is loaded, and so all calls come to
the same as if the program itself was asked for and searched.
-/

namespace Plotline

/-- For each label the place where it stands first. -/
abbrev LabelTable := List (LabelName × Nat)

/-- Where a label leads by the table, and what there is to say about it. -/
def LabelTable.resolve (labels : LabelTable) (label : LabelName) (cursor : Nat) : Nat × Note :=
  match labels.lookup label with
  | some target => (target, .jumped cursor target label)
  | none => (cursor + 1, .undefinedLabel cursor label)

/-- What a handler gets to see of a run. -/
structure RunSight where
  labels : LabelTable
  cursor : Nat
  cinematicReveal : Duration

/-- Carries out the instruction by what there is to see. Only the handler of jumps looks at the labels. -/
def Handler.performBy (sight : RunSight) : Handler → Instruction → Except InstructionError Deed
  | .standard .jump, .jump label =>
    let (target, note) := sight.labels.resolve label sight.cursor
    .ok { note := some note, flow := fun _ => .redirect target }
  | handler, instruction => handler.perform ⟨{}, sight.cursor, sight.cinematicReveal⟩ instruction

namespace Interpreter

structure Indexed where
  interpreter : Interpreter
  running : Bool := false
  labels : LabelTable := []

namespace Indexed

/-- A new interpreter with the command table. -/
def ofSettings (settings : InterpreterSettings) (table : CommandTable) : Indexed :=
  { interpreter := { Interpreter.ofSettings settings with table } }

/-- Loads a program, and makes the table of its labels. -/
def start (program : Program) (x : Indexed) (j : Journal) : Except SceneError Unit × Indexed × Journal :=
  if x.running then (.error .interpreterBusy, x, j.note .startWhileRunning)
  else if program.isEmpty then (.error .emptyProgram, x, j.note .startOfEmptyProgram)
  else
    let index := program.labels
    let j := j.notes (index.repeated.map fun (label, position) => .repeatedLabel label position)
    let loaded :=
      { x.interpreter with
        program := some program
        cursor := 0
        waitingForInput := false
        skipRequested := false
        suspension := none }
    (.ok (), ⟨loaded, true, index.first⟩, j.note (.programStarted program.archetype program.length))

/-- Goes on where the table has the label of the option with the given number. -/
def selectChoice (index : Nat) (x : Indexed) (j : Journal) : Except SceneError (Indexed × Journal) :=
  match x.interpreter.options? with
  | none => .error (.notWaiting .choice)
  | some options =>
    match options[index]? with
    | none => .error (.invalidChoice index options.length)
    | some option =>
      let (target, note) := x.labels.resolve option.target x.interpreter.cursor
      .ok
        ({ x with interpreter := { x.interpreter with cursor := target, suspension := none } },
          (j.note (.optionSelected index option.text x.interpreter.cursor)).note note)

def settleSuspension (elapsed : Duration) (x : Indexed) (j : Journal) : Bool × Indexed × Journal :=
  let (ready, i, j) := x.interpreter.settleSuspension elapsed j
  (ready, { x with interpreter := i }, j)

/-- Puts the program away, and the table with it. -/
def finish (ending : EndOfProgram) (x : Indexed) (j : Journal) : ProgramOutcome × Indexed × Journal :=
  let (outcome, i, j) := x.interpreter.finish ending j
  (outcome, ⟨i, false, []⟩, j)

inductive Progress
  | next (x : Indexed) (j : Journal)
  | stop (outcome : Option ProgramOutcome) (x : Indexed) (j : Journal)

/-- Of all that can follow an instruction, only the end of the program concerns the flag and the table. -/
def follow (flow : Flow) (x : Indexed) (j : Journal) : Progress :=
  match flow with
  | .finish ending =>
    let (outcome, x, j) := x.finish ending j
    .stop (some outcome) x j
  | flow =>
    match x.interpreter.follow flow j with
    | .next i j => .next { x with interpreter := i } j
    | .stop outcome i j => .stop outcome { x with interpreter := i } j

def deedFor (x : Indexed) (archetype : Archetype) (instruction : Instruction) : Except InstructionError Deed := do
  let handler ← x.interpreter.handlerFor archetype instruction
  handler.performBy ⟨x.labels, x.interpreter.cursor, x.interpreter.cinematicReveal⟩ instruction

/-- Moves on to the next instruction. -/
def advance (x : Indexed) : Indexed := { x with interpreter.cursor := x.interpreter.cursor + 1 }

def emit (event : Option StoryEvent) (x : Indexed) : Indexed :=
  { x with interpreter.emitted := event.toList ++ x.interpreter.emitted }

def step (stage : Stage) (x : Indexed) (j : Journal) : Progress :=
  match x.interpreter.program with
  | none => .stop none x j
  | some program =>
    match program.instructions[x.interpreter.cursor]? with
    | none => x.follow (.finish {}) j
    | some instruction =>
      match x.deedFor program.archetype instruction with
      | .error error =>
        .next x.advance (j.note (.instructionSkipped x.interpreter.cursor instruction.kind error))
      | .ok deed =>
        let (answer, j) := giveCue stage deed.cue (j.notes deed.note.toList)
        (x.emit deed.emitted).follow (deed.flow answer) j

def run (stage : Stage) (budget : Nat) (x : Indexed) (j : Journal) : Option ProgramOutcome × Indexed × Journal :=
  match budget with
  | 0 => (none, x, j.note (.budgetExhausted x.interpreter.maxSteps x.interpreter.cursor))
  | budget + 1 =>
    match x.step stage j with
    | .stop outcome x j => (outcome, x, j)
    | .next x j => run stage budget x j

def resume (stage : Stage) (elapsed : Duration) (x : Indexed) (j : Journal) :
    Option ProgramOutcome × Indexed × Journal :=
  if x.running then
    let (ready, x, j) := x.settleSuspension elapsed j
    if ready then x.run stage x.interpreter.maxSteps j else (none, x, j)
  else (none, x, j)

/-- The call is made, and answered. -/
def perform (stage : Stage) : Call → Indexed → Journal → Call.Answer × Indexed × Journal
  | .start program, x, j =>
    match x.start program j with
    | (.ok (), x, j) => (.granted, x, j)
    | (.error error, x, j) => (.refused error, x, j)
  | .resume elapsed, x, j =>
    let (outcome, x, j) := x.resume stage elapsed j
    (.outcome outcome, x, j)
  | .continueInput, x, j =>
    match x.interpreter.continueInput with
    | .ok i => (.granted, { x with interpreter := i }, j)
    | .error error => (.refused error, x, j)
  | .selectChoice index, x, j =>
    match x.selectChoice index j with
    | .ok (x, j) => (.granted, x, j)
    | .error error => (.refused error, x, j)
  | .requestSkip, x, j => (.granted, { x with interpreter := x.interpreter.requestSkip }, j)
  | .takeEmitted, x, j =>
    let (events, i) := x.interpreter.takeEmitted
    (.events events, { x with interpreter := i }, j)
  | .setTable table, x, j => (.granted, { x with interpreter.table := table }, j)

/-- The calls are made one after the other. -/
def performAll (stage : Stage) : List Call → Indexed → Journal → List Call.Answer × Indexed × Journal
  | [], x, j => ([], x, j)
  | call :: calls, x, j =>
    let (answer, x, j) := x.perform stage call j
    let (answers, x, j) := x.performAll stage calls j
    (answer :: answers, x, j)

end Indexed

/-! ### Flag and table belong to the program -/

/-- The interpreter with the flag and the table that belong to its program. -/
def indexed (i : Interpreter) : Indexed where
  interpreter := i
  running := i.program.isSome
  labels := (i.program.map (·.labels.first)).getD []

def Progress.indexed : Progress → Indexed.Progress
  | .next i j => .next i.indexed j
  | .stop outcome i j => .stop outcome i.indexed j

@[simp] theorem indexed_interpreter (i : Interpreter) : i.indexed.interpreter = i := rfl

variable {i : Interpreter} {program : Program}

theorem indexed_idle (idle : i.program = none) : i.indexed = ⟨i, false, []⟩ := by
  rw [indexed, idle]
  rfl

theorem indexed_loaded (loaded : i.program = some program) : i.indexed = ⟨i, true, program.labels.first⟩ := by
  rw [indexed, loaded]
  rfl

/-- While the program is the same, so are the flag and the table. -/
theorem indexed_of_program {i' : Interpreter} (program : i'.program = i.program) :
    { i.indexed with interpreter := i' } = i'.indexed := by
  unfold indexed
  rw [program]

end Interpreter

/-- The table leads where the program itself would. -/
theorem Program.resolve_eq (p : Program) (label : LabelName) (cursor : Nat) :
    LabelTable.resolve p.labels.first label cursor = p.resolve label cursor := by
  have same : p.labels.first.lookup label = p.position? label := p.labels_hold.find label
  cases place : p.position? label with
  | none => simp only [LabelTable.resolve, resolve, same, place]
  | some target => simp only [LabelTable.resolve, resolve, same, place]

/-- What is no jump comes to the same in every program. -/
private theorem Handler.perform_of_other {handler : Handler} {instruction : Instruction}
    (other : ∀ label, handler = .standard .jump → instruction ≠ .jump label) (p p' : Program) (cursor : Nat)
    (reveal : Duration) :
    handler.perform ⟨p, cursor, reveal⟩ instruction = handler.perform ⟨p', cursor, reveal⟩ instruction := by
  cases handler with
  | cinematicDialogue => cases instruction <;> rfl
  | standard kind =>
      cases kind with
      | jump =>
          cases instruction with
          | jump label => exact absurd rfl (other label rfl)
          | _ => rfl
      | _ => cases instruction <;> rfl

theorem Handler.performBy_eq (handler : Handler) (instruction : Instruction) (p : Program) (cursor : Nat)
    (reveal : Duration) :
    handler.performBy ⟨p.labels.first, cursor, reveal⟩ instruction =
      handler.perform ⟨p, cursor, reveal⟩ instruction := by
  unfold performBy
  split
  · rename_i label
    rw [Program.resolve_eq]
    rfl
  · rename_i other
    exact perform_of_other (fun label jumps => other label jumps) {} p cursor reveal

namespace Interpreter.Indexed

variable {i : Interpreter} {program : Program}

theorem deedFor_eq (loaded : i.program = some program) (instruction : Instruction) :
    i.indexed.deedFor program.archetype instruction = i.deedFor program instruction := by
  rw [indexed_loaded loaded]
  unfold deedFor Interpreter.deedFor
  cases i.handlerFor program.archetype instruction with
  | error error => rfl
  | ok handler => exact handler.performBy_eq instruction program i.cursor i.cinematicReveal

theorem follow_eq (flow : Flow) (i : Interpreter) (j : Journal) :
    i.indexed.follow flow j = (i.follow flow j).indexed := by
  cases flow with
  | waitFor duration =>
      unfold follow Interpreter.follow
      by_cases none : duration = 0
      · simp only [if_pos none]
        rfl
      · simp only [if_neg none]
        rfl
  | _ => rfl

theorem step_eq (stage : Stage) (i : Interpreter) (j : Journal) :
    i.indexed.step stage j = (i.step stage j).indexed := by
  unfold Interpreter.step
  split
  · rename_i idle
    have idle' : i.indexed.interpreter.program = none := idle
    rw [step, idle']
    rfl
  · rename_i program loaded
    have loaded' : i.indexed.interpreter.program = some program := loaded
    rw [step, loaded']
    dsimp only [indexed_interpreter]
    cases program.instructions[i.cursor]? with
    | none => exact follow_eq (.finish {}) i j
    | some instruction =>
        dsimp only
        rw [deedFor_eq loaded]
        cases i.deedFor program instruction with
        | error error => rfl
        | ok deed => exact follow_eq (deed.flow _) { i with emitted := deed.emitted.toList ++ i.emitted } _

theorem run_eq (stage : Stage) (budget : Nat) (i : Interpreter) (j : Journal) :
    i.indexed.run stage budget j =
      ((i.run stage budget j).1, (i.run stage budget j).2.1.indexed, (i.run stage budget j).2.2) := by
  induction budget generalizing i j with
  | zero => rfl
  | succ budget ih =>
      rw [run, Interpreter.run, step_eq]
      cases i.step stage j with
      | stop outcome i' j' => rfl
      | next i' j' => exact ih i' j'

theorem settleSuspension_eq (elapsed : Duration) (i : Interpreter) (j : Journal) :
    i.indexed.settleSuspension elapsed j =
      ((i.settleSuspension elapsed j).1, (i.settleSuspension elapsed j).2.1.indexed,
        (i.settleSuspension elapsed j).2.2) := by
  have same := indexed_of_program (Interpreter.settleSuspension_yields elapsed i j).program
  exact congrArg (fun x => (_, x, _)) same

theorem resume_eq (stage : Stage) (elapsed : Duration) (i : Interpreter) (j : Journal) :
    i.indexed.resume stage elapsed j =
      ((i.resume stage elapsed j).1, (i.resume stage elapsed j).2.1.indexed, (i.resume stage elapsed j).2.2) := by
  unfold resume Interpreter.resume
  rw [settleSuspension_eq]
  change (if i.isRunning = true then _ else _) = _
  split
  · dsimp only
    split
    · exact run_eq stage _ _ _
    · rfl
  · rfl

/-! ### Calls -/

theorem start_eq (program : Program) (i : Interpreter) (j : Journal) :
    i.indexed.start program j =
      ((i.start program j).1, (i.start program j).2.1.indexed, (i.start program j).2.2) := by
  unfold start Interpreter.start
  change (if i.isRunning = true then _ else _) = _
  split
  · rfl
  · split <;> rfl

/-- Also where no program is loaded the table leads where the program would. -/
theorem resolve_eq (i : Interpreter) (label : LabelName) :
    i.indexed.labels.resolve label i.cursor = (i.program.getD {}).resolve label i.cursor := by
  rcases Option.eq_none_or_eq_some i.program with idle | ⟨program, loaded⟩
  · rw [indexed_idle idle, idle]
    rfl
  · rw [indexed_loaded loaded, loaded]
    exact program.resolve_eq label i.cursor

theorem selectChoice_eq (index : Nat) (i : Interpreter) (j : Journal) :
    i.indexed.selectChoice index j = (i.selectChoice index j).map fun (i, j) => (i.indexed, j) := by
  unfold selectChoice Interpreter.selectChoice
  rw [indexed_interpreter]
  cases i.options? with
  | none => rfl
  | some options =>
      dsimp only
      cases options[index]? with
      | none => rfl
      | some option =>
          dsimp only
          rw [resolve_eq]
          rfl

theorem perform_eq (stage : Stage) (call : Call) (r : Rehearsal) :
    r.interpreter.indexed.perform stage call r.journal =
      (call.answer stage r, (call.perform stage r).interpreter.indexed, (call.perform stage r).journal) := by
  cases call with
  | start program =>
      dsimp only [perform, Call.answer, Call.perform]
      rw [start_eq]
      rcases r.interpreter.start program r.journal with ⟨_ | _, i, j⟩ <;> rfl
  | resume elapsed =>
      dsimp only [perform, Call.answer, Call.perform]
      rw [resume_eq]
  | continueInput =>
      dsimp only [perform, Call.answer, Call.perform, indexed_interpreter]
      by_cases waiting : r.interpreter.waitingForInput = true
      · rw [continueInput, if_pos waiting]
        rfl
      · rw [continueInput, if_neg waiting]
  | selectChoice index =>
      dsimp only [perform, Call.answer, Call.perform]
      rw [selectChoice_eq]
      cases r.interpreter.selectChoice index r.journal <;> rfl
  | requestSkip | takeEmitted | setTable table => rfl

/-- Whatever calls are made, they are answered as if there were neither flag nor table, they show and note the same, and
flag and table belong to the program that they leave. -/
theorem performAll_eq (stage : Stage) (calls : List Call) (r : Rehearsal) :
    r.interpreter.indexed.performAll stage calls r.journal =
      (answers stage calls r, (rehearse stage calls r).interpreter.indexed, (rehearse stage calls r).journal) := by
  induction calls generalizing r with
  | nil => rfl
  | cons call calls ih =>
      rw [performAll, perform_eq]
      dsimp only
      rw [ih (call.perform stage r)]
      rfl

end Interpreter.Indexed

end Plotline
