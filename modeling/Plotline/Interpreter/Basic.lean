import Plotline.Interpreter.Command
import Plotline.Story.Settings

/-!
The interpreter runs one program at a time. `Interpreter.resume` carries out instructions until the program
has to wait, ends, or has used up its steps for this time.
-/

namespace Plotline

inductive Suspension
  | input
  | choice (options : List ChoiceOption)
  | timer (remaining : Duration)
  deriving DecidableEq, Repr

/-- What a program comes to: its rewards, or another node. -/
inductive ProgramOutcome
  | finished (rewards : List Reward)
  | branched (target : NodeId) (storyboard : Option StoryboardName)
  deriving DecidableEq, Repr

/-- An interpreter runs exactly when it holds a program, and labels are searched for in that program; `Indexed` keeps a flag
and a table of labels instead. Of the emitted events the latest comes first. -/
structure Interpreter where
  program : Option Program := none
  cursor : Nat := 0
  waitingForInput : Bool := false
  skipRequested : Bool := false
  suspension : Option Suspension := none
  emitted : List StoryEvent := []
  table : CommandTable := .standard
  cinematicReveal : Duration
  maxSteps : Nat

namespace Interpreter

/-- At least one step is allowed each time. -/
def ofSettings (settings : InterpreterSettings) : Interpreter :=
  { cinematicReveal := .ofSeconds settings.cinematicRevealSeconds
    maxSteps := max 1 settings.maxSteps }

def isRunning (i : Interpreter) : Bool := i.program.isSome

def options? (i : Interpreter) : Option (List ChoiceOption) :=
  match i.suspension with
  | some (.choice options) => some options
  | _ => none

def isWaitingForChoice (i : Interpreter) : Bool := i.options?.isSome

def remainingWait? (i : Interpreter) : Option Duration :=
  match i.suspension with
  | some (.timer remaining) => some remaining
  | _ => none

def takeEmitted (i : Interpreter) : List StoryEvent × Interpreter :=
  (i.emitted.reverse, { i with emitted := [] })

def requestSkip (i : Interpreter) : Interpreter := { i with skipRequested := true }

/-- Loads a program. A running one is never replaced, and an empty one never loaded. -/
def start (program : Program) (i : Interpreter) (j : Journal) :
    Except SceneError Unit × Interpreter × Journal :=
  if i.isRunning then (.error .interpreterBusy, i, j.note .startWhileRunning)
  else if program.isEmpty then (.error .emptyProgram, i, j.note .startOfEmptyProgram)
  else
    let j := j.notes (program.labels.repeated.map fun (label, position) => .repeatedLabel label position)
    let loaded :=
      { i with
        program := some program
        cursor := 0
        waitingForInput := false
        skipRequested := false
        suspension := none }
    (.ok (), loaded, j.note (.programStarted program.archetype program.length))

def continueInput (i : Interpreter) : Except SceneError Interpreter :=
  if i.waitingForInput then .ok { i with waitingForInput := false } else .error (.notWaiting .input)

/-- Goes on at the label of the option with the given number. -/
def selectChoice (index : Nat) (i : Interpreter) (j : Journal) : Except SceneError (Interpreter × Journal) :=
  match i.options? with
  | none => .error (.notWaiting .choice)
  | some options =>
    match options[index]? with
    | none => .error (.invalidChoice index options.length)
    | some option =>
      let (target, note) := (i.program.getD {}).resolve option.target i.cursor
      .ok
        ({ i with cursor := target, suspension := none },
          (j.note (.optionSelected index option.text i.cursor)).note note)

/-- Moves past the instruction that the program waited at. -/
def goOn (i : Interpreter) : Interpreter := { i with suspension := none, cursor := i.cursor + 1 }

/-- Ends a wait that is over, and says whether the program can go on. A skip ends a timed wait at once. -/
def settleSuspension (elapsed : Duration) (i : Interpreter) (j : Journal) : Bool × Interpreter × Journal :=
  match i.suspension with
  | none => (true, i, j)
  | some .input =>
    if i.waitingForInput then (false, i, j) else (true, i.goOn, j.cue (.continueListener false))
  | some (.choice _) => (false, i, j)
  | some (.timer remaining) =>
    if i.skipRequested then
      (true, { i.goOn with skipRequested := false },
        (j.note (.waitCutShort i.cursor)).cue (.skipListener false))
    else if remaining ≤ elapsed then (true, i.goOn, j.cue (.skipListener false))
    else (false, { i with suspension := some (.timer (remaining - elapsed)) }, j)

def outcomeOf (ending : EndOfProgram) : ProgramOutcome × Note :=
  match ending.isBranching, ending.targetNode with
  | true, some target => (.branched target ending.targetStoryboard, .programBranched target)
  | true, none => (.finished ending.rewards, .branchWithoutTarget)
  | false, _ => (.finished ending.rewards, .programFinished ending.rewards.length)

/-- Puts the program away; the stage no longer listens. -/
def finish (ending : EndOfProgram) (i : Interpreter) (j : Journal) : ProgramOutcome × Interpreter × Journal :=
  let idle :=
    { i with
      program := none
      waitingForInput := false
      skipRequested := false
      suspension := none }
  let (outcome, note) := outcomeOf ending
  (outcome, idle, ((j.cue (.continueListener false)).cue (.skipListener false)).note note)

/-- What carrying out one instruction leads to: the next one, or the end of this resumption. -/
inductive Progress
  | next (i : Interpreter) (j : Journal)
  | stop (outcome : Option ProgramOutcome) (i : Interpreter) (j : Journal)

def follow (flow : Flow) (i : Interpreter) (j : Journal) : Progress :=
  match flow with
  | .advance => .next { i with cursor := i.cursor + 1 } j
  | .redirect target => .next { i with cursor := target } j
  | .waitForInput =>
    .stop none { i with waitingForInput := true, suspension := some .input } (j.cue (.continueListener true))
  | .waitForChoice options => .stop none { i with suspension := some (.choice options) } j
  | .waitFor duration =>
    if duration = 0 then .next { i with cursor := i.cursor + 1 } j
    else
      .stop none { i with skipRequested := false, suspension := some (.timer duration) }
        (j.cue (.skipListener true))
  | .finish ending =>
    let (outcome, i, j) := i.finish ending j
    .stop (some outcome) i j

def giveCue (stage : Stage) (cue : Option Cue) (j : Journal) : Completion × Journal :=
  match cue with
  | none => (.immediate, j)
  | some cue => (stage j cue, j.cue cue)

def handlerFor (i : Interpreter) (archetype : Archetype) (instruction : Instruction) :
    Except InstructionError Handler :=
  match instruction.kind with
  | none => .error .unknown
  | some kind =>
    match i.table.handler? archetype kind with
    | none => .error (.noHandler kind)
    | some handler => .ok handler

def deedFor (i : Interpreter) (program : Program) (instruction : Instruction) :
    Except InstructionError Deed := do
  let handler ← i.handlerFor program.archetype instruction
  handler.perform ⟨program, i.cursor, i.cinematicReveal⟩ instruction

/-- Carries out the instruction at the cursor. One that cannot be carried out is passed over; behind the last
one the program ends. -/
def step (stage : Stage) (i : Interpreter) (j : Journal) : Progress :=
  match i.program with
  | none => .stop none i j
  | some program =>
    match program.instructions[i.cursor]? with
    | none => i.follow (.finish {}) j
    | some instruction =>
      match i.deedFor program instruction with
      | .error error =>
        .next { i with cursor := i.cursor + 1 } (j.note (.instructionSkipped i.cursor instruction.kind error))
      | .ok deed =>
        let (answer, j) := giveCue stage deed.cue (j.notes deed.note.toList)
        follow (deed.flow answer) { i with emitted := deed.emitted.toList ++ i.emitted } j

def run (stage : Stage) (budget : Nat) (i : Interpreter) (j : Journal) :
    Option ProgramOutcome × Interpreter × Journal :=
  match budget with
  | 0 => (none, i, j.note (.budgetExhausted i.maxSteps i.cursor))
  | budget + 1 =>
    match i.step stage j with
    | .stop outcome i j => (outcome, i, j)
    | .next i j => run stage budget i j

/-- Goes on with the program after `elapsed`, and says what it came to if it ended. -/
def resume (stage : Stage) (elapsed : Duration) (i : Interpreter) (j : Journal) :
    Option ProgramOutcome × Interpreter × Journal :=
  if i.isRunning then
    let (ready, i, j) := i.settleSuspension elapsed j
    if ready then i.run stage i.maxSteps j else (none, i, j)
  else (none, i, j)

end Interpreter

end Plotline
