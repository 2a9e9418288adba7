import Plotline.Interpreter.Basic

/-!
A bare interpreter before a stage, and what a host can ask of it, one call after the other. What is said of
`rehearse stage calls r` for all `calls` is said after every call, since the beginning of a run is a run.
-/

namespace Plotline

/-- What the stage was shown, the opening and closing of listeners apart. -/
def Journal.presented (j : Journal) : List Cue := j.cues.filter Cue.isPresentation

inductive Call
  | start (program : Program)
  | resume (elapsed : Duration)
  | continueInput
  | selectChoice (index : Nat)
  | requestSkip
  | takeEmitted
  /-- The command table is changed to this one. -/
  | setTable (table : CommandTable)

/-- The interpreter, what the stage has been shown, and what the calls have brought so far. -/
structure Rehearsal where
  interpreter : Interpreter
  journal : Journal := []
  /-- The programs that were started, each granted. -/
  started : List Program := []
  taken : List StoryEvent := []
  /-- The numbers of the options that were selected, each accepted. -/
  chosen : List Nat := []
  /-- What the last program that ended came to. -/
  outcome : Option ProgramOutcome := none

namespace Call

/-- The call is made, whether it is granted or refused. -/
def perform (stage : Stage) : Call → Rehearsal → Rehearsal
  | start program, r =>
    match r.interpreter.start program r.journal with
    | (.ok (), interpreter, journal) => { r with interpreter, journal, started := r.started ++ [program] }
    | (.error _, interpreter, journal) => { r with interpreter, journal }
  | resume elapsed, r =>
    let (outcome, interpreter, journal) := r.interpreter.resume stage elapsed r.journal
    { r with interpreter, journal, outcome := outcome.or r.outcome }
  | continueInput, r =>
    match r.interpreter.continueInput with
    | .ok interpreter => { r with interpreter }
    | .error _ => r
  | selectChoice index, r =>
    match r.interpreter.selectChoice index r.journal with
    | .ok (interpreter, journal) => { r with interpreter, journal, chosen := r.chosen ++ [index] }
    | .error _ => r
  | requestSkip, r => { r with interpreter := r.interpreter.requestSkip }
  | takeEmitted, r =>
    let (events, interpreter) := r.interpreter.takeEmitted
    { r with interpreter, taken := r.taken ++ events }
  | setTable table, r => { r with interpreter := { r.interpreter with table } }

/-- What a call brings to the one who makes it. -/
inductive Answer
  | granted
  | refused (error : SceneError)
  | outcome (outcome : Option ProgramOutcome)
  | events (events : List StoryEvent)
  deriving DecidableEq

def answer (stage : Stage) : Call → Rehearsal → Answer
  | start program, r =>
    match (r.interpreter.start program r.journal).1 with
    | .ok () => .granted
    | .error error => .refused error
  | resume elapsed, r => .outcome (r.interpreter.resume stage elapsed r.journal).1
  | continueInput, r =>
    match r.interpreter.continueInput with
    | .ok _ => .granted
    | .error error => .refused error
  | selectChoice index, r =>
    match r.interpreter.selectChoice index r.journal with
    | .ok _ => .granted
    | .error error => .refused error
  | takeEmitted, r => .events r.interpreter.takeEmitted.1
  | requestSkip, _ | setTable _, _ => .granted

/-- The call leaves the command table as it is. -/
def KeepsTable : Call → Prop
  | setTable _ => False
  | _ => True

end Call

namespace Rehearsal

/-- A new interpreter with the command table. -/
def ofSettings (settings : InterpreterSettings) (table : CommandTable) : Rehearsal :=
  { interpreter := { Interpreter.ofSettings settings with table } }

def presented (r : Rehearsal) : List Cue := r.journal.presented

/-- The events that instructions have emitted, whether they were taken or not. -/
def emitted (r : Rehearsal) : List StoryEvent := r.taken ++ r.interpreter.emitted.reverse

end Rehearsal

def rehearse (stage : Stage) (calls : List Call) (r : Rehearsal) : Rehearsal :=
  calls.foldl (fun r call => call.perform stage r) r

/-- What the calls of a run are answered, one after the other. -/
def answers (stage : Stage) : List Call → Rehearsal → List Call.Answer
  | [], _ => []
  | call :: calls, r => call.answer stage r :: answers stage calls (call.perform stage r)

/-- What each call keeps, a run keeps. -/
theorem rehearse_keeps {stage : Stage} {rule : Call → Prop} {kept : Rehearsal → Prop}
    (step : ∀ call r, rule call → kept r → kept (call.perform stage r)) (calls : List Call) (r : Rehearsal)
    (obeys : ∀ call ∈ calls, rule call) (start : kept r) : kept (rehearse stage calls r) := by
  induction calls generalizing r with
  | nil => exact start
  | cons call calls ih =>
      have first : kept (call.perform stage r) := step call r (obeys call List.mem_cons_self) start
      exact ih (call.perform stage r) (fun other member => obeys other (List.mem_cons_of_mem call member)) first

end Plotline
