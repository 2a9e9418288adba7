import Plotline.Interpreter.Basic

/-!
Handlers at work. A deed says all at once what an instruction comes to; here a handler goes about it act by act, and may
refuse at any point, with what it has done so far left as it is. It comes to the same: a handler looks at its
instruction before it touches anything. So an instruction that is not carried out only moves the cursor.
-/

namespace Plotline

/-- What a handler can touch while it carries out an instruction. -/
structure Surroundings where
  journal : Journal
  emitted : List StoryEvent
  deriving DecidableEq, Repr

/-- Acts that change the surroundings one after the other. A refusal takes back none of them. -/
abbrev Acts (α : Type) : Type := EStateM InstructionError Surroundings α

namespace Acts

def present (stage : Stage) (cue : Cue) : Acts Completion :=
  fun s => .ok (stage s.journal cue) { s with journal := s.journal.cue cue }

def remark (note : Note) : Acts Unit := modify fun s => { s with journal := s.journal.note note }

def emit (event : StoryEvent) : Acts Unit := modify fun s => { s with emitted := event :: s.emitted }

end Acts

namespace Handler

open Acts

/-- Carries out the instruction, one act after the other. -/
def enact (stage : Stage) (run : RunView) : Handler → Instruction → Acts Flow
  | standard .dialogue, .dialogue speaker text _ => do
    let _ ← present stage (.dialogue speaker text)
    return .waitForInput
  | standard .dialogue, i => throw (.mismatch "dialogue" i.kind)
  | cinematicDialogue, .dialogue _ text revealSeconds => do
    let duration := (revealSeconds.map Duration.ofSeconds).getD run.cinematicReveal
    return .ofCompletion (← present stage (.cinematicText text duration))
  | cinematicDialogue, i => throw (.mismatch "cinematic dialogue" i.kind)
  | standard .actorAction, .actor name command => do
    if name.isEmpty then throw .actorWithoutName
    let answer ← present stage (.actor name command)
    match command with
    | .appear _ => return .advance
    | _ => return .ofCompletion answer
  | standard .actorAction, i => throw (.mismatch "actor" i.kind)
  | standard .backgroundAction, .background command => do
    let _ ← present stage (.background command)
    return .advance
  | standard .backgroundAction, i => throw (.mismatch "background" i.kind)
  | standard .choice, .choice prompt options => do
    if options.isEmpty then throw .choiceWithoutOptions
    remark (.presentedOptions options.length run.cursor)
    let _ ← present stage (.choices prompt (options.map (·.text)))
    return .waitForChoice options
  | standard .choice, i => throw (.mismatch "choice" i.kind)
  | standard .label, _ => return .advance
  | standard .jump, .jump label => do
    let (target, note) := run.program.resolve label run.cursor
    remark note
    return .redirect target
  | standard .jump, i => throw (.mismatch "jump" i.kind)
  | standard .audio, .audio command => do
    let answer ← present stage (.audio command)
    match command with
    | .playOneShot _ => return .advance
    | _ => return .ofCompletion answer
  | standard .audio, i => throw (.mismatch "audio" i.kind)
  | standard .endOfProgram, .endOfProgram ending => return .finish ending
  | standard .endOfProgram, i => throw (.mismatch "end of program" i.kind)
  | standard .cameraAction, .camera command => return .ofCompletion (← present stage (.camera command))
  | standard .cameraAction, i => throw (.mismatch "camera" i.kind)
  | standard .screenEffect, .screenEffect effect => return .ofCompletion (← present stage (.screenEffect effect))
  | standard .screenEffect, i => throw (.mismatch "screen effect" i.kind)
  | standard .triggerOtherRunner, .trigger runner node => do
    if runner.text.isEmpty || node.text.isEmpty then throw .triggerWithoutTarget
    emit (.triggerRequested runner node)
    return .advance
  | standard .triggerOtherRunner, i => throw (.mismatch "trigger" i.kind)

end Handler

/-- The surroundings once the deed is done, and how to go on. -/
def Deed.done (stage : Stage) (deed : Deed) (s : Surroundings) : Flow × Surroundings :=
  let (answer, journal) := Interpreter.giveCue stage deed.cue (s.journal.notes deed.note.toList)
  (deed.flow answer, ⟨journal, deed.emitted.toList ++ s.emitted⟩)

namespace Handler

variable {stage : Stage} {run : RunView} {handler : Handler} {instruction : Instruction} {s s' : Surroundings}
  {error : InstructionError}

/-- Act by act the handler does the deed, or it does nothing. -/
theorem enact_eq (stage : Stage) (run : RunView) (handler : Handler) (instruction : Instruction) (s : Surroundings) :
    handler.enact stage run instruction s =
      match handler.perform run instruction with
      | .error error => .error error s
      | .ok deed => .ok (deed.done stage s).1 (deed.done stage s).2 := by
  cases handler with
  | cinematicDialogue => cases instruction <;> rfl
  | standard kind =>
      cases kind with
      | actorAction =>
          cases instruction with
          | actor name command =>
              by_cases nameless : name.isEmpty = true
              · simp only [enact, perform, if_pos nameless]
                rfl
              · simp only [enact, perform, if_neg nameless]
                cases command <;> rfl
          | _ => rfl
      | choice =>
          cases instruction with
          | choice prompt options =>
              cases options <;> rfl
          | _ => rfl
      | audio =>
          cases instruction with
          | audio command => cases command <;> rfl
          | _ => rfl
      | triggerOtherRunner =>
          cases instruction with
          | trigger runner node =>
              by_cases targetless : (runner.text.isEmpty || node.text.isEmpty) = true
              · simp only [enact, perform, if_pos targetless]
                rfl
              · simp only [enact, perform, if_neg targetless]
                rfl
          | _ => rfl
      | _ => cases instruction <;> rfl

/-- A handler that refuses an instruction has shown nothing, noted nothing and emitted nothing. -/
theorem enact_refused (refused : handler.enact stage run instruction s = .error error s') :
    s' = s ∧ handler.perform run instruction = .error error := by
  rw [enact_eq] at refused
  split at refused
  · rename_i performed
    cases refused
    exact ⟨rfl, performed⟩
  · cases refused

end Handler

namespace Interpreter

variable {stage : Stage} {i : Interpreter} {p : Program} {instruction : Instruction} {s : Surroundings} {j : Journal}
  {error : InstructionError}

/-- Why an instruction is not carried out: it is of no known kind, there is no handler for its kind, or its handler
refuses it, whatever kind that handler was made for. -/
inductive Fails (stage : Stage) (i : Interpreter) (p : Program) (instruction : Instruction) (s : Surroundings) :
    InstructionError → Prop
  | unknown (unread : instruction.kind = none) : Fails stage i p instruction s .unknown
  | unhandled {kind : InstructionKind} (read : instruction.kind = some kind)
      (missing : i.table.handler? p.archetype kind = none) : Fails stage i p instruction s (.noHandler kind)
  | refused {kind : InstructionKind} {handler : Handler} {error : InstructionError} {s' : Surroundings}
      (read : instruction.kind = some kind) (registered : i.table.handler? p.archetype kind = some handler)
      (refused : handler.enact stage ⟨p, i.cursor, i.cinematicReveal⟩ instruction s = .error error s') :
      Fails stage i p instruction s error

private theorem deedFor_of_fails (fails : Fails stage i p instruction s error) :
    i.deedFor p instruction = .error error := by
  unfold deedFor handlerFor
  cases fails with
  | unknown unread =>
      rw [unread]
      rfl
  | unhandled read missing =>
      rw [read]
      dsimp only
      rw [missing]
      rfl
  | refused read registered refused =>
      rw [read]
      dsimp only
      rw [registered]
      exact (Handler.enact_refused refused).2

private theorem fails_of_deedFor (stage : Stage) (s : Surroundings) (failed : i.deedFor p instruction = .error error) :
    Fails stage i p instruction s error := by
  unfold deedFor handlerFor at failed
  cases read : instruction.kind with
  | none =>
      rw [read] at failed
      cases failed
      exact .unknown read
  | some kind =>
      rw [read] at failed
      dsimp only at failed
      cases registered : i.table.handler? p.archetype kind with
      | none =>
          rw [registered] at failed
          cases failed
          exact .unhandled read registered
      | some handler =>
          rw [registered] at failed
          have enacted := handler.enact_eq stage ⟨p, i.cursor, i.cinematicReveal⟩ instruction s
          have performed : handler.perform ⟨p, i.cursor, i.cinematicReveal⟩ instruction = .error error := failed
          rw [performed] at enacted
          exact .refused read registered enacted

/-- There are no other reasons for which an instruction is passed over. -/
theorem deedFor_eq_error : i.deedFor p instruction = .error error ↔ Fails stage i p instruction s error :=
  ⟨fails_of_deedFor stage s, deedFor_of_fails⟩

/-- An instruction that is not carried out moves the cursor, and the log says so. -/
theorem step_of_fails (loaded : i.program = some p) (fetched : p.instructions[i.cursor]? = some instruction)
    (fails : Fails stage i p instruction s error) (j : Journal) :
    i.step stage j =
      .next { i with cursor := i.cursor + 1 } (j.note (.instructionSkipped i.cursor instruction.kind error)) := by
  unfold step
  rw [loaded]
  dsimp only
  rw [fetched]
  dsimp only
  rw [deedFor_eq_error.mpr fails]

/-- A handler that refuses its instruction has done nothing at all. An instruction that is not carried out moves the
cursor to the next one, and the resumption goes on there with a step less. -/
theorem failing_leaves_no_trace (stage : Stage) :
    (∀ (handler : Handler) (run : RunView) (instruction : Instruction) (s s' : Surroundings) (error : InstructionError),
        handler.enact stage run instruction s = .error error s' → s' = s) ∧
      ∀ (i : Interpreter) (p : Program) (instruction : Instruction) (error : InstructionError) (j : Journal),
        i.program = some p → p.instructions[i.cursor]? = some instruction →
        Fails stage i p instruction ⟨j, i.emitted⟩ error →
          let i' := { i with cursor := i.cursor + 1 }
          let j' := j.note (.instructionSkipped i.cursor instruction.kind error)
          i.step stage j = .next i' j' ∧ j'.cues = j.cues ∧
            (∀ budget, i.run stage (budget + 1) j = i'.run stage budget j') ∧
            ∀ (x : Interpreter) (elapsed : Duration) (k : Journal) (budget : Nat), x.isRunning = true →
              x.settleSuspension elapsed k = (true, i, j) → i.maxSteps = budget + 1 →
                x.resume stage elapsed k = i'.run stage budget j' := by
  refine ⟨fun handler run instruction s s' error refused => (Handler.enact_refused refused).1, ?_⟩
  intro i p instruction error j loaded fetched fails i' j'
  have stepped : i.step stage j = .next i' j' := step_of_fails loaded fetched fails j
  have ran : ∀ budget, i.run stage (budget + 1) j = i'.run stage budget j' := by
    intro budget
    rw [run, stepped]
  refine ⟨stepped, by simp [j', Journal.cues, Journal.note], ran, ?_⟩
  intro x elapsed k budget running ready steps
  rw [resume, if_pos running, ready, ← ran budget, ← steps]
  rfl

/-- A program of one line. -/
private def oneLine : Program := { instructions := [.dialogue "A" "Hello!" none] }

/-- An interpreter whose dialogue is left to the handler of actors. -/
private def miscast : Interpreter :=
  { program := some oneLine
    table := CommandTable.standard.register .generic .dialogue (.standard .actorAction)
    cinematicReveal := 0
    maxSteps := 1 }

/-- The line is not spoken, and the program is about to end. -/
theorem miscast_leaves_no_trace :
    Fails .instant miscast oneLine (.dialogue "A" "Hello!" none) ⟨[], []⟩ (.mismatch "actor" (some .dialogue)) ∧
      miscast.resume .instant 0 [] =
        run .instant 0 { miscast with cursor := 1 }
          [.note (.instructionSkipped 0 (some .dialogue) (.mismatch "actor" (some .dialogue)))] := by
  have registered : miscast.table.handler? .generic .dialogue = some (.standard .actorAction) := rfl
  have fails : Fails .instant miscast oneLine (.dialogue "A" "Hello!" none) ⟨[], []⟩
      (.mismatch "actor" (some .dialogue)) := .refused rfl registered rfl
  obtain ⟨-, -, -, resumed⟩ :=
    (failing_leaves_no_trace .instant).2 miscast oneLine _ _ [] rfl rfl fails
  exact ⟨fails, resumed miscast 0 [] 0 rfl rfl rfl⟩

end Interpreter

end Plotline
