import Plotline.Log.Journal

/-!
Instructions as the interpreter carries them out. A command table gives each archetype its handler for each
kind of instruction. What a handler does is a value, a `Deed`: a handler that refuses an instruction has done
nothing.
-/

namespace Plotline

inductive Flow
  | advance
  | redirect (target : Nat)
  | waitForInput
  | waitForChoice (options : List ChoiceOption)
  | waitFor (duration : Duration)
  | finish (ending : EndOfProgram)
  deriving DecidableEq, Repr

namespace Flow

def ofCompletion : Completion → Flow
  | .immediate => advance
  | .after duration => waitFor duration

end Flow

/-- What one instruction comes to: a note, a cue, an event, and how to go on, given what the stage answers
to the cue. -/
structure Deed where
  note : Option Note := none
  cue : Option Cue := none
  emitted : Option StoryEvent := none
  flow : Completion → Flow := fun _ => .advance

structure RunView where
  program : Program
  cursor : Nat
  cinematicReveal : Duration

/-- Where a label leads, and what there is to say about it: without the label the next instruction follows. -/
def Program.resolve (p : Program) (label : LabelName) (cursor : Nat) : Nat × Note :=
  match p.position? label with
  | some target => (target, .jumped cursor target label)
  | none => (cursor + 1, .undefinedLabel cursor label)

inductive Handler
  /-- The usual way to carry out instructions of one kind. -/
  | standard (kind : InstructionKind)
  /-- Dialogue as text that stays for a while. -/
  | cinematicDialogue
  deriving DecidableEq, Repr

namespace Handler

def perform (run : RunView) : Handler → Instruction → Except InstructionError Deed
  | standard .dialogue, .dialogue speaker text _ =>
    .ok { cue := some (.dialogue speaker text), flow := fun _ => .waitForInput }
  | standard .dialogue, i => .error (.mismatch "dialogue" i.kind)
  | cinematicDialogue, .dialogue _ text revealSeconds =>
    let duration := (revealSeconds.map Duration.ofSeconds).getD run.cinematicReveal
    .ok { cue := some (.cinematicText text duration), flow := .ofCompletion }
  | cinematicDialogue, i => .error (.mismatch "cinematic dialogue" i.kind)
  | standard .actorAction, .actor name command =>
    if name.isEmpty then .error .actorWithoutName
    else
      .ok
        { cue := some (.actor name command)
          flow :=
            match command with
            | .appear _ => fun _ => .advance
            | _ => .ofCompletion }
  | standard .actorAction, i => .error (.mismatch "actor" i.kind)
  | standard .backgroundAction, .background command => .ok { cue := some (.background command) }
  | standard .backgroundAction, i => .error (.mismatch "background" i.kind)
  | standard .choice, .choice prompt options =>
    if options.isEmpty then .error .choiceWithoutOptions
    else
      .ok
        { note := some (.presentedOptions options.length run.cursor)
          cue := some (.choices prompt (options.map (·.text)))
          flow := fun _ => .waitForChoice options }
  | standard .choice, i => .error (.mismatch "choice" i.kind)
  | standard .label, _ => .ok {}
  | standard .jump, .jump label =>
    let (target, note) := run.program.resolve label run.cursor
    .ok { note := some note, flow := fun _ => .redirect target }
  | standard .jump, i => .error (.mismatch "jump" i.kind)
  | standard .audio, .audio command =>
    .ok
      { cue := some (.audio command)
        flow :=
          match command with
          | .playOneShot _ => fun _ => .advance
          | _ => .ofCompletion }
  | standard .audio, i => .error (.mismatch "audio" i.kind)
  | standard .endOfProgram, .endOfProgram ending => .ok { flow := fun _ => .finish ending }
  | standard .endOfProgram, i => .error (.mismatch "end of program" i.kind)
  | standard .cameraAction, .camera command => .ok { cue := some (.camera command), flow := .ofCompletion }
  | standard .cameraAction, i => .error (.mismatch "camera" i.kind)
  | standard .screenEffect, .screenEffect effect =>
    .ok { cue := some (.screenEffect effect), flow := .ofCompletion }
  | standard .screenEffect, i => .error (.mismatch "screen effect" i.kind)
  | standard .triggerOtherRunner, .trigger runner node =>
    if runner.text.isEmpty || node.text.isEmpty then .error .triggerWithoutTarget
    else .ok { emitted := some (.triggerRequested runner node) }
  | standard .triggerOtherRunner, i => .error (.mismatch "trigger" i.kind)

end Handler

/-- Which handler a program of an archetype has for a kind of instruction, if any. -/
structure CommandTable where
  handler? : Archetype → InstructionKind → Option Handler

namespace CommandTable

def empty : CommandTable := ⟨fun _ _ => none⟩

private def update (archetype : Archetype) (kind : InstructionKind) (handler : Option Handler)
    (table : CommandTable) : CommandTable :=
  ⟨fun a k => if a = archetype ∧ k = kind then handler else table.handler? a k⟩

def register (archetype : Archetype) (kind : InstructionKind) (handler : Handler) (table : CommandTable) :
    CommandTable :=
  table.update archetype kind (some handler)

def unregister (archetype : Archetype) (kind : InstructionKind) (table : CommandTable) : CommandTable :=
  table.update archetype kind none

/-- Every archetype carries out every kind of instruction, but cinematic text shows dialogue in its own way
and offers no choices. -/
def standard : CommandTable :=
  ((⟨fun _ kind => some (.standard kind)⟩ : CommandTable).register .cinematicText .dialogue
    .cinematicDialogue).unregister .cinematicText .choice

def missing (table : CommandTable) : List (Archetype × InstructionKind) :=
  Archetype.all.flatMap fun a =>
    (InstructionKind.all.filter fun k => (table.handler? a k).isNone).map fun k => (a, k)

private def archetypesByName : List Archetype := [.cinematicText, .dialogue, .generic]

private def kindsByName : List InstructionKind :=
  [.actorAction, .audio, .backgroundAction, .cameraAction, .choice, .dialogue, .endOfProgram, .jump, .label,
    .screenEffect, .triggerOtherRunner]

def shown (table : CommandTable) : String :=
  let pairs := archetypesByName.flatMap fun a =>
    (kindsByName.filter fun k => (table.handler? a k).isSome).map fun k => Text.shownTuple "" [a.shown, k.shown]
  Text.shownRecord "CommandTable" [("handlers", Text.shownList pairs)]

end CommandTable

end Plotline
