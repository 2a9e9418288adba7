import Plotline.Check.Report
import Plotline.Interpreter.Command

/-!
What can be said of a program without running it: labels that are missing or doubled, instructions that its
archetype does not carry out, choices without options.
-/

namespace Plotline.Program

private def issueAt (location : Location) (level : IssueLevel) (category : String) (index : Nat)
    (message : String) : Issue :=
  ⟨level, category, location.atInstruction index, message⟩

def labelIssues (p : Program) (location : Location) : List Issue :=
  p.labels.repeated.map fun (name, index) =>
    issueAt location .warning "labels" index s!"duplicate label '{name.text}'; the first occurrence wins"

def operandIssues (p : Program) (location : Location) (index : Nat) : Instruction → List Issue
  | .jump target =>
    if (p.position? target).isSome then []
    else [issueAt location .error "labels" index s!"jump to undefined label '{target.text}'"]
  | .choice _ options =>
    if options.isEmpty then [issueAt location .error "instructions" index "choice without options"]
    else
      (options.filter fun o => (p.position? o.target).isNone).map fun o =>
        issueAt location .error "labels" index
          s!"choice '{o.text}' targets undefined label '{o.target.text}'"
  | .endOfProgram ending =>
    if ending.isBranching && ending.targetNode.isNone then
      [issueAt location .warning "branching" index "branching end without a target node finishes normally"]
    else []
  | _ => []

def instructionIssues (p : Program) (location : Location) (index : Nat) (instruction : Instruction) :
    List Issue :=
  match instruction.kind with
  | none =>
    [issueAt location .warning "instructions" index "unknown instruction is skipped at run time"]
  | some kind =>
    let unsupported :=
      if (CommandTable.standard.handler? p.archetype kind).isSome then []
      else
        [issueAt location .warning "archetype" index
          s!"{kind.shown} is not supported by {p.archetype.shown} programs and is skipped"]
    unsupported ++ p.operandIssues location index instruction

def issues (p : Program) (location : Location) : List Issue :=
  if p.isEmpty then
    [⟨.warning, "empty-program", location, "node has no program and completes immediately"⟩]
  else
    p.labelIssues location ++ (p.instructions.mapIdx fun index i => p.instructionIssues location index i).flatten

def check (p : Program) (location : Location) : Report := .ofIssues (p.issues location)

end Plotline.Program
