import Plotline.Story.Program

/-!
Why the scene refuses a request, and why an instruction cannot be carried out.
-/

namespace Plotline

inductive Awaited
  | input
  | choice
  deriving DecidableEq, Repr

inductive SceneError
  | duplicateRunner (runner : RunnerId)
  | unknownRunner (runner : RunnerId)
  | unknownNode (runner : RunnerId) (node : NodeId)
  | unknownStoryboard (storyboard : StoryboardName)
  | runnerBusy (runner : RunnerId) (node : NodeId)
  | interpreterBusy
  | emptyProgram
  | notWaiting (awaited : Awaited)
  | invalidChoice (index count : Nat)
  | busDetached
  deriving DecidableEq, Repr

namespace Awaited

def shown : Awaited → String
  | input => "input"
  | choice => "a choice"

end Awaited

namespace SceneError

def message : SceneError → String
  | duplicateRunner runner => s!"Runner '{runner.text}' is already registered"
  | unknownRunner runner => s!"Runner '{runner.text}' is not registered"
  | unknownNode runner node => s!"Node '{node.text}' not found in runner '{runner.text}'"
  | unknownStoryboard storyboard => s!"No runner owns storyboard '{storyboard.text}'"
  | runnerBusy runner node =>
    s!"Runner '{runner.text}' is executing node '{node.text}' and cannot be unregistered"
  | interpreterBusy => "Interpreter is already running a program"
  | emptyProgram => "Program is empty"
  | notWaiting awaited => s!"Interpreter is not waiting for {awaited.shown}"
  | invalidChoice index count => s!"Choice index {index} out of range ({count} options)"
  | busDetached => "Event bus has no delivery mechanism attached"

end SceneError

inductive InstructionError
  | noHandler (kind : InstructionKind)
  | unknown
  | actorWithoutName
  | choiceWithoutOptions
  | triggerWithoutTarget
  /-- The handler is made for another kind of instruction. -/
  | mismatch (handler : String) (found : Option InstructionKind)
  deriving DecidableEq, Repr

namespace InstructionError

private def invalid (reason : String) : String := "Invalid instruction: " ++ reason

def message : InstructionError → String
  | noHandler kind => s!"No handler registered for {kind.shown}"
  | unknown => "Unknown instruction"
  | actorWithoutName => invalid "actor action without an actor"
  | choiceWithoutOptions => invalid "choice without options"
  | triggerWithoutTarget => invalid "trigger without runner or node id"
  | mismatch handler found =>
    invalid (handler ++ " handler received " ++ Text.shownOption (found.map InstructionKind.shown))

end InstructionError

end Plotline
