import Plotline.Number.Real
import Plotline.Story.Name

/-!
Programs: the lists of instructions that nodes run, and the commands for the stage that instructions carry.
`Program.position?` says where a label stands; of several labels with one name the first counts.
-/

namespace Plotline

inductive Archetype
  | generic
  | dialogue
  | cinematicText
  deriving DecidableEq, Repr

namespace Archetype

def all : List Archetype := [generic, dialogue, cinematicText]

/-- A node takes generic programs and those of its own archetype. -/
def accepts (node program : Archetype) : Bool := program = generic || node = program

def shown : Archetype → String
  | generic => "Generic"
  | dialogue => "Dialogue"
  | cinematicText => "CinematicText"

end Archetype

structure Reward where
  id : String
  amount : Nat := 1
  deriving DecidableEq, Repr

structure ChoiceOption where
  text : String
  target : LabelName
  deriving DecidableEq, Repr

/-- How a program ends: by granting rewards, or by branching to another node. -/
structure EndOfProgram where
  isBranching : Bool := false
  targetNode : Option NodeId := none
  targetStoryboard : Option StoryboardName := none
  rewards : List Reward := []
  deriving DecidableEq, Repr

inductive ActorCommand
  | appear (position : Option String)
  | hide
  | moveTo (position : String) (seconds : Single)
  | animate (clip : String) (seconds : Single)
  deriving DecidableEq, Repr

inductive BackgroundCommand
  | display (image : String)
  | hide
  deriving DecidableEq, Repr

inductive AudioCommand
  | playMusic (track : String) (fadeSeconds : Single)
  | stopMusic (fadeSeconds : Single)
  | playOneShot (clip : String)
  deriving DecidableEq, Repr

inductive CameraCommand
  | focus (target : String) (seconds : Single)
  | shake (intensity seconds : Single)
  | reset (seconds : Single)
  deriving DecidableEq, Repr

inductive ScreenEffect
  | fadeOut (seconds : Single)
  | fadeIn (seconds : Single)
  | flash (seconds : Single)
  deriving DecidableEq, Repr

inductive Instruction
  | dialogue (speaker text : String) (revealSeconds : Option Single)
  | actor (name : String) (command : ActorCommand)
  | background (command : BackgroundCommand)
  | choice (prompt : Option String) (options : List ChoiceOption)
  | label (name : LabelName)
  | jump (target : LabelName)
  | audio (command : AudioCommand)
  | endOfProgram (ending : EndOfProgram)
  | camera (command : CameraCommand)
  | screenEffect (effect : ScreenEffect)
  | trigger (runner : RunnerId) (node : NodeId)
  /-- An entry that could not be read. It keeps its place, so that labels keep theirs. -/
  | unknown
  deriving DecidableEq, Repr

inductive InstructionKind
  | dialogue
  | actorAction
  | backgroundAction
  | choice
  | label
  | jump
  | audio
  | endOfProgram
  | cameraAction
  | screenEffect
  | triggerOtherRunner
  deriving DecidableEq, Repr

namespace InstructionKind

def all : List InstructionKind :=
  [dialogue, actorAction, backgroundAction, choice, label, jump, audio, endOfProgram, cameraAction,
    screenEffect, triggerOtherRunner]

def shown : InstructionKind → String
  | dialogue => "Dialogue"
  | actorAction => "ActorAction"
  | backgroundAction => "BackgroundAction"
  | choice => "Choice"
  | label => "Label"
  | jump => "Jump"
  | audio => "Audio"
  | endOfProgram => "EndOfProgram"
  | cameraAction => "CameraAction"
  | screenEffect => "ScreenEffect"
  | triggerOtherRunner => "TriggerOtherRunner"

end InstructionKind

namespace Instruction

def kind : Instruction → Option InstructionKind
  | dialogue .. => some .dialogue
  | actor .. => some .actorAction
  | background _ => some .backgroundAction
  | choice .. => some .choice
  | label _ => some .label
  | jump _ => some .jump
  | audio _ => some .audio
  | endOfProgram _ => some .endOfProgram
  | camera _ => some .cameraAction
  | screenEffect _ => some .screenEffect
  | trigger .. => some .triggerOtherRunner
  | unknown => none

def shownKind (i : Instruction) : String := Text.shownOption (i.kind.map InstructionKind.shown)

end Instruction

structure Program where
  archetype : Archetype := .generic
  instructions : List Instruction := []
  deriving DecidableEq, Repr

/-- Where the labels of a program stand: the first one of each name, and the others. -/
structure LabelIndex where
  first : List (LabelName × Nat) := []
  repeated : List (LabelName × Nat) := []
  deriving DecidableEq, Repr

namespace LabelIndex

def find? (index : LabelIndex) (name : LabelName) : Option Nat := index.first.lookup name

def add (index : LabelIndex) (name : LabelName) (position : Nat) : LabelIndex :=
  match index.find? name with
  | some _ => { index with repeated := index.repeated ++ [(name, position)] }
  | none => { index with first := index.first ++ [(name, position)] }

/-- Adds the labels of instructions of which the first stands at `position`. -/
def addAll (index : LabelIndex) (position : Nat) : List Instruction → LabelIndex
  | [] => index
  | .label name :: rest => (index.add name position).addAll (position + 1) rest
  | _ :: rest => index.addAll (position + 1) rest

end LabelIndex

namespace Program

def labels (p : Program) : LabelIndex := LabelIndex.addAll {} 0 p.instructions

def position? (p : Program) (label : LabelName) : Option Nat := p.instructions.findIdx? (· = .label label)

def isEmpty (p : Program) : Bool := p.instructions.isEmpty

def length (p : Program) : Nat := p.instructions.length

end Program

end Plotline
