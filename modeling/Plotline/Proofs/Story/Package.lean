import Plotline.Story.Storyboard

/-!
What a package holds: its conditions, and the numbers that its instructions carry.
-/

namespace Plotline

namespace ActorCommand

def singles : ActorCommand → List Single
  | moveTo _ seconds => [seconds]
  | animate _ seconds => [seconds]
  | _ => []

end ActorCommand

namespace AudioCommand

def singles : AudioCommand → List Single
  | playMusic _ fadeSeconds => [fadeSeconds]
  | stopMusic fadeSeconds => [fadeSeconds]
  | playOneShot _ => []

end AudioCommand

namespace CameraCommand

def singles : CameraCommand → List Single
  | focus _ seconds => [seconds]
  | shake intensity seconds => [intensity, seconds]
  | reset seconds => [seconds]

end CameraCommand

namespace ScreenEffect

def seconds : ScreenEffect → Single
  | fadeOut seconds => seconds
  | fadeIn seconds => seconds
  | flash seconds => seconds

end ScreenEffect

namespace Instruction

def singles : Instruction → List Single
  | dialogue _ _ revealSeconds => revealSeconds.toList
  | actor _ command => command.singles
  | audio command => command.singles
  | camera command => command.singles
  | screenEffect effect => [effect.seconds]
  | _ => []

def rewards : Instruction → List Reward
  | endOfProgram ending => ending.rewards
  | _ => []

end Instruction

namespace StoryPackage

def nodes (p : StoryPackage) : List Node := p.runners.flatMap (·.storyboard.nodes)

def conditions (p : StoryPackage) : List Condition := p.nodes.flatMap (·.conditions)

def instructions (p : StoryPackage) : List Instruction := p.nodes.flatMap (·.program.instructions)

def singles (p : StoryPackage) : List Single := p.instructions.flatMap Instruction.singles

def rewards (p : StoryPackage) : List Reward := p.instructions.flatMap Instruction.rewards

/-- No condition has been met or has subscribed yet. -/
def Fresh (p : StoryPackage) : Prop := ∀ c ∈ p.conditions, c.satisfied = false ∧ c.subscription = none

/-- Whole numbers keep to words of 32 bits, with a sign where they may have one. -/
structure InRange (p : StoryPackage) : Prop where
  priorities : ∀ d ∈ p.runners, -2147483648 ≤ d.priority ∧ d.priority < 2147483648
  amounts : ∀ r ∈ p.rewards, r.amount < UInt32.size

end StoryPackage

end Plotline
