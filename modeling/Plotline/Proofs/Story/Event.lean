import Plotline.Story.Event

/-!
What an event says about a node: that it starts, that it is complete, that its program has finished, or that its
program asks for another node in its place.
-/

namespace Plotline

namespace StoryEvent

def starts (runner : RunnerId) (node : NodeId) : StoryEvent → Bool
  | nodeStarted r _ n => r = runner && n = node
  | _ => false

def completes (runner : RunnerId) (node : NodeId) : StoryEvent → Bool
  | nodeCompleted r _ n => r = runner && n = node
  | _ => false

def finishes (runner : RunnerId) (node : NodeId) : StoryEvent → Bool
  | programFinished r n _ => r = runner && n = node
  | _ => false

def leaves (runner : RunnerId) (node : NodeId) : StoryEvent → Bool
  | jumpRequested r n _ _ => r = runner && n = node
  | _ => false

variable (runner other : RunnerId) (node n : NodeId) (board : StoryboardName)

@[simp] theorem starts_nodeStarted : (nodeStarted runner board node).starts runner node = true := by simp [starts]

@[simp] theorem starts_nodeCompleted : (nodeCompleted other board n).starts runner node = false := rfl

@[simp] theorem completes_nodeStarted : (nodeStarted other board n).completes runner node = false := rfl

@[simp] theorem completes_nodeCompleted : (nodeCompleted runner board node).completes runner node = true := by
  simp [completes]

/-- The rewards that a program has earned by finishing, if there are any. -/
def earned : StoryEvent → Option (List Reward)
  | programFinished _ _ rewards => if rewards.isEmpty then none else some rewards
  | _ => none

end StoryEvent

/-- The node has not been completed since it was last started. -/
def Unended (runner : RunnerId) (node : NodeId) (events : List StoryEvent) : Prop :=
  ∀ event ∈ events.reverse.takeWhile fun event => !event.starts runner node, event.completes runner node = false

namespace Unended

variable {runner : RunnerId} {node : NodeId}

theorem append {events more : List StoryEvent} (unended : Unended runner node events)
    (other : ∀ event ∈ more, event.completes runner node = false) : Unended runner node (events ++ more) := by
  intro event member
  rw [List.reverse_append, List.takeWhile_append] at member
  split at member
  · rcases List.mem_append.mp member with new | old
    · exact other event (List.mem_reverse.mp new)
    · exact unended event old
  · exact other event (List.mem_reverse.mp ((List.takeWhile_sublist _).subset member))

theorem started (events : List StoryEvent) (board : StoryboardName) :
    Unended runner node (events ++ [.nodeStarted runner board node]) := by
  intro event member
  simp [StoryEvent.starts] at member

end Unended

end Plotline
