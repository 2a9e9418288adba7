import Plotline.Bus.Basic
import Plotline.Log.Settings
import Plotline.Scene.Error

/-!
Notes: what a scene has to say about its own working. A note says what happened; level, source and wording
follow from it.
-/

namespace Plotline

inductive Note
  | subscribed (id : SubscriptionId) (topic : Topic) (listener : Listener)
  | unsubscribed (id : SubscriptionId)
  | published (event : StoryEvent)
  | dropped (topic : Topic)
  | satisfied (kind : ConditionKind)
  | satisfiedByStatus (kind : ConditionKind)
  | jumped (origin target : Nat) (label : LabelName)
  | undefinedLabel (origin : Nat) (label : LabelName)
  | presentedOptions (count cursor : Nat)
  | enteredStoryboard (storyboard : StoryboardName) (node : NodeId)
  | branched (runner : RunnerId) (node : NodeId) (storyboard : StoryboardName) (target : NodeId)
  | startWhileRunning
  | startOfEmptyProgram
  | repeatedLabel (label : LabelName) (position : Nat)
  | programStarted (archetype : Archetype) (length : Nat)
  | optionSelected (index : Nat) (text : String) (cursor : Nat)
  | instructionSkipped (cursor : Nat) (kind : Option InstructionKind) (error : InstructionError)
  | budgetExhausted (budget cursor : Nat)
  | waitCutShort (cursor : Nat)
  | programBranched (target : NodeId)
  | branchWithoutTarget
  | programFinished (rewards : Nat)
  | duplicateNode (runner : RunnerId) (node : NodeId)
  | foreignProgram (runner : RunnerId) (node : NodeId) (archetype program : Archetype)
  | initialized (runner : RunnerId) (storyboard : StoryboardName) (nodes : Nat)
  | conditionIgnored (runner : RunnerId) (node : NodeId) (status : Option NodeStatus)
  | startOfUnknownNode (runner : RunnerId) (node : NodeId)
  | startIgnored (runner : RunnerId) (node : NodeId) (status : NodeStatus)
  | nodeStarted (runner : RunnerId) (node : NodeId)
  | notInProgress (runner : RunnerId) (node : NodeId)
  | nodeCompleted (runner : RunnerId) (node : NodeId)
  | nodeRearmed (runner : RunnerId) (node : NodeId)
  | foreignSnapshot (runner : RunnerId) (named owned : StoryboardName)
  | unknownSnapshotNode (runner : RunnerId) (node : NodeId)
  | restored (runner : RunnerId) (total changed : Nat)
  | unknownSnapshotRunner (runner : RunnerId)
  | registeredTwice (runner : RunnerId)
  | registered (runner : RunnerId) (priority : Int)
  | unregisterOfUnknown (runner : RunnerId)
  | unregisterOfBusy (runner : RunnerId) (node : NodeId)
  | unregistered (runner : RunnerId)
  | queued (runner : RunnerId) (node : NodeId) (sequence : Nat)
  | startForUnknownRunner (runner : RunnerId) (node : NodeId)
  | emptyProgram (runner : RunnerId) (node : NodeId)
  | couldNotStart (runner : RunnerId) (node : NodeId) (error : SceneError)
  | releasing (runner : RunnerId) (node : NodeId) (sequence : Nat)
  | kickstarted (runner : RunnerId) (node : NodeId)
  | noStartNode (runner : RunnerId)
  /-- A story names something that does not exist. -/
  | dataError (error : SceneError)
  | triggerUnclaimed (runner : RunnerId)
  | branchFromUnknownRunner (runner : RunnerId)
  | slotSaved (slot : Nat) (path : String)
  deriving DecidableEq, Repr

namespace Note

def level : Note → LogLevel
  | subscribed .. | unsubscribed _ | conditionIgnored .. => .trace
  | dropped _ | registeredTwice _ | unregisterOfBusy .. | couldNotStart .. | dataError _ | triggerUnclaimed _
  | branchFromUnknownRunner _ => .error
  | undefinedLabel .. | startWhileRunning | startOfEmptyProgram | repeatedLabel .. | instructionSkipped ..
  | budgetExhausted .. | branchWithoutTarget | duplicateNode .. | foreignProgram .. | startOfUnknownNode ..
  | notInProgress .. | foreignSnapshot .. | unknownSnapshotNode .. | unknownSnapshotRunner _
  | unregisterOfUnknown _ | startForUnknownRunner .. | emptyProgram .. | noStartNode _ => .warn
  | _ => .debug

def category : Note → LogCategory
  | subscribed .. | unsubscribed _ | published _ | dropped _ => .bus
  | satisfied _ | satisfiedByStatus _ => .conditions
  | jumped .. | undefinedLabel .. | presentedOptions .. | enteredStoryboard .. | branched .. => .flow
  | startWhileRunning | startOfEmptyProgram | repeatedLabel .. | programStarted .. | optionSelected ..
  | instructionSkipped .. | budgetExhausted .. | waitCutShort _ | programBranched _ | branchWithoutTarget
  | programFinished _ => .engine
  | foreignSnapshot .. | unknownSnapshotNode .. | restored .. | unknownSnapshotRunner _ | slotSaved .. =>
    .snapshot
  | _ => .scheduler

private def shownStatus (status : Option NodeStatus) : String :=
  Text.shownOption (status.map NodeStatus.shown)

private def shownKind (kind : Option InstructionKind) : String :=
  Text.shownOption (kind.map InstructionKind.shown)

def message : Note → String
  | subscribed id topic listener => s!"subscribe {id.shown} to {topic.shown} ({listener.shown})"
  | unsubscribed id => s!"unsubscribe {id.shown}"
  | published event => s!"publish {event.shown}"
  | dropped topic => s!"configuration error: {SceneError.busDetached.message}; {topic.shown} event dropped"
  | satisfied kind => s!"satisfied: {kind.description}"
  | satisfiedByStatus kind => s!"satisfied on evaluate: {kind.description}"
  | jumped origin target label => s!"[Jump] {origin} -> {target} (label={label.text})"
  | undefinedLabel origin label =>
    s!"[Jump] undefined label '{label.text}' at instruction {origin}; falling through"
  | presentedOptions count cursor => s!"[Choice] presenting {count} options at {cursor}"
  | enteredStoryboard storyboard node => s!"jump into '{storyboard.text}/{node.text}'"
  | branched runner node storyboard target =>
    s!"'{runner.text}/{node.text}' branches to '{storyboard.text}/{target.text}'"
  | startWhileRunning => "start refused: a program is already running"
  | startOfEmptyProgram => "start refused: program is empty"
  | repeatedLabel label position =>
    s!"duplicate label '{label.text}' at instruction {position} ignored; first occurrence wins"
  | programStarted archetype length =>
    s!"[Engine] start {archetype.shown} program with {length} instructions"
  | optionSelected index text cursor => s!"[Choice] option {index} '{text}' selected at {cursor}"
  | instructionSkipped cursor kind error =>
    s!"skipping instruction {cursor} ({shownKind kind}): {error.message}"
  | budgetExhausted budget cursor =>
    s!"step budget of {budget} exhausted at instruction {cursor}; yielding until next tick"
  | waitCutShort cursor => s!"[Skip] timed wait at {cursor} cut short"
  | programBranched target => s!"[Engine] program branched to '{target.text}'"
  | branchWithoutTarget => "branching end without a target node; finishing normally"
  | programFinished rewards => s!"[Engine] program finished with {rewards} rewards"
  | duplicateNode runner node => s!"runner '{runner.text}': duplicate node id '{node.text}' ignored"
  | foreignProgram runner node archetype program =>
    s!"runner '{runner.text}': node '{node.text}' is {archetype.shown} but its program is {program.shown}"
  | initialized runner storyboard nodes =>
    s!"runner '{runner.text}' initialized storyboard '{storyboard.text}' ({nodes} nodes)"
  | conditionIgnored runner node status =>
    s!"runner '{runner.text}': node '{node.text}' is {shownStatus status}; condition ignored"
  | startOfUnknownNode runner node => s!"runner '{runner.text}': cannot start unknown node '{node.text}'"
  | startIgnored runner node status =>
    s!"runner '{runner.text}': node '{node.text}' is {status.shown}; start ignored"
  | nodeStarted runner node => s!"runner '{runner.text}': node '{node.text}' started"
  | notInProgress runner node =>
    s!"runner '{runner.text}': complete of node '{node.text}' that is not in progress"
  | nodeCompleted runner node => s!"runner '{runner.text}': node '{node.text}' completed"
  | nodeRearmed runner node => s!"runner '{runner.text}': node '{node.text}' reset for repeat"
  | foreignSnapshot runner named owned =>
    s!"runner '{runner.text}': snapshot names storyboard '{named.text}' but runner owns '{owned.text}'"
  | unknownSnapshotNode runner node =>
    s!"runner '{runner.text}': snapshot node '{node.text}' not in storyboard; skipped"
  | restored runner total changed =>
    s!"runner '{runner.text}' restored {total} node states ({changed} changed)"
  | unknownSnapshotRunner runner => s!"snapshot for unregistered runner '{runner.text}' ignored"
  | registeredTwice runner => s!"configuration error: runner '{runner.text}' registered twice"
  | registered runner priority => s!"registered runner '{runner.text}' (priority {priority})"
  | unregisterOfUnknown runner => s!"unregister of unknown runner '{runner.text}'"
  | unregisterOfBusy runner node =>
    s!"invariant violation: runner '{runner.text}' unregistered while node '{node.text}' is executing"
  | unregistered runner => s!"unregistered runner '{runner.text}'"
  | queued runner node sequence => s!"queued '{runner.text}/{node.text}' as #{sequence}"
  | startForUnknownRunner runner node =>
    s!"start of '{node.text}' for unknown runner '{runner.text}'"
  | emptyProgram runner node =>
    s!"node '{runner.text}/{node.text}' has no program; completing immediately"
  | couldNotStart runner node error =>
    s!"node '{runner.text}/{node.text}' could not start: {error.message}"
  | releasing runner node sequence => s!"releasing '{runner.text}/{node.text}' (#{sequence})"
  | kickstarted runner node => s!"kickstart '{runner.text}/{node.text}'"
  | noStartNode runner => s!"runner '{runner.text}' has no start node"
  | dataError error => s!"data error: {error.message}"
  | triggerUnclaimed runner => s!"data error: trigger for unregistered runner '{runner.text}'"
  | branchFromUnknownRunner runner => s!"branch from unregistered runner '{runner.text}'"
  | slotSaved slot path => s!"saved slot {slot} to {path}"

def record (n : Note) : LogRecord := ⟨n.level, .category n.category, n.message⟩

end Note

end Plotline
