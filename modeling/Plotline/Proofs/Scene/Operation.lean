import Plotline.Scene.Restore
import Plotline.Scene.Tick

/-!
Runs of a scene: what a host can ask of it, one operation after the other. What is said of `run ops s` for all
`ops` is said of the scene after every operation, since the beginning of a run is a run.
-/

namespace Plotline.Scene

inductive Operation
  | register (r : Runner)
  | unregister (id : RunnerId)
  | tick (elapsed : Duration)
  | continueInput
  | selectChoice (index : Nat)
  | requestSkip
  | publish (event : StoryEvent)
  | trigger (runner : RunnerId) (node : NodeId)
  | enqueue (runner : RunnerId) (node : NodeId)
  | tryStart (runner : RunnerId) (node : NodeId)
  | start (runner : RunnerId) (node : NodeId)
  | release
  | kickstart
  | observe (topic : Topic)
  | stopObserving (id : SubscriptionId)
  | restore (entries : List SnapshotEntry)

namespace Operation

/-- The scene after the operation, whether it was granted or refused. -/
def perform : Operation → Scene → Scene
  | register r, s => (s.register r).2
  | unregister id, s => (s.unregister id).2
  | tick elapsed, s => s.tick elapsed
  | continueInput, s => s.continueInput.toOption.getD s
  | selectChoice index, s => (s.selectChoice index).toOption.getD s
  | requestSkip, s => s.requestSkip
  | publish event, s => s.publish event
  | trigger runner node, s => (s.trigger runner node).toOption.getD s
  | enqueue runner node, s => s.enqueue runner node
  | tryStart runner node, s => s.tryStart runner node
  | start runner node, s => (s.startNode runner node).2
  | release, s => s.release
  | kickstart, s => s.kickstart
  | observe topic, s => (s.observe topic).2
  | stopObserving id, s => (s.stopObserving id).2
  | restore entries, s => s.restore entries

/-- A node is started directly only while none is active. -/
def StartsFree : Operation → Scene → Prop
  | start .., s => s.isEventRunning = false
  | _, _ => True

/-- What a player and the world around the story do. -/
def FromWorld : Operation → Prop
  | tick _ | continueInput | selectChoice _ | requestSkip | trigger .. => True
  | publish (.areaEntered _) | publish (.interactionTriggered _) => True
  | _ => False

/-- A scene is put together, and then played. -/
def Plays : Operation → Prop
  | register _ => True
  | op => op.FromWorld

theorem plays_of_fromWorld {op : Operation} (world : op.FromWorld) : op.Plays := by
  cases op <;> first | exact trivial | exact world

theorem Plays.startsFree {op : Operation} (plays : op.Plays) (s : Scene) : op.StartsFree s := by
  cases op with
  | start runner node => exact False.elim plays
  | _ => exact trivial

instance (op : Operation) (s : Scene) : Decidable (op.StartsFree s) := by
  cases op <;> unfold StartsFree <;> infer_instance

end Operation

def run (ops : List Operation) (s : Scene) : Scene := ops.foldl (fun s op => op.perform s) s

/-- Each operation obeys the rule in the scene that it comes to. -/
def Obeys (rule : Operation → Scene → Prop) : List Operation → Scene → Prop
  | [], _ => True
  | op :: ops, s => rule op s ∧ Obeys rule ops (op.perform s)

/-- What each operation keeps, a run keeps. -/
theorem run_keeps {rule : Operation → Scene → Prop} {kept : Scene → Prop}
    (step : ∀ op s, rule op s → kept s → kept (op.perform s)) (ops : List Operation) (s : Scene)
    (obeys : Obeys rule ops s) (start : kept s) : kept (run ops s) := by
  induction ops generalizing s with
  | nil => exact start
  | cons op ops ih => exact ih (op.perform s) obeys.2 (step op s obeys.1 start)

/-- A scene that operations under the rule lead to. -/
def Reached (rule : Operation → Scene → Prop) (s : Scene) : Prop :=
  ∃ settings stage ops, Obeys rule ops (empty settings stage) ∧ run ops (empty settings stage) = s

theorem Reached.keeps {rule : Operation → Scene → Prop} {kept : Scene → Prop} {s : Scene} (reached : Reached rule s)
    (start : ∀ settings stage, kept (empty settings stage))
    (step : ∀ op s, rule op s → kept s → kept (op.perform s)) : kept s := by
  obtain ⟨settings, stage, ops, obeys, rfl⟩ := reached
  exact run_keeps step ops _ obeys (start settings stage)

theorem run_append (ops more : List Operation) (s : Scene) : run (ops ++ more) s = run more (run ops s) :=
  List.foldl_append

theorem obeys_of_forall {rule : Operation → Prop} (ops : List Operation) (s : Scene) (all : ∀ op ∈ ops, rule op) :
    Obeys (fun op _ => rule op) ops s := by
  induction ops generalizing s with
  | nil => exact trivial
  | cons op ops ih =>
      exact ⟨all op List.mem_cons_self, ih _ fun other member => all other (List.mem_cons_of_mem op member)⟩

/-- Without a rule every run reaches its scene. -/
theorem reached_run (ops : List Operation) (settings : Settings) (stage : Stage) :
    Reached (fun _ _ => True) (run ops (empty settings stage)) :=
  ⟨settings, stage, ops, obeys_of_forall ops _ fun _ _ => trivial, rfl⟩

theorem Reached.further {s : Scene} (reached : Reached (fun _ _ => True) s) (ops : List Operation) :
    Reached (fun _ _ => True) (run ops s) := by
  obtain ⟨settings, stage, before, -, rfl⟩ := reached
  rw [← run_append]
  exact reached_run (before ++ ops) settings stage

theorem registerAll_eq_run (definitions : List RunnerDefinition) (s : Scene) :
    ∃ ops, (∀ op ∈ ops, op.Plays) ∧ run ops s = (registerAll definitions s).2 := by
  induction definitions generalizing s with
  | nil => exact ⟨[], List.forall_mem_nil _, rfl⟩
  | cons d ds ih =>
      unfold registerAll
      cases registered : s.register (.ofDefinition d) with
      | mk result s' =>
          have performed : (Operation.register (.ofDefinition d)).perform s = s' := congrArg Prod.snd registered
          cases result with
          | error error =>
              refine ⟨[.register (.ofDefinition d)], ?_, performed⟩
              simp [Operation.Plays]
          | ok _ =>
              obtain ⟨ops, plays, made⟩ := ih s'
              refine ⟨.register (.ofDefinition d) :: ops, ?_, ?_⟩
              · simpa [Operation.Plays] using plays
              · exact (congrArg (run ops) performed).trans made

/-- The scene of a package, and whatever the world makes of it, is reached by play. -/
theorem reached_of_package (package : StoryPackage) (settings : Settings) (stage : Stage) {ops : List Operation}
    (fromWorld : ∀ op ∈ ops, op.FromWorld) :
    Reached (fun op _ => op.Plays) (run ops (ofPackage package settings stage).2) := by
  obtain ⟨registers, plays, made⟩ := registerAll_eq_run package.runners (empty settings stage)
  refine ⟨settings, stage, registers ++ ops, obeys_of_forall _ _ ?_, ?_⟩
  · intro op member
    rcases List.mem_append.mp member with first | later
    · exact plays op first
    · exact Operation.plays_of_fromWorld (fromWorld op later)
  · rw [run_append, made]
    rfl

/-- A guard whose only node branches to itself, so that one round follows the other. -/
def watch : RunnerDefinition :=
  { id := ⟨"guard"⟩
    storyboard :=
      { name := ⟨"post"⟩
        nodes :=
          [{ id := ⟨"round"⟩
             isStart := true
             isRepeatable := true
             program :=
               { instructions :=
                   [.dialogue "A" "Halt!" none,
                    .endOfProgram { isBranching := true, targetNode := some ⟨"round"⟩ }] } }] } }

def sentry : Runner := .ofDefinition watch

/-! ### What a tick delivers -/

/-- The scene once every subscriber has seen the event, and whether a runner has claimed it. -/
def served (s : Scene) (event : StoryEvent) : Bool × Scene :=
  (s.channel.bus.subscribersOf event.topic).foldl (deliverTo event) (false, s)

theorem deliverEvent_eq (s : Scene) (event : StoryEvent) :
    s.deliverEvent event = (s.served event).2.settle event (s.served event).1 := rfl

/-- The jump has started the very node that asked for it. -/
def ComesBack (s : Scene) (event : StoryEvent) : Prop :=
  match event with
  | .jumpRequested runner node _ _ => (s.served event).2.active = some (runner, node)
  | _ => False

instance (s : Scene) (event : StoryEvent) : Decidable (s.ComesBack event) := by
  cases event <;> unfold ComesBack <;> infer_instance

/-- The events of a batch, each with the scene that it comes to. -/
def deliveries : List StoryEvent → Scene → List (Scene × StoryEvent)
  | [], _ => []
  | event :: events, s => (s, event) :: deliveries events (s.deliverEvent event)

namespace Operation

/-- The events that the operation delivers, each with the scene that it comes to. -/
def deliveries (op : Operation) (s : Scene) : List (Scene × StoryEvent) :=
  match op with
  | tick _ =>
    let (events, ch) := s.kickstart.channel.takeBatch
    Scene.deliveries events { s.kickstart with channel := ch }
  | _ => []

/-- In the course of the operation a jump starts the very node that asked for it. -/
def BringsBack (op : Operation) (s : Scene) : Prop := ∃ delivery ∈ op.deliveries s, delivery.1.ComesBack delivery.2

instance (op : Operation) (s : Scene) : Decidable (op.BringsBack s) :=
  inferInstanceAs (Decidable (∃ delivery ∈ op.deliveries s, delivery.1.ComesBack delivery.2))

end Operation

end Plotline.Scene
