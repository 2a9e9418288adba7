import Plotline.Proofs.Scene.Perform
import Plotline.Proofs.Story.Event

/-!
The account of a run. Every node that starts either finishes, leaves for another node or is still active, and what
programs earn by finishing is what is handed out, in the same order. Only what the scene publishes of itself counts;
a host may publish what it likes.
-/

namespace Plotline.Scene

namespace Operation

/-- What a host publishes with its own hands. -/
def hostEvents : Operation → List StoryEvent
  | publish event => [event]
  | _ => []

/-- What the scene publishes in the course of the operation, beyond what the host has published. -/
def engineEvents (op : Operation) (s : Scene) : List StoryEvent :=
  (op.perform s).channel.journal.published.drop (s.channel.journal.published.length + op.hostEvents.length)

end Operation

def engineEvents : List Operation → Scene → List StoryEvent
  | [], _ => []
  | op :: ops, s => op.engineEvents s ++ engineEvents ops (op.perform s)

/-- Between the two scenes the events account for what has become active and what no longer is. -/
def Balanced (events : List StoryEvent) (s s' : Scene) : Prop :=
  ∀ runner node,
    events.countP (·.starts runner node) + (if s.active = some (runner, node) then 1 else 0) =
      events.countP (·.finishes runner node) + events.countP (·.leaves runner node) +
        if s'.active = some (runner, node) then 1 else 0

theorem Balanced.trans {events more : List StoryEvent} {s s' s'' : Scene} (first : Balanced events s s')
    (last : Balanced more s' s'') : Balanced (events ++ more) s s'' := by
  intro runner node
  have before := first runner node
  have after := last runner node
  simp only [List.countP_append]
  omega

/-! ### One step -/

/-- Events that neither start nor end the work on a node. -/
private def Idle (events : List StoryEvent) : Prop :=
  ∀ event ∈ events, event.topic = .triggerRequested ∨ event.topic = .nodeCompleted

private theorem idle_nil : Idle [] := List.forall_mem_nil _

private theorem Idle.counts {events : List StoryEvent} (idle : Idle events) (runner : RunnerId) (node : NodeId) :
    events.countP (·.starts runner node) = 0 ∧ events.countP (·.finishes runner node) = 0 ∧
      events.countP (·.leaves runner node) = 0 := by
  simp only [List.countP_eq_zero]
  refine ⟨?_, ?_, ?_⟩ <;>
    · intro event member
      have topic := idle event member
      cases event <;> simp_all [StoryEvent.topic, StoryEvent.starts, StoryEvent.finishes, StoryEvent.leaves]

private theorem Idle.earned {events : List StoryEvent} (idle : Idle events) :
    events.filterMap StoryEvent.earned = [] := by
  rw [List.filterMap_eq_nil_iff]
  intro event member
  have topic := idle event member
  cases event <;> simp_all [StoryEvent.topic, StoryEvent.earned]

private theorem Idle.balanced {events : List StoryEvent} (idle : Idle events) {s s' : Scene}
    (active : s'.active = s.active) : Balanced events s s' := by
  intro runner node
  obtain ⟨starts, finishes, leaves⟩ := idle.counts runner node
  rw [starts, finishes, leaves, active]

private theorem endNews_idle (x : Runner) (node : NodeId) : Idle (x.endNews node) := by
  intro event member
  rw [Runner.eq_of_mem_endNews member]
  exact Or.inr rfl

/-- A stretch of work that publishes the events and hands out what programs earn by them. -/
structure Accounts (events : List StoryEvent) (s s' : Scene) : Prop where
  journal : s.channel.journal.Tells events (events.filterMap StoryEvent.earned) s'.channel.journal
  balanced : Balanced events s s'

theorem Accounts.trans {events more : List StoryEvent} {s s' s'' : Scene} (first : Accounts events s s')
    (last : Accounts more s' s'') : Accounts (events ++ more) s s'' := by
  refine ⟨?_, first.balanced.trans last.balanced⟩
  rw [List.filterMap_append]
  exact first.journal.trans last.journal

private theorem accounts_of_idle {events : List StoryEvent} (idle : Idle events) {s s' : Scene}
    (active : s'.active = s.active) (journal : s.channel.journal.Tells events [] s'.channel.journal) :
    Accounts events s s' :=
  ⟨idle.earned.symm ▸ journal, idle.balanced active⟩

private theorem accounts_of_quiet {s s' : Scene} (active : s'.active = s.active)
    (journal : s.channel.journal.Tells [] [] s'.channel.journal) : ∃ events, Accounts events s s' :=
  ⟨[], accounts_of_idle idle_nil active journal⟩

private theorem started_accounts {s s' : Scene} {runner : RunnerId} {node : NodeId} {board : StoryboardName}
    (free : s.active = none) (active : s'.active = some (runner, node))
    (journal : s.channel.journal.Tells [.nodeStarted runner board node] [] s'.channel.journal) :
    Accounts [.nodeStarted runner board node] s s' := by
  refine ⟨journal, ?_⟩
  intro r n
  rw [free, active]
  simp [StoryEvent.starts, StoryEvent.finishes, StoryEvent.leaves, List.countP_cons]

private theorem passed_accounts {s s' : Scene} {runner : RunnerId} {node : NodeId} {board : StoryboardName}
    (active : s'.active = s.active)
    (journal : s.channel.journal.Tells
      [.nodeStarted runner board node, .nodeCompleted runner board node, .programFinished runner node []] []
        s'.channel.journal) :
    Accounts [.nodeStarted runner board node, .nodeCompleted runner board node, .programFinished runner node []]
      s s' := by
  refine ⟨journal, ?_⟩
  intro r n
  rw [active]
  simp [StoryEvent.starts, StoryEvent.finishes, StoryEvent.leaves, List.countP_cons]

private theorem finished_accounts {s s' : Scene} {runner : RunnerId} {node : NodeId} {rewards : List Reward}
    {events : List StoryEvent} (idle : Idle events) (active : s.active = some (runner, node))
    (freed : s'.active = none)
    (journal : s.channel.journal.Tells (events ++ [.programFinished runner node rewards])
      (if rewards.isEmpty then [] else [rewards]) s'.channel.journal) :
    Accounts (events ++ [.programFinished runner node rewards]) s s' := by
  refine ⟨?_, ?_⟩
  · have earned : (events ++ [StoryEvent.programFinished runner node rewards]).filterMap StoryEvent.earned =
        if rewards.isEmpty then [] else [rewards] := by
      rw [List.filterMap_append, idle.earned]
      cases rewards <;> rfl
    rw [earned]
    exact journal
  · intro r n
    obtain ⟨starts, finishes, leaves⟩ := idle.counts r n
    rw [active, freed, List.countP_append, List.countP_append, List.countP_append, starts, finishes, leaves]
    simp [StoryEvent.starts, StoryEvent.finishes, StoryEvent.leaves, List.countP_cons]

private theorem branched_accounts {s s' : Scene} {runner : RunnerId} {node target : NodeId} {board : StoryboardName}
    {events : List StoryEvent} (idle : Idle events) (active : s.active = some (runner, node))
    (freed : s'.active = none)
    (journal : s.channel.journal.Tells (events ++ [.jumpRequested runner node board target]) [] s'.channel.journal) :
    Accounts (events ++ [.jumpRequested runner node board target]) s s' := by
  refine ⟨?_, ?_⟩
  · rw [List.filterMap_append, idle.earned]
    exact journal
  · intro r n
    obtain ⟨starts, finishes, leaves⟩ := idle.counts r n
    rw [active, freed, List.countP_append, List.countP_append, List.countP_append, starts, finishes, leaves]
    simp [StoryEvent.starts, StoryEvent.finishes, StoryEvent.leaves, List.countP_cons]

theorem Step.accounts {op : Operation} {returning : Prop} {t t' : Turn} (step : Step op returning False t t')
    (sound : t.scene.Sound) (notHost : ∀ event, op ≠ .publish event) :
    ∃ events, Accounts events t.scene t'.scene := by
  cases step with
  | quiet grown => exact accounts_of_quiet rfl grown.journal.toTells
  | kickstarted => exact accounts_of_quiet rfl (.refl _)
  | directed program emitted grown => exact accounts_of_quiet rfl grown.journal.toTells
  | called target known => exact accounts_of_quiet rfl (.refl _)
  | queued held => exact accounts_of_quiet rfl (Journal.note_quiet rfl _).toTells
  | reordered same => exact accounts_of_quiet rfl (.refl _)
  | releases => exact accounts_of_quiet rfl (.refl _)
  | taken releasing free first => exact accounts_of_quiet rfl (Journal.releasing_tells _ _ _ _)
  | released done => exact accounts_of_quiet rfl (.refl _)
  | unknown free missing => exact accounts_of_quiet rfl (Journal.note_quiet rfl _).toTells
  | refused free found unready =>
      exact accounts_of_quiet rfl (Journal.note_quiet (Runner.refusal_isPlain _ _) _).toTells
  | started free found waiting known program emitted grown opens =>
      exact ⟨_, started_accounts (free.resolve_right id) rfl grown.journal.toTells⟩
  | passed free found waiting grown opens =>
      exact ⟨_, passed_accounts (free.resolve_right id).symm grown.journal.toTells⟩
  | jammed free busy found waiting grown => exact absurd (sound.idle (free.resolve_right id)) busy
  | resumed program emitted topics grown =>
      exact ⟨_, accounts_of_idle (fun event member => Or.inl (topics event member)) rfl grown.journal.toTells⟩
  | @finished m runner node x rewards i ch triggers active found program emitted topics grown =>
      have idle : Idle (triggers ++ x.endNews node) := by
        intro event member
        rcases List.mem_append.mp member with trigger | news
        · exact Or.inl (topics event trigger)
        · exact endNews_idle x node event news
      exact ⟨_, finished_accounts idle active rfl grown.journal.toTells⟩
  | branched active program emitted topics grown =>
      have idle : Idle _ := fun event member => Or.inl (topics event member)
      exact ⟨_, branched_accounts idle active rfl grown.journal.toTells⟩
  | orphaned free busy program emitted topics grown =>
      exact ⟨_, accounts_of_idle (fun event member => Or.inl (topics event member)) rfl grown.journal.toTells⟩
  | batch => exact accounts_of_quiet rfl (.refl _)
  | delivered first found made => exact accounts_of_quiet rfl (Runner.deliver_made made).2.2.toTells
  | cleared found inactive grown => exact ⟨_, accounts_of_idle (endNews_idle _ _) rfl grown.journal.toTells⟩
  | originEnded jump back found grown => exact ⟨_, accounts_of_idle (endNews_idle _ _) rfl grown.journal.toTells⟩
  | settled first other heard => exact accounts_of_quiet rfl (.refl _)
  | jumpSettled jump ended => exact accounts_of_quiet rfl (.refl _)
  | published asked grown => exact absurd asked (notHost _)
  | requested asked => exact accounts_of_quiet rfl (Journal.note_quiet rfl _).toTells
  | observes asked => exact accounts_of_quiet rfl (Channel.subscribe_rewired _ _ _).journal.toTells
  | stopsObserving asked => exact accounts_of_quiet rfl (Channel.unsubscribe_rewired _ _).journal.toTells
  | joined asked fresh made => exact accounts_of_quiet rfl ((Runner.setUp_made made).2.2.2.note rfl).journal.toTells
  | parted asked found idle => exact accounts_of_quiet rfl ((Runner.takeDown_rewired _ _).note rfl).journal.toTells
  | restored asked member found made => exact accounts_of_quiet rfl (Runner.restore_made made).2.toTells
  | forgotten asked => exact accounts_of_quiet rfl (.refl _)

/-! ### Whole runs -/

theorem Turns.accounts {op : Operation} {returning : Prop} {t t' : Turn} (turns : Turns op returning False t t')
    (sound : t.scene.Sound) (notHost : ∀ event, op ≠ .publish event) : ∃ events, Accounts events t.scene t'.scene := by
  induction turns with
  | refl => exact accounts_of_quiet rfl (.refl _)
  | tail earlier last ih =>
      obtain ⟨_, first⟩ := ih
      obtain ⟨_, second⟩ := last.accounts (Turns.sound earlier sound) notHost
      exact ⟨_, first.trans second⟩

theorem publish_engineEvents {s : Scene} (coherent : s.Coherent) (event : StoryEvent) :
    (Operation.publish event).engineEvents s = [] := by
  have grown := s.channel.publish_grows event coherent.attached
  have published : ((Operation.publish event).perform s).channel.journal.published =
      s.channel.journal.published ++ [event] := grown.journal.published
  unfold Operation.engineEvents
  rw [published]
  simp [Operation.hostEvents]

theorem engineEvents_of_tells {op : Operation} {s : Scene} {events : List StoryEvent} {granted : List (List Reward)}
    (notHost : ∀ event, op ≠ .publish event)
    (tells : s.channel.journal.Tells events granted (op.perform s).channel.journal) : op.engineEvents s = events := by
  have none : op.hostEvents = [] := by
    cases op <;> first | rfl | exact absurd rfl (notHost _)
  unfold Operation.engineEvents
  rw [tells.published, none]
  simp

theorem perform_accounts (op : Operation) {s : Scene} (startsFree : op.StartsFree s) (sound : s.Sound) :
    Balanced (op.engineEvents s) s (op.perform s) ∧
      (op.perform s).channel.journal.rewards =
        s.channel.journal.rewards ++ (op.engineEvents s).filterMap StoryEvent.earned := by
  have steps : Steps op True False ⟨s, [], false⟩ ⟨op.perform s, [], false⟩ :=
    perform_through op sound.toCoherent startsFree fun _ => trivial
  by_cases host : ∃ event, op = .publish event
  · obtain ⟨event, rfl⟩ := host
    have grown := s.channel.publish_grows event sound.attached
    rw [publish_engineEvents sound.toCoherent]
    exact ⟨idle_nil.balanced rfl, grown.journal.rewards⟩
  · have notHost : ∀ event, op ≠ .publish event := fun event same => host ⟨event, same⟩
    obtain ⟨events, accounts⟩ := Turns.accounts steps sound notHost
    rw [engineEvents_of_tells notHost accounts.journal]
    exact ⟨accounts.balanced, accounts.journal.rewards⟩

theorem run_accounts (ops : List Operation) {s : Scene} (startsFree : Obeys Operation.StartsFree ops s)
    (sound : s.Sound) :
    Balanced (engineEvents ops s) s (run ops s) ∧
      (run ops s).channel.journal.rewards =
        s.channel.journal.rewards ++ (engineEvents ops s).filterMap StoryEvent.earned := by
  induction ops generalizing s with
  | nil => exact ⟨idle_nil.balanced rfl, by simp [run, engineEvents]⟩
  | cons op ops ih =>
      obtain ⟨balanced, rewards⟩ := perform_accounts op startsFree.1 sound
      obtain ⟨balancedRest, rewardsRest⟩ := ih startsFree.2 (perform_sound op s startsFree.1 sound)
      refine ⟨balanced.trans balancedRest, ?_⟩
      unfold engineEvents
      rw [List.filterMap_append, ← List.append_assoc, ← rewards]
      exact rewardsRest

/-- Of every node the scene has started as many runs as have finished, as have left for another node, and as are
still active. What was handed out is what the programs have earned by finishing. -/
theorem starts_eq_ends (settings : Settings) (stage : Stage) (ops : List Operation)
    (startsFree : Obeys Operation.StartsFree ops (empty settings stage)) :
    (∀ runner node,
      (engineEvents ops (empty settings stage)).countP (·.starts runner node) =
        (engineEvents ops (empty settings stage)).countP (·.finishes runner node) +
          (engineEvents ops (empty settings stage)).countP (·.leaves runner node) +
            if (run ops (empty settings stage)).active = some (runner, node) then 1 else 0) ∧
      (run ops (empty settings stage)).channel.journal.rewards =
        (engineEvents ops (empty settings stage)).filterMap StoryEvent.earned := by
  obtain ⟨balanced, rewards⟩ := run_accounts ops startsFree (empty_sound settings stage)
  exact ⟨fun runner node => balanced runner node, rewards⟩

/-- A page whose only node earns a reward. -/
def page : Runner :=
  .ofDefinition
    { id := ⟨"page"⟩
      storyboard :=
        { name := ⟨"hall"⟩
          nodes :=
            [{ id := ⟨"letter"⟩
               isRepeatable := true
               program := { instructions := [.endOfProgram { rewards := [{ id := "gold", amount := 5 }] }] } }] } }

/-- The page earns the reward twice, and what the host publishes in its name earns nothing. -/
theorem page_starts_eq_ends :
    let ops : List Operation :=
      [.register page, .trigger ⟨"page"⟩ ⟨"letter"⟩, .trigger ⟨"page"⟩ ⟨"letter"⟩,
        .publish (.programFinished ⟨"page"⟩ ⟨"letter"⟩ [{ id := "silver" }]), .tick 0]
    let events := engineEvents ops (empty {} .instant)
    Obeys Operation.StartsFree ops (empty {} .instant) ∧
      events.countP (·.starts ⟨"page"⟩ ⟨"letter"⟩) = 2 ∧
      events.countP (·.starts ⟨"page"⟩ ⟨"letter"⟩) =
        events.countP (·.finishes ⟨"page"⟩ ⟨"letter"⟩) + events.countP (·.leaves ⟨"page"⟩ ⟨"letter"⟩) +
          (if (run ops (empty {} .instant)).active = some (⟨"page"⟩, ⟨"letter"⟩) then 1 else 0) ∧
      (run ops (empty {} .instant)).channel.journal.rewards = events.filterMap StoryEvent.earned ∧
      events.filterMap StoryEvent.earned = [[{ id := "gold", amount := 5 }], [{ id := "gold", amount := 5 }]] := by
  intro ops events
  have obeys : Obeys Operation.StartsFree ops (empty {} .instant) :=
    ⟨trivial, trivial, trivial, trivial, trivial, trivial⟩
  have accounts := starts_eq_ends {} .instant ops obeys
  exact ⟨obeys, rfl, accounts.1 ⟨"page"⟩ ⟨"letter"⟩, accounts.2, rfl⟩

end Plotline.Scene
