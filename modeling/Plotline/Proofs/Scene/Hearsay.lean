import Plotline.Proofs.Scene.Remembered

/-!
What nodes that wait for others go by. A condition that waits for a node to be completed is satisfied by the news that a
node of this id is complete, whichever runner it belongs to. So the news are of the runner's own node only as long as no
other runner has a node of the same id.
-/

namespace Plotline.Scene

variable {op : Operation} {returning past : Prop} {t t' : Turn} {delivered due : List StoryEvent} {s : Scene}

/-! ### What has been delivered -/

/-- Of the events that were published some have been delivered; the others are due, or still in the queue. -/
def Turn.Recorded (delivered : List StoryEvent) (t : Turn) : Prop :=
  t.scene.channel.journal.published = delivered ++ (t.due ++ t.scene.channel.bus.queue)

private theorem recorded_of_grows {ch ch' : Channel} {events : List StoryEvent} {granted : List (List Reward)}
    (grown : ch.Grows events granted ch') (recorded : ch.journal.published = delivered ++ (due ++ ch.bus.queue)) :
    ch'.journal.published = delivered ++ (due ++ ch'.bus.queue) := by
  rw [grown.journal.published, grown.queue, recorded]
  simp only [List.append_assoc]

private theorem recorded_of_rewired {ch ch' : Channel} (rewired : ch.Rewired ch')
    (recorded : ch.journal.published = delivered ++ (due ++ ch.bus.queue)) :
    ch'.journal.published = delivered ++ (due ++ ch'.bus.queue) := by
  rw [rewired.journal.published, rewired.queue, recorded, List.append_nil]

/-- The condition that the event is for has heard it, unless the event is a jump. -/
private def Heard (op : Operation) (s : Scene) (event : StoryEvent) : Prop :=
  event.topic ≠ .jumpRequested → op.FromWorld → ∀ key id,
    s.channel.bus.find? id = some ⟨id, event.topic, .condition key⟩ → s.Hears key event

/-- Either no event has been delivered in the step, or one that was due, and everyone concerned has heard it. -/
private theorem Step.recorded (step : Step op returning past t t') (recorded : t.Recorded delivered) :
    (t'.Recorded delivered ∧ t.due ⊆ t'.due) ∨
      ∃ event, t'.Recorded (delivered ++ [event]) ∧ t.due = event :: t'.due ∧ t'.scene = t.scene ∧
        Heard op t.scene event := by
  have same : t.due ⊆ t.due := fun _ => id
  cases step with
  | quiet grown => exact Or.inl ⟨recorded_of_grows grown recorded, same⟩
  | directed program emitted grown => exact Or.inl ⟨recorded_of_grows grown recorded, same⟩
  | queued held => exact Or.inl ⟨recorded_of_grows (Channel.note_quiet rfl _) recorded, same⟩
  | taken releasing free first =>
      refine Or.inl ⟨?_, same⟩
      exact ((Journal.releasing_tells _ _ _ _).published.trans (List.append_nil _)).trans recorded
  | unknown free missing => exact Or.inl ⟨recorded_of_grows (Channel.note_quiet rfl _) recorded, same⟩
  | refused free found unready =>
      exact Or.inl ⟨recorded_of_grows (Channel.note_quiet (Runner.refusal_isPlain _ _) _) recorded, same⟩
  | started free found waiting known program emitted grown opens =>
      exact Or.inl ⟨recorded_of_grows grown recorded, same⟩
  | passed free found waiting grown opens => exact Or.inl ⟨recorded_of_grows grown recorded, same⟩
  | jammed free busy found waiting grown => exact Or.inl ⟨recorded_of_grows grown recorded, same⟩
  | resumed program emitted topics grown => exact Or.inl ⟨recorded_of_grows grown recorded, same⟩
  | finished active found program emitted topics grown => exact Or.inl ⟨recorded_of_grows grown recorded, same⟩
  | branched active program emitted topics grown => exact Or.inl ⟨recorded_of_grows grown recorded, same⟩
  | orphaned free busy program emitted topics grown => exact Or.inl ⟨recorded_of_grows grown recorded, same⟩
  | batch =>
      refine Or.inl ⟨?_, List.subset_append_left _ _⟩
      simpa [Turn.Recorded, Channel.takeBatch, Bus.takeBatch] using recorded
  | delivered first found made =>
      refine Or.inl ⟨?_, same⟩
      exact ((Runner.deliver_made made).2.2.published.trans (List.append_nil _)).trans recorded
  | cleared found inactive grown => exact Or.inl ⟨recorded_of_grows grown recorded, same⟩
  | originEnded jump back found grown => exact Or.inl ⟨recorded_of_grows grown recorded, same⟩
  | @settled m event rest first other heard =>
      refine Or.inr ⟨event, ?_, first, rfl, fun _ => heard⟩
      dsimp only [Turn.Recorded] at recorded ⊢
      rw [recorded, first, List.append_assoc]
      rfl
  | jumpSettled jump ended =>
      refine Or.inr ⟨_, ?_, jump, rfl, fun other => absurd rfl other⟩
      dsimp only [Turn.Recorded] at recorded ⊢
      rw [recorded, jump, List.append_assoc]
      rfl
  | published asked grown => exact Or.inl ⟨recorded_of_grows grown recorded, same⟩
  | requested asked => exact Or.inl ⟨recorded_of_grows (Channel.note_quiet rfl _) recorded, same⟩
  | observes asked => exact Or.inl ⟨recorded_of_rewired (Channel.subscribe_rewired _ _ _) recorded, same⟩
  | stopsObserving asked => exact Or.inl ⟨recorded_of_rewired (Channel.unsubscribe_rewired _ _) recorded, same⟩
  | joined asked fresh made =>
      exact Or.inl ⟨recorded_of_rewired ((Runner.setUp_made made).2.2.2.note rfl) recorded, same⟩
  | parted asked found idle =>
      exact Or.inl ⟨recorded_of_rewired ((Runner.takeDown_rewired _ _).note rfl) recorded, same⟩
  | restored asked member found made =>
      refine Or.inl ⟨?_, same⟩
      exact ((Runner.restore_made made).2.published.trans (List.append_nil _)).trans recorded
  | _ => exact Or.inl ⟨recorded, same⟩

/-! ### What conditions go by -/

/-- Conditions are satisfied by what has been delivered, and by nothing else. Nodes that run only once do not forget. -/
structure Turn.Informed (delivered : List StoryEvent) (t : Turn) : Prop where
  recorded : t.Recorded delivered
  named : ∀ runner board node, .nodeCompleted runner board node ∈ t.scene.channel.journal.published →
    t.scene.Knows (runner, node)
  believed : ∀ key c, t.scene.condition? key = some c → c.satisfied = true →
    ∃ event ∈ delivered ++ t.due, c.kind.matchedBy event = true
  heard : ∀ key c, t.scene.condition? key = some c → t.scene.repeats key.runner key.node = false →
    ∀ event ∈ delivered, c.kind.matchedBy event = true → c.satisfied = true

/-- Each condition that listens on the bus has heard the event if it is one that it waits for. -/
private theorem satisfied_of_heard {event : StoryEvent} (heard : Heard op s event) (world : op.FromWorld)
    (wired : ∀ key c, s.condition? key = some c →
      ∃ id, s.channel.bus.find? id = some ⟨id, c.kind.topic, .condition key⟩) {key : ConditionKey} {c : Condition}
    (slot : s.condition? key = some c) (once : s.repeats key.runner key.node = false)
    (matched : c.kind.matchedBy event = true) : c.satisfied = true := by
  have topic := topic_of_matched matched
  have other : event.topic ≠ .jumpRequested := by
    rw [← topic]
    cases c.kind <;> nofun
  obtain ⟨id, listens⟩ := wired key c slot
  rw [topic] at listens
  exact heard other world key id listens c slot once matched

theorem Step.informed (step : Step op returning False t t') (world : op.FromWorld) (awake : t.Awake)
    (truthful : t'.Truthful) (informed : t.Informed delivered) : ∃ delivered, t'.Informed delivered := by
  have known : ∀ runner board node, .nodeCompleted runner board node ∈ delivered ++ t.due →
      t'.scene.Knows (runner, node) := by
    intro runner board node member
    refine step.knows (Operation.plays_of_fromWorld world) (informed.named runner board node ?_)
    rw [informed.recorded, ← List.append_assoc]
    exact List.mem_append_left _ member
  have latched : ∀ key c', t'.scene.condition? key = some c' → c'.satisfied = true →
      ∃ event ∈ delivered ++ t.due, c'.kind.matchedBy event = true := by
    intro key c' slot' satisfied
    obtain ⟨c, slot, kind, before | ⟨event, due, matched⟩⟩ := step.latched world slot' satisfied
    · exact kind ▸ informed.believed key c slot before
    · exact ⟨event, List.mem_append_right _ due, kind ▸ matched⟩
  rcases step.recorded informed.recorded with ⟨recorded, kept⟩ | ⟨event, recorded, first, same, heard⟩
  · refine ⟨delivered, recorded, ?_, ?_, ?_⟩
    · intro runner board node member
      rw [recorded] at member
      rcases List.mem_append.mp member with old | new
      · exact known runner board node (List.mem_append_left _ old)
      · exact (truthful.told runner board node new).1
    · intro key c' slot' satisfied
      obtain ⟨event, member, matched⟩ := latched key c' slot' satisfied
      exact ⟨event, List.mem_append.mpr ((List.mem_append.mp member).imp_right fun due => kept due), matched⟩
    · intro key c' slot' once event member matched
      obtain ⟨c, slot, kind, repeats, latches⟩ := step.slot world slot'
      rw [repeats] at once
      exact latches once (informed.heard key c slot once event member (kind ▸ matched))
  · rw [first] at known latched
    refine ⟨delivered ++ [event], recorded, ?_, ?_, ?_⟩
    · intro runner board node member
      rw [recorded] at member
      rcases List.mem_append.mp member with old | new
      · exact known runner board node (by simpa using List.mem_append_left t'.due old)
      · exact (truthful.told runner board node new).1
    · intro key c' slot' satisfied
      simpa using latched key c' slot' satisfied
    · rw [same]
      intro key c slot once other member matched
      rcases List.mem_append.mp member with old | new
      · exact informed.heard key c slot once other old matched
      · obtain rfl := List.mem_singleton.mp new
        exact satisfied_of_heard heard world awake.wired slot once matched

/-- All that is known of who has heard what. -/
private def Turn.Conversant (t : Turn) : Prop := t.Awake ∧ t.Truthful ∧ ∃ delivered, t.Informed delivered

private theorem Turns.conversant (turns : Turns op returning False t t') (world : op.FromWorld)
    (kept : t.Conversant) : t'.Conversant := by
  induction turns with
  | refl => exact kept
  | tail _ last ih =>
      obtain ⟨awake, truthful, delivered, informed⟩ := ih
      have still := last.truthful world truthful
      exact ⟨last.awake world awake, still, last.informed world awake still informed⟩

/-! ### Whole runs -/

private theorem register_published (r : Runner) (s : Scene) :
    (s.register r).2.channel.journal.published = s.channel.journal.published := by
  unfold register
  split
  · exact (Journal.note_quiet rfl _).published.trans (List.append_nil _)
  · cases made : r.setUp s.channel with
    | mk ready made' =>
        obtain ⟨rfl, -, -, rewired⟩ := Runner.setUp_made made
        exact (rewired.note rfl).journal.published.trans (List.append_nil _)

private theorem registerAll_published (definitions : List RunnerDefinition) (s : Scene) :
    (registerAll definitions s).2.channel.journal.published = s.channel.journal.published := by
  induction definitions generalizing s with
  | nil => rfl
  | cons d ds ih =>
      have first := register_published (.ofDefinition d) s
      unfold registerAll
      revert first
      cases s.register (.ofDefinition d) with
      | mk result s' =>
          intro first
          cases result with
          | error error => exact first
          | ok _ => exact (ih s').trans first

/-- Nothing has been said yet when the story opens, and nobody believes anything. -/
private theorem Cast.conversant {runners : List Runner} {ch : Channel} (cast : Cast runners ch.bus)
    (silent : ch.journal.published = []) (settings : Settings) (stage : Stage) :
    Turn.Conversant ⟨⟨opening runners ch settings stage, [], false⟩, none⟩ := by
  refine ⟨cast.awake settings stage, (cast.truthful settings stage).2, [], ?_, ?_, ?_, ?_⟩
  · exact silent.trans cast.quiet.symm
  · intro runner board node member
    have none : (opening runners ch settings stage).channel.journal.published = [] := silent
    rw [none] at member
    cases member
  · intro key c slot satisfied
    obtain ⟨x, found, slot⟩ := Option.bind_eq_some_iff.mp slot
    obtain ⟨d, known, slot⟩ := Option.bind_eq_some_iff.mp slot
    have unsatisfied := ((cast.primed_of_found settings stage found).listens_of_node? known slot).1
    cases unsatisfied.symm.trans satisfied
  · exact fun _ _ _ _ => List.forall_mem_nil _

private theorem perform_conversant (op : Operation) (s : Scene) (world : op.FromWorld)
    (kept : s.Sound ∧ Turn.Conversant ⟨⟨s, [], false⟩, none⟩) :
    (op.perform s).Sound ∧ Turn.Conversant ⟨⟨op.perform s, [], false⟩, none⟩ := by
  have steps : Steps op True False ⟨s, [], false⟩ ⟨op.perform s, [], false⟩ :=
    perform_through op kept.1.toCoherent ((Operation.plays_of_fromWorld world).startsFree s) fun _ => trivial
  exact ⟨Turns.sound steps kept.1, Turns.conversant steps world kept.2⟩

/-- In the story of a package conditions go by what has been delivered. -/
private theorem informed_of_package {package : StoryPackage} (proper : package.Proper) (settings : Settings)
    (stage : Stage) (ops : List Operation) (fromWorld : ∀ op ∈ ops, op.FromWorld) :
    ∃ delivered, Turn.Informed delivered
      ⟨⟨run ops (ofPackage package settings stage).2, [], false⟩, none⟩ := by
  have sound : (ofPackage package settings stage).2.Sound :=
    (reached_of_package package settings stage (List.forall_mem_nil _)).keeps empty_sound
      fun op s plays => perform_sound op s (plays.startsFree s)
  have silent : (ofPackage package settings stage).2.channel.journal.published = [] :=
    registerAll_published package.runners (empty settings stage)
  obtain ⟨runners, ch, cast, made⟩ := ofPackage_cast proper
  rw [made settings stage] at sound silent ⊢
  exact (run_keeps perform_conversant ops _ (obeys_of_forall ops _ fromWorld)
    ⟨sound, cast.conversant silent settings stage⟩).2.2.2

/-- A condition that waits for a node to be completed is satisfied only if it has been delivered that some runner's
node of this id is complete; and if its own node runs only once, these news are enough. If no other runner has a node of
this id, they are news of the runner's own node. -/
theorem satisfied_by_news {package : StoryPackage} (proper : package.Proper) (settings : Settings) (stage : Stage)
    (ops : List Operation) (fromWorld : ∀ op ∈ ops, op.FromWorld) :
    let s := run ops (ofPackage package settings stage).2
    ∃ delivered, s.channel.journal.published = delivered ++ s.channel.bus.queue ∧
      ∀ key target c, s.condition? key = some c → c.kind = .previousNodeCompleted target →
        (c.satisfied = true →
          ∃ runner board, .nodeCompleted runner board target ∈ delivered ∧ s.Knows (runner, target)) ∧
        (s.repeats key.runner key.node = false →
          (∃ runner board, .nodeCompleted runner board target ∈ delivered) → c.satisfied = true) ∧
        ((∀ runner, s.Knows (runner, target) → runner = key.runner) → c.satisfied = true →
          ∃ board, .nodeCompleted key.runner board target ∈ delivered) := by
  intro s
  obtain ⟨delivered, informed⟩ := informed_of_package proper settings stage ops fromWorld
  have recorded : s.channel.journal.published = delivered ++ s.channel.bus.queue := informed.recorded
  refine ⟨delivered, recorded, ?_⟩
  intro key target c slot kind
  have heardOf : c.satisfied = true →
      ∃ runner board, .nodeCompleted runner board target ∈ delivered ∧ s.Knows (runner, target) := by
    intro satisfied
    obtain ⟨event, member, matched⟩ := informed.believed key c slot satisfied
    rw [kind] at matched
    obtain ⟨runner, board, rfl⟩ := completion_of_matched matched
    have told : .nodeCompleted runner board target ∈ delivered := by simpa using member
    exact ⟨runner, board, told, informed.named runner board target (recorded ▸ List.mem_append_left _ told)⟩
  refine ⟨heardOf, ?_, ?_⟩
  · rintro once ⟨runner, board, told⟩
    exact informed.heard key c slot once _ told (by rw [kind]; simp [ConditionKind.matchedBy])
  · intro only satisfied
    obtain ⟨runner, board, told, knows⟩ := heardOf satisfied
    obtain rfl := only runner knows
    exact ⟨board, told⟩

/-- A baker and a smith open their shops; the smith sells when his shop has been opened. -/
def market : StoryPackage :=
  { runners :=
      [{ id := ⟨"baker"⟩
         storyboard :=
           { name := ⟨"bakery"⟩
             nodes :=
               [{ id := ⟨"opening"⟩
                  isStart := true
                  program := { instructions := [.dialogue "B" "Fresh bread!" none] } }] } },
       { id := ⟨"smith"⟩
         priority := 1
         storyboard :=
           { name := ⟨"forge"⟩
             nodes :=
               [{ id := ⟨"opening"⟩, program := { instructions := [.dialogue "S" "Come closer!" none] } },
                { id := ⟨"sale"⟩
                  conditions := [{ kind := .previousNodeCompleted ⟨"opening"⟩ }]
                  program := { instructions := [.dialogue "S" "Horseshoes!" none] } }] } }] }

/-- The baker opens his shop. -/
private def breadFirst : List Operation := [.tick 0, .continueInput, .tick 0, .tick 0]

private theorem market_proper : market.Proper :=
  ⟨by decide, by decide, by simp [market, Runner.Unsubscribed]⟩

private theorem smith_convinced (s : Scene) (is : s = run breadFirst (ofPackage market {} .instant).2) :
    s.condition? ⟨⟨"smith"⟩, ⟨"sale"⟩, 0⟩ =
        some { kind := .previousNodeCompleted ⟨"opening"⟩, satisfied := true, subscription := some ⟨2⟩ } ∧
      s.Knows (⟨"smith"⟩, ⟨"opening"⟩) ∧ s.statusOf? ⟨"smith"⟩ ⟨"opening"⟩ = some .notStarted ∧
        s.channel.journal.published =
          [.nodeStarted ⟨"baker"⟩ ⟨"bakery"⟩ ⟨"opening"⟩, .nodeCompleted ⟨"baker"⟩ ⟨"bakery"⟩ ⟨"opening"⟩,
            .programFinished ⟨"baker"⟩ ⟨"opening"⟩ [], .nodeStarted ⟨"smith"⟩ ⟨"forge"⟩ ⟨"sale"⟩] := by
  subst is
  decide +kernel

/-- The smith has heard of an opening. -/
theorem market_satisfied_by_news :
    let s := run breadFirst (ofPackage market {} .instant).2
    (∀ op ∈ breadFirst, op.FromWorld) ∧ market.Proper ∧
      ∃ runner board, .nodeCompleted runner board ⟨"opening"⟩ ∈ s.channel.journal.published ∧
        s.Knows (runner, ⟨"opening"⟩) := by
  intro s
  have fromWorld : ∀ op ∈ breadFirst, op.FromWorld := by simp [breadFirst, Operation.FromWorld]
  obtain ⟨slot, -⟩ := smith_convinced s rfl
  obtain ⟨delivered, recorded, news⟩ := satisfied_by_news market_proper {} .instant breadFirst fromWorld
  obtain ⟨runner, board, told, knows⟩ := (news _ ⟨"opening"⟩ _ slot rfl).1 rfl
  exact ⟨fromWorld, market_proper, runner, board, recorded ▸ List.mem_append_left _ told, knows⟩

/-- It is not true that a node which waits for another node of its runner goes by the completion of that node: the smith
sells although his shop has not been opened, because the baker's has. -/
theorem smith_misled :
    ¬ ∀ (package : StoryPackage) (ops : List Operation), package.Proper → (∀ op ∈ ops, op.FromWorld) →
      ∀ key target c, (run ops (ofPackage package {} .instant).2).condition? key = some c →
        c.kind = .previousNodeCompleted target → c.satisfied = true →
          (run ops (ofPackage package {} .instant).2).Knows (key.runner, target) →
            ∃ board, .nodeCompleted key.runner board target ∈
              (run ops (ofPackage package {} .instant).2).channel.journal.published := by
  intro always
  have fromWorld : ∀ op ∈ breadFirst, op.FromWorld := by simp [breadFirst, Operation.FromWorld]
  obtain ⟨slot, knows, -, published⟩ := smith_convinced _ rfl
  obtain ⟨board, opened⟩ := always market breadFirst market_proper fromWorld _ _ _ slot rfl rfl knows
  rw [published] at opened
  simp at opened

end Plotline.Scene
