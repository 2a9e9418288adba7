import Plotline.Proofs.Scene.Execution

/-!
The course of a run. Throughout the run the node that is executing is in progress and has not been completed since
it was started, exactly if no jump brings its origin back.
-/

namespace Plotline.Scene

/-- The scenes that a run comes through: the first, those after the delivery of each event, and those after each
operation. -/
def course : List Operation → Scene → List Scene
  | [], s => [s]
  | op :: ops, s =>
    s :: ((op.deliveries s).map fun delivery => delivery.1.deliverEvent delivery.2) ++ course ops (op.perform s)

/-- In the course of the run a jump starts the very node that asked for it. -/
def BringsBack : List Operation → Scene → Prop
  | [], _ => False
  | op :: ops, s => op.BringsBack s ∨ BringsBack ops (op.perform s)

instance decidableBringsBack : (ops : List Operation) → (s : Scene) → Decidable (BringsBack ops s)
  | [], _ => inferInstanceAs (Decidable False)
  | op :: ops, s =>
    have := decidableBringsBack ops (op.perform s)
    inferInstanceAs (Decidable (op.BringsBack s ∨ BringsBack ops (op.perform s)))

variable {op : Operation} {returning : Prop} {s : Scene}

/-! ### Keeping the active node unbroken -/

theorem Turns.kept {t t' : Turn} (turns : Turns op returning False t t') (plays : op.Plays) (kept : t.Kept returning) :
    t'.Kept returning := by
  induction turns with
  | refl => exact kept
  | tail _ last ih => exact last.kept plays ih

theorem perform_kept (plays : op.Plays) (sound : s.Sound) (kept : Moment.Kept returning ⟨s, [], false⟩)
    (back : op.BringsBack s → returning) : Moment.Kept returning ⟨op.perform s, [], false⟩ :=
  Turns.kept (perform_through op sound.toCoherent (plays.startsFree s) back) plays kept

/-- After the delivery of each event, too. -/
theorem delivered_kept (plays : op.Plays) (sound : s.Sound) (kept : Moment.Kept returning ⟨s, [], false⟩)
    (back : op.BringsBack s → returning) :
    ∀ delivery ∈ op.deliveries s, ∃ rest, Moment.Kept returning ⟨delivery.1.deliverEvent delivery.2, rest, false⟩ := by
  intro delivery member
  cases op with
  | tick elapsed =>
      obtain ⟨rest, reached⟩ : ∃ rest,
          Steps (.tick elapsed) returning False ⟨s, [], false⟩ ⟨_, delivery.2 :: rest, false⟩ :=
        tick_deliveries sound.toCoherent back delivery member
      have coherent := Turns.coherent reached sound.toCoherent
      have delivered : Steps (.tick elapsed) returning False ⟨delivery.1, delivery.2 :: rest, false⟩ _ :=
        deliverEvent_steps coherent delivery.2 rest fun comes => back ⟨delivery, member, comes⟩
      exact ⟨rest, Turns.kept delivered plays (Turns.kept reached plays kept)⟩
  | _ => cases member

theorem course_kept (ops : List Operation) (plays : ∀ op ∈ ops, op.Plays) (sound : s.Sound)
    (kept : Moment.Kept returning ⟨s, [], false⟩) (back : BringsBack ops s → returning) :
    ∀ s' ∈ course ops s, ∃ rest, Moment.Kept returning ⟨s', rest, false⟩ := by
  induction ops generalizing s with
  | nil =>
      intro s' member
      rw [List.mem_singleton.mp member]
      exact ⟨[], kept⟩
  | cons op ops ih =>
      have playsHead := plays op List.mem_cons_self
      intro s' member
      rcases List.mem_append.mp member with early | later
      · rcases List.mem_cons.mp early with rfl | delivered
        · exact ⟨[], kept⟩
        · obtain ⟨delivery, from_, rfl⟩ := List.mem_map.mp delivered
          exact delivered_kept playsHead sound kept (fun here => back (Or.inl here)) delivery from_
      · exact ih (fun other among => plays other (List.mem_cons_of_mem op among))
          (perform_sound op s (playsHead.startsFree s) sound)
          (perform_kept playsHead sound kept fun here => back (Or.inl here)) (fun there => back (Or.inr there)) s' later

/-! ### What a jump back breaks -/

private theorem completed_origin {runner : RunnerId} {node : NodeId} (active : s.active = some (runner, node))
    (running : s.statusOf? runner node = some .inProgress) :
    (s.completeNode runner node).release.active = some (runner, node) ∧
      (s.completeNode runner node).release.statusOf? runner node ≠ some .inProgress := by
  obtain ⟨x, found, status⟩ := Option.bind_eq_some_iff.mp running
  obtain rfl := id_of_runner? found
  have held : (s.putRunner (x.afterEnd node) (x.completeNode node s.channel).2.2).isEventRunning = true := by
    have same : (s.putRunner (x.afterEnd node) (x.completeNode node s.channel).2.2).active = s.active := rfl
    rw [isEventRunning, same, active]
    rfl
  rw [completeNode_found found, release, if_pos held]
  refine ⟨active, ?_⟩
  rw [statusOf?_afterEnd found, Runner.statusOf?_afterEnd status]
  cases x.repeats node <;> decide

private theorem settled_origin {runner : RunnerId} {node : NodeId} (active : s.active = some (runner, node))
    (running : s.statusOf? runner node = some .inProgress) (board : StoryboardName) (target : NodeId)
    (claimed : Bool) :
    (s.settle (.jumpRequested runner node board target) claimed).active = some (runner, node) ∧
      (s.settle (.jumpRequested runner node board target) claimed).statusOf? runner node ≠ some .inProgress := by
  cases claimed with
  | true =>
      have settled : s.settle (.jumpRequested runner node board target) true =
          (s.completeNode runner node).release := by
        simp [settle, running]
      rw [settled]
      exact completed_origin active running
  | false =>
      have runningNoted : (s.note (.dataError (.unknownStoryboard board))).statusOf? runner node =
          some .inProgress := running
      have settled : s.settle (.jumpRequested runner node board target) false =
          ((s.note (.dataError (.unknownStoryboard board))).completeNode runner node).release := by
        simp [settle, runningNoted]
      rw [settled]
      exact completed_origin active running

/-- A jump that brings its origin back completes it although it is executing. -/
theorem broken_of_comesBack {event : StoryEvent} {rest : List StoryEvent} (plays : op.Plays) (sound : s.Sound)
    (kept : Moment.Kept False ⟨s, event :: rest, false⟩) (comes : s.ComesBack event) :
    ¬ (s.deliverEvent event).Intact := by
  have served : Steps op False False ⟨s, event :: rest, false⟩ _ := served_steps sound.toCoherent event rest
  have keptServed : Moment.Kept False ⟨(s.served event).2, event :: rest, false⟩ := Turns.kept served plays kept
  cases event with
  | jumpRequested runner node board target =>
      have running := (keptServed.active runner node comes False.elim).status
      have ended := settled_origin comes running board target (s.served (.jumpRequested runner node board target)).1
      intro intact
      exact ended.2 (intact runner node ended.1).status
  | _ => exact False.elim comes

private theorem deliveries_comeBack (events : List StoryEvent) (plays : op.Plays) (sound : s.Sound)
    (kept : Moment.Kept False ⟨s, events, false⟩)
    (intact : ∀ delivery ∈ deliveries events s, (delivery.1.deliverEvent delivery.2).Intact) :
    ∀ delivery ∈ deliveries events s, ¬ delivery.1.ComesBack delivery.2 := by
  induction events generalizing s with
  | nil => exact List.forall_mem_nil _
  | cons event events ih =>
      have never : ¬ s.ComesBack event := fun comes =>
        broken_of_comesBack plays sound kept comes (intact (s, event) List.mem_cons_self)
      have first : Steps op False False ⟨s, event :: events, false⟩ ⟨s.deliverEvent event, events, false⟩ :=
        deliverEvent_steps sound.toCoherent event events never
      intro delivery member
      rcases List.mem_cons.mp member with rfl | later
      · exact never
      · exact ih (Turns.sound first sound) (Turns.kept first plays kept)
          (fun other among => intact other (List.mem_cons_of_mem _ among)) delivery later

theorem not_bringsBack_of_intact (plays : op.Plays) (sound : s.Sound) (kept : Moment.Kept False ⟨s, [], false⟩)
    (intact : ∀ delivery ∈ op.deliveries s, (delivery.1.deliverEvent delivery.2).Intact) : ¬ op.BringsBack s := by
  rintro ⟨delivery, member, comes⟩
  cases op with
  | tick elapsed =>
      have begun : Steps (.tick elapsed) False False ⟨s, [], false⟩ _ := batch_steps sound.toCoherent
      exact deliveries_comeBack _ plays (Turns.sound begun sound) (Turns.kept begun plays kept) intact delivery member
        comes
  | _ => cases member

theorem not_bringsBack_of_course_intact (ops : List Operation) (plays : ∀ op ∈ ops, op.Plays) (sound : s.Sound)
    (kept : Moment.Kept False ⟨s, [], false⟩) (intact : ∀ s' ∈ course ops s, s'.Intact) : ¬ BringsBack ops s := by
  induction ops generalizing s with
  | nil => exact id
  | cons op ops ih =>
      have playsHead := plays op List.mem_cons_self
      have never : ¬ op.BringsBack s := by
        refine not_bringsBack_of_intact playsHead sound kept ?_
        intro delivery member
        exact intact _ (List.mem_append_left _ (List.mem_cons_of_mem s (List.mem_map_of_mem member)))
      rintro (here | there)
      · exact never here
      · exact ih (fun other among => plays other (List.mem_cons_of_mem op among))
          (perform_sound op s (playsHead.startsFree s) sound) (perform_kept playsHead sound kept never)
          (fun s' among => intact s' (List.mem_append_right _ among)) there

/-! ### The scene of a package -/

private theorem empty_kept (settings : Settings) (stage : Stage) :
    Moment.Kept returning ⟨empty settings stage, [], false⟩ :=
  ⟨nofun, fun _ _ _ _ member => nomatch member⟩

private theorem registerAll_kept (definitions : List RunnerDefinition) (sound : s.Sound)
    (kept : Moment.Kept returning ⟨s, [], false⟩) :
    (registerAll definitions s).2.Sound ∧ Moment.Kept returning ⟨(registerAll definitions s).2, [], false⟩ := by
  induction definitions generalizing s with
  | nil => exact ⟨sound, kept⟩
  | cons d ds ih =>
      have soundNext : (s.register (.ofDefinition d)).2.Sound :=
        perform_sound (.register (.ofDefinition d)) s trivial sound
      have plays : (Operation.register (.ofDefinition d)).Plays := trivial
      have keptNext : Moment.Kept returning ⟨(s.register (.ofDefinition d)).2, [], false⟩ :=
        perform_kept plays sound kept fun ⟨_, member, _⟩ => nomatch member
      unfold registerAll
      cases registered : s.register (.ofDefinition d) with
      | mk result s' =>
          rw [registered] at soundNext keptNext
          cases result with
          | error error => exact ⟨soundNext, keptNext⟩
          | ok _ => exact ih soundNext keptNext

private theorem ofPackage_kept (package : StoryPackage) (settings : Settings) (stage : Stage) :
    (ofPackage package settings stage).2.Sound ∧
      Moment.Kept returning ⟨(ofPackage package settings stage).2, [], false⟩ :=
  registerAll_kept package.runners (empty_sound settings stage) (empty_kept settings stage)

/-! ### Main result -/

/-- Whatever is played, the active node is in progress and has not been completed since it was started, throughout
the run exactly if no jump brings its origin back. For a node that is not repeatable it holds in any case. -/
theorem executing_unbroken_iff (package : StoryPackage) (settings : Settings) (stage : Stage)
    (ops : List Operation) (fromWorld : ∀ op ∈ ops, op.FromWorld) :
    ((∀ s ∈ course ops (ofPackage package settings stage).2, s.Intact) ↔
      ¬ BringsBack ops (ofPackage package settings stage).2) ∧
    ∀ s ∈ course ops (ofPackage package settings stage).2, ∀ runner node, s.active = some (runner, node) →
      s.repeats runner node = false → s.Unbroken runner node := by
  have plays : ∀ op ∈ ops, op.Plays := fun op member => Operation.plays_of_fromWorld (fromWorld op member)
  have keeps : ∀ s ∈ course ops (ofPackage package settings stage).2, ∃ rest,
      Moment.Kept (BringsBack ops (ofPackage package settings stage).2) ⟨s, rest, false⟩ := by
    obtain ⟨sound, kept⟩ := ofPackage_kept package settings stage
    exact course_kept ops plays sound kept id
  refine ⟨⟨?_, ?_⟩, ?_⟩
  · intro intact
    obtain ⟨sound, kept⟩ := ofPackage_kept package settings stage
    exact not_bringsBack_of_course_intact ops plays sound kept intact
  · intro never s member runner node active
    obtain ⟨rest, kept⟩ := keeps s member
    exact kept.active runner node active fun back => absurd back never
  · intro s member runner node active once
    obtain ⟨rest, kept⟩ := keeps s member
    exact kept.active runner node active fun _ => once

/-- The guard is brought back with the second round, and not before. -/
theorem watch_unbroken_iff :
    let start := (ofPackage { runners := [watch] } {} .instant).2
    (∀ s ∈ course [.tick 0, .continueInput, .tick 0] start, s.Intact) ∧
      ¬ ∀ s ∈ course [.tick 0, .continueInput, .tick 0, .tick 0] start, s.Intact := by
  intro start
  have first := (executing_unbroken_iff { runners := [watch] } {} .instant [.tick 0, .continueInput, .tick 0]
    (by simp [Operation.FromWorld])).1
  have second := (executing_unbroken_iff { runners := [watch] } {} .instant
    [.tick 0, .continueInput, .tick 0, .tick 0] (by simp [Operation.FromWorld])).1
  exact ⟨first.mpr (by decide), fun intact => second.mp intact (by decide)⟩

/-- So it is not true of every story that the active node is in progress, although all ids are distinct. -/
theorem active_not_in_progress :
    ¬ ∀ (package : StoryPackage) (ops : List Operation), (package.runners.map (·.id)).Nodup →
      (∀ d ∈ package.runners, (d.storyboard.nodes.map (·.id)).Nodup) → (∀ op ∈ ops, op.FromWorld) →
        ∀ runner node, (run ops (ofPackage package {} .instant).2).active = some (runner, node) →
          (run ops (ofPackage package {} .instant).2).statusOf? runner node = some .inProgress := by
  intro always
  have claimed := always { runners := [watch] } [.tick 0, .continueInput, .tick 0, .tick 0] (by decide) (by decide)
    (by simp [Operation.FromWorld]) ⟨"guard"⟩ ⟨"round"⟩ rfl
  exact absurd claimed (by decide)

end Plotline.Scene
