import Plotline.Proofs.Scene.Tick

/-!
Every operation is a sequence of steps. What the steps keep, the operation keeps.
-/

namespace Plotline.Scene

variable {op : Operation} {returning past : Prop} {s : Scene}

private theorem register_steps (r : Runner) :
    Steps (.register r) returning past ⟨s, [], false⟩ ⟨(s.register r).2, [], false⟩ := by
  unfold register
  cases found : s.runner? r.id with
  | some _ => exact note_steps rfl
  | none =>
      cases made : r.setUp s.channel with
      | mk ready made' =>
          obtain ⟨y, ch⟩ := made'
          obtain ⟨rfl, id, -, -⟩ := Runner.setUp_made made
          exact .single (.joined rfl (id ▸ found) made)

private theorem unregister_steps (id : RunnerId) :
    Steps (.unregister id) returning past ⟨s, [], false⟩ ⟨(s.unregister id).2, [], false⟩ := by
  unfold unregister
  cases found : s.runner? id with
  | none => exact note_steps rfl
  | some x =>
      dsimp only
      cases here : s.active.filter (·.1 = id) with
      | some active => exact note_steps rfl
      | none =>
          have idle : ∀ node, s.active ≠ some (id, node) := by
            intro node active
            have kept := activeNode_eq active
            rw [here] at kept
            cases kept
          exact .single (.parted rfl found idle)

/-! ### What a player does -/

private theorem directed_steps {i : Interpreter} {ch : Channel} (program : i.program = s.interpreter.program)
    (emitted : i.emitted = s.interpreter.emitted) (quiet : s.channel.Quiet ch) :
    Steps op returning past ⟨s, [], false⟩ ⟨{ s with interpreter := i, channel := ch }, [], false⟩ :=
  .single (.directed program emitted quiet)

private theorem continueInput_steps :
    Steps op returning past ⟨s, [], false⟩ ⟨s.continueInput.toOption.getD s, [], false⟩ := by
  unfold continueInput Interpreter.continueInput
  split
  · exact directed_steps rfl rfl (.refl s.channel)
  · exact .refl

private theorem selectChoice_steps (index : Nat) :
    Steps op returning past ⟨s, [], false⟩ ⟨(s.selectChoice index).toOption.getD s, [], false⟩ := by
  unfold selectChoice Interpreter.selectChoice
  split
  · exact .refl
  · split
    · exact .refl
    · rename_i options _ option _
      have selected : s.channel.journal.Quiet
          (s.channel.journal.note (.optionSelected index option.text s.interpreter.cursor)) :=
        Journal.note_quiet rfl _
      have resolved : ((s.interpreter.program.getD {}).resolve option.target s.interpreter.cursor).2.isPlain = true :=
        Program.resolve_note rfl
      exact directed_steps rfl rfl (s.channel.journal_quiet (selected.trans (Journal.note_quiet resolved _)))

private theorem trigger_steps (coherent : s.Coherent) (runner : RunnerId) (node : NodeId) :
    Steps op returning past ⟨s, [], false⟩ ⟨(s.trigger runner node).toOption.getD s, [], false⟩ := by
  unfold trigger
  split
  · exact .refl
  · rename_i x found
    split
    · rename_i contained
      exact tryStart_steps coherent runner node fun _ => (knows_iff found node).trans contained
    · exact .refl

private theorem tryStart_asked (coherent : s.Coherent) (runner : RunnerId) (node : NodeId) :
    Steps (.tryStart runner node) returning past ⟨s, [], false⟩ ⟨s.tryStart runner node, [], false⟩ :=
  tryStart_steps coherent runner node False.elim

private theorem start_steps (coherent : s.Coherent) (runner : RunnerId) (node : NodeId)
    (gate : ¬ (Operation.start runner node).StartsFree s → past) :
    Steps (.start runner node) returning past ⟨s, [], false⟩ ⟨(s.startNode runner node).2, [], false⟩ := by
  have free : s.active = none ∨ past := by
    rcases Option.eq_none_or_eq_some s.active with free | ⟨current, active⟩
    · exact Or.inl free
    · refine Or.inr (gate ?_)
      intro startsFree
      rw [Operation.StartsFree, isEventRunning, active] at startsFree
      cases startsFree
  exact .head (.called (runner, node) False.elim) (startNode_turns coherent free runner node)

/-! ### Saved games -/

private theorem restoreEntry_steps {entries : List SnapshotEntry} (state : List (RunnerId × NodeId) × Scene)
    {entry : SnapshotEntry} (member : entry ∈ entries) :
    Steps (.restore entries) returning past ⟨state.2, [], false⟩ ⟨(restoreEntry state entry).2, [], false⟩ := by
  obtain ⟨ready, s⟩ := state
  unfold restoreEntry
  dsimp only
  cases found : s.runner? entry.runner with
  | none => exact note_steps rfl
  | some x => exact .single (.restored rfl member found rfl)

private theorem startUnlessWaiting_steps {entries : List SnapshotEntry} (coherent : s.Coherent)
    (target : RunnerId × NodeId) :
    Steps (.restore entries) returning past ⟨s, [], false⟩ ⟨s.startUnlessWaiting target, [], false⟩ := by
  unfold startUnlessWaiting
  split
  · exact .refl
  · exact tryStart_steps coherent target.1 target.2 False.elim

private theorem restore_steps (coherent : s.Coherent) (entries : List SnapshotEntry) :
    Steps (.restore entries) returning past ⟨s, [], false⟩ ⟨s.restore entries, [], false⟩ := by
  have taken : Steps (.restore entries) returning past ⟨s, [], false⟩
      ⟨(entries.foldl restoreEntry ([], s)).2, [], false⟩ :=
    foldl_steps Prod.snd entries ([], s) coherent fun state _ member _ => restoreEntry_steps state member
  unfold restore
  revert taken
  generalize entries.foldl restoreEntry ([], s) = result
  obtain ⟨ready, restored⟩ := result
  intro taken
  have forgotten : Steps (.restore entries) returning past ⟨s, [], false⟩ _ := taken.tail (.forgotten rfl)
  have started : Steps (.restore entries) returning past ⟨s, [], false⟩ _ :=
    forgotten.trans (foldl_steps id ready _ (Turns.coherent forgotten coherent) fun _ target _ coherent =>
      startUnlessWaiting_steps coherent target)
  exact started.trans (release_steps (Turns.coherent started coherent))

/-! ### Operations -/

theorem perform_steps (op : Operation) (coherent : s.Coherent) (gate : ¬ op.StartsFree s → past)
    (back : op.BringsBack s → returning) : Steps op returning past ⟨s, [], false⟩ ⟨op.perform s, [], false⟩ := by
  cases op with
  | register r => exact register_steps r
  | unregister id => exact unregister_steps id
  | tick elapsed => exact tick_steps coherent back
  | continueInput => exact continueInput_steps
  | selectChoice index => exact selectChoice_steps index
  | requestSkip => exact directed_steps rfl rfl (.refl s.channel)
  | publish event => exact .single (.published rfl (s.channel.publish_grows event coherent.attached))
  | trigger runner node => exact trigger_steps coherent runner node
  | enqueue runner node => exact .single (.requested rfl)
  | tryStart runner node => exact tryStart_asked coherent runner node
  | start runner node => exact start_steps coherent runner node gate
  | release => exact release_steps coherent
  | kickstart => exact kickstart_steps nofun coherent
  | observe topic => exact .single (.observes rfl)
  | stopObserving id => exact .single (.stopsObserving rfl)
  | restore entries => exact restore_steps coherent entries

theorem perform_coherent (op : Operation) (s : Scene) (coherent : s.Coherent) : (op.perform s).Coherent := by
  have steps : Steps op True True ⟨s, [], false⟩ _ :=
    perform_steps op coherent (fun _ => trivial) fun _ => trivial
  exact Turns.coherent steps coherent

theorem Reached.coherent {rule : Operation → Scene → Prop} (reached : Reached rule s) : s.Coherent :=
  reached.keeps (fun settings stage => (empty_sound settings stage).toCoherent) fun op s _ => perform_coherent op s

/-- An operation that starts nothing past the gate is a sequence of steps through it. -/
theorem perform_through (op : Operation) (coherent : s.Coherent) (startsFree : op.StartsFree s)
    (back : op.BringsBack s → returning) : Steps op returning False ⟨s, [], false⟩ ⟨op.perform s, [], false⟩ :=
  perform_steps op coherent (absurd startsFree) back

theorem perform_sound (op : Operation) (s : Scene) (startsFree : op.StartsFree s) (sound : s.Sound) :
    (op.perform s).Sound := by
  have steps : Steps op True False ⟨s, [], false⟩ _ :=
    perform_through op sound.toCoherent startsFree fun _ => trivial
  exact Turns.sound steps sound

end Plotline.Scene
