import Plotline.Proofs.Scene.Waiting

/-!
Who can get ahead of those who wait. A node that is triggered starts at once only where no request waits, with one
exception: from a branch to the delivery of its jump the gate is free although requests wait, and a newcomer who finds
it so goes first, whatever its priority.
-/

namespace Plotline.Scene

/-- The first that is made known on the way from one scene to the other is that the node has started. -/
def StartsAtOnce (runner : RunnerId) (node : NodeId) (before after : Scene) : Prop :=
  ∃ board later, after.channel.journal.published =
    before.channel.journal.published ++ .nodeStarted runner board node :: later

/-- The request would be granted if it were its turn. -/
def Startable (s : Scene) (request : Request) : Prop :=
  s.statusOf? request.runner request.node = some .notStarted

private theorem throughGate_of_plays (op : Operation) (s : Scene) (plays : op.Plays) : op.ThroughGate s := by
  refine ⟨plays.startsFree s, ?_⟩
  rintro runner node rfl
  exact plays

private theorem eq_tryStart_of_trigger {s s' : Scene} {runner : RunnerId} {node : NodeId}
    (granted : s.trigger runner node = .ok s') : s' = s.tryStart runner node := by
  unfold trigger at granted
  split at granted
  · cases granted
  · split at granted
    · exact (Except.ok.inj granted).symm
    · cases granted

/-- A request that has to wait makes nothing known. -/
private theorem enqueue_published (runner : RunnerId) (node : NodeId) (s : Scene) :
    (s.enqueue runner node).channel.journal.published = s.channel.journal.published := by
  have quiet := Channel.note_quiet (n := .queued runner node s.nextSequence) rfl s.channel
  exact quiet.journal.published.trans (List.append_nil _)

private theorem free_of_startsAtOnce {s : Scene} {runner : RunnerId} {node : NodeId}
    (starts : StartsAtOnce runner node s (s.tryStart runner node)) : s.active = none := by
  by_contra held
  have running : s.isEventRunning = true := Option.isSome_iff_ne_none.mpr held
  obtain ⟨board, later, published⟩ := starts
  rw [tryStart, if_pos running, enqueue_published] at published
  exact List.cons_ne_nil _ _ (List.self_eq_append_right.mp published)

/-- A node that is triggered starts at once only if no request at all waits, or if the jump of a program that has
branched is still to be delivered. -/
theorem none_waits_of_startsAtOnce {s s' : Scene} (reached : Reached (fun op _ => op.Plays) s) {runner : RunnerId}
    {node : NodeId} (granted : s.trigger runner node = .ok s') (starts : StartsAtOnce runner node s s') :
    s.pending = [] ∨ ∃ event ∈ s.channel.bus.queue, event.topic = .jumpRequested := by
  obtain rfl := eq_tryStart_of_trigger granted
  have kept : s.Sound ∧ Moment.Heeded ⟨s, [], false⟩ :=
    reached.keeps (fun settings stage => ⟨empty_sound settings stage, fun _ none => absurd rfl none⟩)
      fun op s plays => perform_heeded op s (throughGate_of_plays op s plays)
  by_cases none : s.pending = []
  · exact Or.inl none
  · rcases kept.2 (free_of_startsAtOnce starts) none with releasing | queued
    · cases releasing
    · exact Or.inr queued

/-- A guard who walks one round after the other, a bell, and a cat of little importance. -/
def yard : StoryPackage :=
  { runners :=
      [watch,
        { id := ⟨"ringer"⟩
          storyboard :=
            { name := ⟨"tower"⟩
              nodes := [{ id := ⟨"bell"⟩, program := { instructions := [.dialogue "R" "Ding." none] } }] } },
        { id := ⟨"cat"⟩
          priority := 5
          storyboard :=
            { name := ⟨"roof"⟩
              nodes := [{ id := ⟨"stroll"⟩, program := { instructions := [.dialogue "C" "Meow." none] } }] } }] }

/-- While the guard walks, the bell is asked for. Then his program branches. -/
private def betweenRounds : List Operation :=
  [.tick 0, .trigger ⟨"ringer"⟩ ⟨"bell"⟩, .continueInput, .tick 0]

private theorem betweenRounds_reached :
    Reached (fun op _ => op.Plays) (run betweenRounds (ofPackage yard {} .instant).2) :=
  reached_of_package yard {} .instant (by simp [betweenRounds, Operation.FromWorld])

/-- The bell waits between two rounds of the guard, and the cat may go at once. -/
private theorem cat_startsAtOnce (s : Scene) (is : s = run betweenRounds (ofPackage yard {} .instant).2) :
    StartsAtOnce ⟨"cat"⟩ ⟨"stroll"⟩ s (s.tryStart ⟨"cat"⟩ ⟨"stroll"⟩) ∧ s.pending = [⟨⟨"ringer"⟩, ⟨"bell"⟩, 0⟩] := by
  subst is
  exact ⟨⟨⟨"roof"⟩, [], by decide +kernel⟩, by decide +kernel⟩

/-- When the cat goes although the bell waits, the guard's jump is still to be delivered. -/
theorem yard_none_waits :
    let s := run betweenRounds (ofPackage yard {} .instant).2
    ∃ s', s.trigger ⟨"cat"⟩ ⟨"stroll"⟩ = .ok s' ∧ StartsAtOnce ⟨"cat"⟩ ⟨"stroll"⟩ s s' ∧
      s.pending = [⟨⟨"ringer"⟩, ⟨"bell"⟩, 0⟩] ∧ ∃ event ∈ s.channel.bus.queue, event.topic = .jumpRequested := by
  intro s
  obtain ⟨starts, waits⟩ := cat_startsAtOnce s rfl
  have granted : s.trigger ⟨"cat"⟩ ⟨"stroll"⟩ = .ok (s.tryStart ⟨"cat"⟩ ⟨"stroll"⟩) := rfl
  have branched := (none_waits_of_startsAtOnce betweenRounds_reached granted starts).resolve_left
    (waits ▸ List.cons_ne_nil _ _)
  exact ⟨_, granted, starts, waits, branched⟩

/-- It is not true that a node which is triggered and starts at once gets ahead of less important requests only: the
cat comes between the guard and the bell. -/
theorem cat_overtakes_bell :
    ¬ ∀ (s s' : Scene) (runner : RunnerId) (node : NodeId), Reached (fun op _ => op.Plays) s →
      s.trigger runner node = .ok s' → StartsAtOnce runner node s s' →
        ∀ request ∈ s.pending, s.Startable request → s.priorityOf runner < s.priorityOf request.runner := by
  intro always
  obtain ⟨starts, waits⟩ := cat_startsAtOnce _ rfl
  have behind := always _ _ _ _ betweenRounds_reached rfl starts ⟨⟨"ringer"⟩, ⟨"bell"⟩, 0⟩
    (waits ▸ List.mem_singleton_self _) (by unfold Startable; decide +kernel)
  exact absurd behind (by decide +kernel)

end Plotline.Scene
