import Plotline.Proofs.Scene.Perform

/-!
The gate is held exactly while a program is loaded, and it is held by the node whose program that is.
-/

namespace Plotline.Scene

theorem Sound.gate {s : Scene} (sound : s.Sound) : s.isEventRunning = s.interpreter.isRunning := by
  unfold isEventRunning Interpreter.isRunning
  cases active : s.active with
  | none => rw [sound.idle active]; rfl
  | some current =>
      obtain ⟨x, d, _, _, program⟩ := sound.loaded current.1 current.2 active
      rw [program]
      rfl

private theorem contains_of_node? {x : Runner} {node : NodeId} {d : Node} (known : x.node? node = some d) :
    x.contains node = true ∧ x.storyboard.node? node = some d := by
  unfold Runner.node? at known
  split at known
  · exact ⟨‹_›, known⟩
  · cases known

/-- A node is active exactly while the interpreter runs. Its runner is registered and knows it, and the program
that runs is that of the first node with its id. -/
theorem active_iff_interpreting {s : Scene} (reached : Reached Operation.StartsFree s) :
    s.isEventRunning = s.interpreter.isRunning ∧
      ∀ runner node, s.active = some (runner, node) →
        ∃ x d, s.runner? runner = some x ∧ x.contains node = true ∧ x.storyboard.node? node = some d ∧
          s.interpreter.program = some d.program := by
  have sound : s.Sound := reached.keeps empty_sound perform_sound
  refine ⟨sound.gate, ?_⟩
  intro runner node active
  obtain ⟨x, d, found, known, program⟩ := sound.loaded runner node active
  obtain ⟨contained, first⟩ := contains_of_node? known
  exact ⟨x, d, found, contained, first, program⟩

theorem sentry_active_iff_interpreting : ∃ s, Reached Operation.StartsFree s ∧
    s.active = some (⟨"guard"⟩, ⟨"round"⟩) ∧ s.isEventRunning = s.interpreter.isRunning ∧
      ∃ x d, s.runner? ⟨"guard"⟩ = some x ∧ x.contains ⟨"round"⟩ = true ∧
        x.storyboard.node? ⟨"round"⟩ = some d ∧ s.interpreter.program = some d.program := by
  let ops : List Operation := [.register sentry, .start ⟨"guard"⟩ ⟨"round"⟩, .tick 0]
  have reached : Reached Operation.StartsFree (run ops (empty {} .instant)) :=
    ⟨{}, .instant, ops, ⟨trivial, rfl, trivial, trivial⟩, rfl⟩
  have agrees := active_iff_interpreting reached
  exact ⟨_, reached, rfl, agrees.1, agrees.2 _ _ rfl⟩

end Plotline.Scene
