import Plotline.Format.Storyboard
import Plotline.Proofs.Json.Record
import Plotline.Proofs.Story.Package

/-!
What is known of a package for having been read, whatever the text: nothing has happened to its conditions, whole
numbers are in range, and the others are numbers of the text or the defaults of their fields.
-/

namespace Plotline

open Decoder

/-- Numbers of one kind are narrowed to numbers of another, which the default of a duration is too. -/
structure Number.Narrows (P : Number → Prop) (Q : Single → Prop) : Prop where
  narrowed : ∀ n, P n → Q n.toSingle
  zero : Q (.ofNat 0)

variable {P : Number → Prop} {Q : Single → Prop}

namespace Decoder

theorem single_of_required (narrows : Number.Narrows P Q) {name : String} {x : Single}
    (gives : (required name single).Gives P x) : Q x := by
  obtain ⟨n, holds, rfl⟩ := gives_of_single (RecordField.required_gives gives)
  exact narrows.narrowed n holds

theorem single_of_default (narrows : Number.Narrows P Q) {name : String} {x : Single}
    (gives : (withDefault name single (.ofNat 0)).Gives P x) : Q x := by
  rcases RecordField.default_gives gives with read | rfl
  · obtain ⟨n, holds, rfl⟩ := gives_of_single read
    exact narrows.narrowed n holds
  · exact narrows.zero

end Decoder

namespace ActorCommand

theorem singles_of_gives (narrows : Number.Narrows P Q) {c : ActorCommand} (gives : decoder.Gives P c) :
    ∀ x ∈ c.singles, Q x := by
  obtain ⟨variant, member, gives⟩ := Tagged.gives_of_closed rfl gives
  simp only [shape, List.mem_cons, List.not_mem_nil, or_false] at member
  rcases member with rfl | rfl | rfl | rfl
  · obtain ⟨values, -, rfl⟩ := gives_of_record gives
    exact nofun
  · cases gives_of_bare gives
    exact nofun
  · obtain ⟨⟨position, seconds, ⟨⟩⟩, ⟨-, given, -⟩, rfl⟩ := gives_of_record gives
    exact List.forall_mem_singleton.mpr (single_of_required narrows given)
  · obtain ⟨⟨clip, seconds, ⟨⟩⟩, ⟨-, given, -⟩, rfl⟩ := gives_of_record gives
    exact List.forall_mem_singleton.mpr (single_of_required narrows given)

end ActorCommand

namespace AudioCommand

theorem singles_of_gives (narrows : Number.Narrows P Q) {c : AudioCommand} (gives : decoder.Gives P c) :
    ∀ x ∈ c.singles, Q x := by
  obtain ⟨variant, member, gives⟩ := Tagged.gives_of_closed rfl gives
  simp only [shape, List.mem_cons, List.not_mem_nil, or_false] at member
  rcases member with rfl | rfl | rfl
  · obtain ⟨⟨track, fadeSeconds, ⟨⟩⟩, ⟨-, given, -⟩, rfl⟩ := gives_of_record gives
    exact List.forall_mem_singleton.mpr (single_of_default narrows given)
  · obtain ⟨⟨fadeSeconds, ⟨⟩⟩, ⟨given, -⟩, rfl⟩ := gives_of_record gives
    exact List.forall_mem_singleton.mpr (single_of_default narrows given)
  · obtain ⟨values, -, rfl⟩ := gives_of_record gives
    exact nofun

end AudioCommand

namespace CameraCommand

theorem singles_of_gives (narrows : Number.Narrows P Q) {c : CameraCommand} (gives : decoder.Gives P c) :
    ∀ x ∈ c.singles, Q x := by
  obtain ⟨variant, member, gives⟩ := Tagged.gives_of_closed rfl gives
  simp only [shape, List.mem_cons, List.not_mem_nil, or_false] at member
  rcases member with rfl | rfl | rfl
  · obtain ⟨⟨target, seconds, ⟨⟩⟩, ⟨-, given, -⟩, rfl⟩ := gives_of_record gives
    exact List.forall_mem_singleton.mpr (single_of_required narrows given)
  · obtain ⟨⟨intensity, seconds, ⟨⟩⟩, ⟨first, second, -⟩, rfl⟩ := gives_of_record gives
    have rest : ∀ x ∈ [seconds], Q x := List.forall_mem_singleton.mpr (single_of_required narrows second)
    exact List.forall_mem_cons.mpr ⟨single_of_required narrows first, rest⟩
  · obtain ⟨⟨seconds, ⟨⟩⟩, ⟨given, -⟩, rfl⟩ := gives_of_record gives
    exact List.forall_mem_singleton.mpr (single_of_default narrows given)

end CameraCommand

namespace ScreenEffect

theorem seconds_of_gives (narrows : Number.Narrows P Q) {e : ScreenEffect} (gives : decoder.Gives P e) : Q e.seconds := by
  obtain ⟨variant, member, gives⟩ := Tagged.gives_of_closed rfl gives
  simp only [shape, List.mem_cons, List.not_mem_nil, or_false] at member
  rcases member with rfl | rfl | rfl <;>
    · obtain ⟨⟨seconds, ⟨⟩⟩, ⟨given, -⟩, rfl⟩ := gives_of_record gives
      exact single_of_required narrows given

end ScreenEffect

theorem Reward.amount_of_gives {r : Reward} (gives : Reward.decoder.Gives P r) : r.amount < UInt32.size := by
  obtain ⟨⟨id, amount, ⟨⟩⟩, ⟨-, given, -⟩, rfl⟩ := gives_of_record gives
  rcases RecordField.default_gives given with read | rfl
  · exact gives_of_natural read
  · exact (by decide : 1 < UInt32.size)

theorem EndOfProgram.amounts_of_gives {e : EndOfProgram} (gives : EndOfProgram.decoder.Gives P e) :
    ∀ r ∈ e.rewards, r.amount < UInt32.size := by
  obtain ⟨⟨isBranching, targetNode, targetStoryboard, rewards, ⟨⟩⟩, ⟨-, -, -, given, -⟩, rfl⟩ := gives_of_record gives
  exact fun r member => Reward.amount_of_gives (RecordField.list_gives given r member)

namespace Instruction

/-- The numbers that the instruction carries are of the kind, and its amounts in range. -/
structure Sound (Q : Single → Prop) (i : Instruction) : Prop where
  singles : ∀ x ∈ i.singles, Q x
  amounts : ∀ r ∈ i.rewards, r.amount < UInt32.size

theorem sound_of_gives (narrows : Number.Narrows P Q) {i : Instruction} (gives : decoder.Gives P i) : i.Sound Q := by
  obtain ⟨variant, member | ⟨name, other, isOther, rfl⟩, gives⟩ := Tagged.gives_of_decoder gives
  · simp only [shape, List.mem_cons, List.not_mem_nil, or_false] at member
    rcases member with rfl | rfl | rfl | rfl | rfl | rfl | rfl | rfl | rfl | rfl | rfl
    · obtain ⟨⟨speaker, text, revealSeconds, ⟨⟩⟩, ⟨-, -, given, -⟩, rfl⟩ := gives_of_record gives
      refine ⟨?_, nofun⟩
      intro x member
      have reveal : revealSeconds = some x := Option.mem_toList.mp member
      rcases RecordField.default_gives given with read | none
      · obtain ⟨n, holds, rfl⟩ := gives_of_single (gives_of_optional read x reveal)
        exact narrows.narrowed n holds
      · rw [none] at reveal
        cases reveal
    · obtain ⟨⟨name, command, ⟨⟩⟩, ⟨-, given, -⟩, rfl⟩ := gives_of_record gives
      exact ⟨ActorCommand.singles_of_gives narrows (RecordField.required_gives given), nofun⟩
    · obtain ⟨values, -, rfl⟩ := gives_of_record gives
      exact ⟨nofun, nofun⟩
    · obtain ⟨values, -, rfl⟩ := gives_of_record gives
      exact ⟨nofun, nofun⟩
    · obtain ⟨values, -, rfl⟩ := gives_of_record gives
      exact ⟨nofun, nofun⟩
    · obtain ⟨values, -, rfl⟩ := gives_of_record gives
      exact ⟨nofun, nofun⟩
    · obtain ⟨⟨command, ⟨⟩⟩, ⟨given, -⟩, rfl⟩ := gives_of_record gives
      exact ⟨AudioCommand.singles_of_gives narrows (RecordField.required_gives given), nofun⟩
    · obtain ⟨ending, given, rfl⟩ := gives_of_map gives
      exact ⟨nofun, EndOfProgram.amounts_of_gives given⟩
    · obtain ⟨⟨command, ⟨⟩⟩, ⟨given, -⟩, rfl⟩ := gives_of_record gives
      exact ⟨CameraCommand.singles_of_gives narrows (RecordField.required_gives given), nofun⟩
    · obtain ⟨⟨effect, ⟨⟩⟩, ⟨given, -⟩, rfl⟩ := gives_of_record gives
      have seconds := ScreenEffect.seconds_of_gives narrows (RecordField.required_gives given)
      exact ⟨List.forall_mem_singleton.mpr seconds, nofun⟩
    · obtain ⟨values, -, rfl⟩ := gives_of_record gives
      exact ⟨nofun, nofun⟩
  · cases gives_of_bare gives
    cases isOther
    exact ⟨nofun, nofun⟩

end Instruction

theorem Program.sound_of_gives (narrows : Number.Narrows P Q) {p : Program} (gives : Program.decoder.Gives P p) :
    ∀ i ∈ p.instructions, i.Sound Q := by
  obtain ⟨⟨archetype, instructions, ⟨⟩⟩, ⟨-, given, -⟩, rfl⟩ := gives_of_record gives
  intro i member
  obtain ⟨entry, given, rfl⟩ := gives_of_map (RecordField.list_gives given i member)
  cases entry with
  | none => exact ⟨nofun, nofun⟩
  | some i => exact Instruction.sound_of_gives narrows (gives_of_optional given i rfl)

theorem Condition.fresh_of_gives {c : Condition} (gives : Condition.decoder.Gives P c) :
    c.satisfied = false ∧ c.subscription = none := by
  obtain ⟨kind, -, rfl⟩ := gives_of_map gives
  exact ⟨rfl, rfl⟩

namespace Node

structure Sound (Q : Single → Prop) (n : Node) : Prop where
  fresh : ∀ c ∈ n.conditions, c.satisfied = false ∧ c.subscription = none
  instructions : ∀ i ∈ n.program.instructions, i.Sound Q

theorem sound_of_gives (narrows : Number.Narrows P Q) {n : Node} (gives : decoder.Gives P n) : n.Sound Q := by
  obtain ⟨⟨id, name, archetype, isStart, isRepeatable, conditions, next, program, ⟨⟩⟩, given, rfl⟩ :=
    gives_of_record gives
  obtain ⟨-, -, -, -, -, conditionsGiven, -, programGiven, -⟩ := given
  constructor
  · exact fun c member => Condition.fresh_of_gives (RecordField.list_gives conditionsGiven c member)
  · rcases RecordField.default_gives programGiven with read | rfl
    · exact Program.sound_of_gives narrows read
    · exact nofun

end Node

theorem Storyboard.sound_of_gives (narrows : Number.Narrows P Q) {b : Storyboard} (gives : Storyboard.decoder.Gives P b) :
    ∀ n ∈ b.nodes, n.Sound Q := by
  obtain ⟨⟨name, nodes, connections, ⟨⟩⟩, ⟨-, given, -⟩, rfl⟩ := gives_of_record gives
  exact fun n member => Node.sound_of_gives narrows (RecordField.list_gives given n member)

namespace RunnerDefinition

structure Sound (Q : Single → Prop) (d : RunnerDefinition) : Prop where
  priority : -2147483648 ≤ d.priority ∧ d.priority < 2147483648
  nodes : ∀ n ∈ d.storyboard.nodes, n.Sound Q

theorem sound_of_gives (narrows : Number.Narrows P Q) {d : RunnerDefinition} (gives : decoder.Gives P d) : d.Sound Q := by
  obtain ⟨⟨id, priority, storyboard, ⟨⟩⟩, ⟨-, given, board, -⟩, rfl⟩ := gives_of_record gives
  constructor
  · rcases RecordField.default_gives given with read | rfl
    · exact gives_of_integer32 read
    · exact (by decide : -2147483648 ≤ (0 : Int) ∧ (0 : Int) < 2147483648)
  · exact Storyboard.sound_of_gives narrows (RecordField.required_gives board)

end RunnerDefinition

namespace StoryPackage

variable {p : StoryPackage}

private theorem sound_of_gives (narrows : Number.Narrows P Q) (gives : decoder.Gives P p) :
    ∀ d ∈ p.runners, d.Sound Q := by
  obtain ⟨⟨runners, ⟨⟩⟩, ⟨given, -⟩, rfl⟩ := gives_of_record gives
  exact fun d member => RunnerDefinition.sound_of_gives narrows (RecordField.list_gives given d member)

private theorem nodes_sound (narrows : Number.Narrows P Q) (gives : decoder.Gives P p) : ∀ n ∈ p.nodes, n.Sound Q := by
  intro n member
  obtain ⟨d, isRunner, isNode⟩ := List.mem_flatMap.mp member
  exact (sound_of_gives narrows gives d isRunner).nodes n isNode

private theorem instructions_sound (narrows : Number.Narrows P Q) (gives : decoder.Gives P p) :
    ∀ i ∈ p.instructions, i.Sound Q := by
  intro i member
  obtain ⟨n, isNode, held⟩ := List.mem_flatMap.mp member
  exact (nodes_sound narrows gives n isNode).instructions i held

theorem singles_of_gives (narrows : Number.Narrows P Q) (gives : decoder.Gives P p) : ∀ x ∈ p.singles, Q x := by
  intro x member
  obtain ⟨i, isInstruction, carried⟩ := List.mem_flatMap.mp member
  exact (instructions_sound narrows gives i isInstruction).singles x carried

private theorem any_narrows : Number.Narrows (fun _ => True) (fun _ => True) := ⟨fun _ _ => trivial, trivial⟩

private theorem gives_of_read {text : String} (made : read text = .ok p) : decoder.Gives (fun _ => True) p :=
  Decoder.gives_of_read made fun _ _ => trivial

theorem fresh_of_read {text : String} (made : read text = .ok p) : p.Fresh := by
  intro c member
  obtain ⟨n, isNode, held⟩ := List.mem_flatMap.mp member
  exact (nodes_sound any_narrows (gives_of_read made) n isNode).fresh c held

theorem inRange_of_read {text : String} (made : read text = .ok p) : p.InRange where
  priorities d member := (sound_of_gives any_narrows (gives_of_read made) d member).priority
  amounts r member := by
    obtain ⟨i, isInstruction, carried⟩ := List.mem_flatMap.mp member
    exact (instructions_sound any_narrows (gives_of_read made) i isInstruction).amounts r carried

end StoryPackage

end Plotline
