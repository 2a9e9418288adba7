import Plotline.Proofs.Format.Provenance
import Plotline.Proofs.Format.Storyboard
import Plotline.Proofs.Json.Numbers

/-!
Packages that are written and read again. Writing loses what has happened to a condition and the numbers that are not
finite; a package that was read can have lost nothing but the latter.
-/

namespace Plotline

open Decoder

namespace Json

theorem inWords_natural {n : ℕ} (fits : n < UInt32.size) : (natural n).InWords := by
  have size : UInt32.size = 4294967296 := rfl
  exact .number (by omega) (by omega)

@[simp] theorem inWords_object_present {α : Type} {key : String} {f : α → Json} {value : Option α} :
    (object (present key f value)).InWords ↔ ∀ a ∈ value, (f a).InWords := by
  cases value <;> simp [present]

end Json

@[simp] theorem ActorCommand.json_inWords (c : ActorCommand) : c.json.InWords := by
  cases c <;> simp [json, Json.tagged]

@[simp] theorem BackgroundCommand.json_inWords (c : BackgroundCommand) : c.json.InWords := by
  cases c <;> simp [json, Json.tagged]

@[simp] theorem AudioCommand.json_inWords (c : AudioCommand) : c.json.InWords := by
  cases c <;> simp [json, Json.tagged]

@[simp] theorem CameraCommand.json_inWords (c : CameraCommand) : c.json.InWords := by
  cases c <;> simp [json, Json.tagged]

@[simp] theorem ScreenEffect.json_inWords (e : ScreenEffect) : e.json.InWords := by
  cases e <;> simp [json, Json.tagged]

@[simp] theorem ChoiceOption.json_inWords (o : ChoiceOption) : o.json.InWords := by
  simp [json]

theorem Reward.json_inWords {r : Reward} (fits : r.amount < UInt32.size) : r.json.InWords := by
  simp [json, Json.inWords_natural fits]

theorem Instruction.json_inWords {i : Instruction} (fit : ∀ r ∈ i.rewards, r.amount < UInt32.size) :
    i.json.InWords := by
  cases i with
  | endOfProgram ending =>
      have rewards : ∀ r ∈ ending.rewards, r.json.InWords := fun r member => Reward.json_inWords (fit r member)
      simpa [json, Json.tagged, EndOfProgram.members] using rewards
  | _ => simp [json, Json.tagged]

theorem Program.json_inWords {p : Program}
    (fit : ∀ i ∈ p.instructions, ∀ r ∈ i.rewards, r.amount < UInt32.size) : p.json.InWords := by
  have instructions : ∀ i ∈ p.instructions, i.json.InWords := fun i member => Instruction.json_inWords (fit i member)
  simpa [json, Archetype.json] using instructions

@[simp] theorem Condition.json_inWords (c : Condition) : c.json.InWords := by
  obtain ⟨kind, -, -⟩ := c
  cases kind <;> simp [json, ConditionKind.json, Json.tagged]

theorem Node.json_inWords {n : Node}
    (fit : ∀ i ∈ n.program.instructions, ∀ r ∈ i.rewards, r.amount < UInt32.size) : n.json.InWords := by
  simp [json, Archetype.json, Program.json_inWords fit]

@[simp] theorem Connection.json_inWords (c : Connection) : c.json.InWords := by
  simp [json]

theorem Storyboard.json_inWords {b : Storyboard} (nodes : ∀ n ∈ b.nodes, n.json.InWords) : b.json.InWords := by
  simpa [json] using nodes

theorem RunnerDefinition.json_inWords {d : RunnerDefinition} (least : -2147483648 ≤ d.priority)
    (most : d.priority < 2147483648) (nodes : ∀ n ∈ d.storyboard.nodes, n.json.InWords) : d.json.InWords := by
  have priority : (Json.number d.priority).InWords := .number (by omega) (by omega)
  simp [json, priority, Storyboard.json_inWords nodes]

namespace StoryPackage

theorem json_inWords {p : StoryPackage} (inRange : p.InRange) : p.json.InWords := by
  have runners : ∀ d ∈ p.runners, d.json.InWords := by
    intro d isRunner
    obtain ⟨least, most⟩ := inRange.priorities d isRunner
    apply RunnerDefinition.json_inWords least most
    intro n held
    have isNode : n ∈ p.nodes := List.mem_flatMap.mpr ⟨d, isRunner, held⟩
    apply Node.json_inWords
    intro i among r carried
    have isInstruction : i ∈ p.instructions := List.mem_flatMap.mpr ⟨n, isNode, among⟩
    exact inRange.amounts r (List.mem_flatMap.mpr ⟨i, isInstruction, carried⟩)
  simpa [json] using runners

/-- Of a package that was read only numbers can be lost, and only those that are not finite. -/
theorem reread_iff_finite {text : String} {p : StoryPackage} (made : read text = .ok p) :
    read p.json.render = .ok p ↔ ∀ x ∈ p.singles, x.isFinite = true := by
  rw [read, read_render]
  constructor
  · intro again
    -- What is read now was written, and no number that was written becomes infinite when it is narrowed.
    have numbers := Json.tree_numbers (json_inWords (inRange_of_read made))
    have narrows : Number.Narrows (fun n => n.toSingle.isFinite = true) (fun x => x.isFinite = true) :=
      ⟨fun n finite => finite, by decide +kernel⟩
    exact singles_of_gives narrows ⟨.ofText, p.json.tree, numbers, again⟩
  · intro finite
    have reads := json_reads (fresh_of_read made) (inRange_of_read made) finite
    exact reads.ofText (by decide)

private def withInstructions (instructions : List Instruction) : StoryPackage :=
  { runners :=
      [{ id := ⟨"r"⟩, storyboard := { name := ⟨"s"⟩, nodes := [{ id := ⟨"n"⟩, program := { instructions } }] } }] }

/-- Lists stand for the records, one entry is `null` and the type of the next is not known. -/
def sketchText : String :=
  "[[[\"r\",0,[\"s\",[[\"n\",\"\",\"generic\",false,false,[],[],[\"generic\",[null,[\"later\"],"
    ++ "[\"camera_action\",[\"reset\",0.3333333333]]]]]]]]]]"

def sketch : StoryPackage := withInstructions [.unknown, .unknown, .camera (.reset ⟨0x3eaaaaab⟩)]

theorem sketch_reread : read sketchText = .ok sketch ∧ read sketch.json.render = .ok sketch := by
  have made : read sketchText = .ok sketch := by decide +kernel
  have finite : ∀ x ∈ sketch.singles, x.isFinite = true := by decide +kernel
  exact ⟨made, (reread_iff_finite made).mpr finite⟩

def endlessText : String :=
  "[[[\"r\",0,[\"s\",[[\"n\",\"\",\"generic\",false,false,[],[],[\"generic\",["
    ++ "[\"camera_action\",[\"reset\",1e39]]]]]]]]]]"

def endless : StoryPackage := withInstructions [.camera (.reset ⟨0x7f800000⟩)]

/-- A duration out of bounds is read as an infinite one, and that is written as `null`, which no duration is read from. -/
theorem endless_misread : read endlessText = .ok endless ∧
    read endless.json.render = .error (.misfit (.invalidType .null "f32")) := by
  constructor
  · decide +kernel
  · rw [read, read_render]
    decide +kernel

end StoryPackage

end Plotline
