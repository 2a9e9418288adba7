import Plotline.Proofs.Check.Label
import Plotline.Proofs.Interpreter.Complaint

/-!
What it is worth that the check of a program finds nothing. Each label that a run of such programs is sent to is there,
and all instructions are carried out but those that lack the name of an actor, or of the runner or the node that they
trigger: at names the check does not look.
-/

namespace Plotline

/-- The complaint about an instruction that is asked for and lacks a name. -/
def Mark.slight? : Mark → Option Note
  | fetched p cursor => p.instructions[cursor]?.bind fun instruction =>
      instruction.nameless?.map (.instructionSkipped cursor instruction.kind)
  | accepted .. => none

theorem Mark.slight?_eq_none_iff {p : Program} {cursor : Nat} :
    (fetched p cursor).slight? = none ↔
      ∀ instruction, p.instructions[cursor]? = some instruction → instruction.nameless? = none := by
  unfold slight?
  dsimp only
  rw [Option.bind_eq_none_iff]
  simp only [Option.map_eq_none_iff]

namespace Program

variable {p : Program} {location : Location}

/-- An instruction of which there is nothing to report is passed over at most for lack of a name. -/
theorem refusal?_of_unreported {index : Nat} {instruction : Instruction}
    (fine : p.instructionIssues location index instruction = []) :
    instruction.refusal? p.archetype = instruction.nameless? := by
  cases instruction with
  | unknown => cases fine
  | choice prompt options =>
      obtain ⟨supported, filled⟩ := List.append_eq_nil_iff.mp fine
      have carried : p.archetype ≠ .cinematicText := by
        intro cinematic
        rw [cinematic] at supported
        cases supported
      have offered : ¬ options.isEmpty = true := by
        intro none
        unfold operandIssues at filled
        dsimp only at filled
        rw [if_pos none] at filled
        cases filled
      exact (if_neg carried).trans (if_neg offered)
  | _ => rfl

section Clean

variable (clean : (p.check location).isClean = true)
include clean

theorem issues_of_clean : p.issues location = [] := by
  rw [← Report.ofIssues_issues (p.issues location)]
  exact List.isEmpty_iff.mp clean

theorem unreported_of_clean {index : Nat} {instruction : Instruction}
    (here : p.instructions[index]? = some instruction) : p.instructionIssues location index instruction = [] := by
  have none := issues_of_clean clean
  unfold issues at none
  split at none
  · cases none
  · obtain ⟨within, rfl⟩ := List.getElem?_eq_some_iff.mp here
    exact List.flatten_eq_nil_iff.mp (List.append_eq_nil_iff.mp none).2 _ (List.mem_mapIdx.mpr ⟨index, within, rfl⟩)

/-- In a clean program all labels that are referred to are there. -/
theorem defined_of_clean {cursor : Nat} {label : LabelName} (refers : p.Refers cursor label) :
    .label label ∈ p.instructions := by
  have sound : ∀ issue ∈ (p.check location).inCategory "labels", issue.level ≠ .error := by
    intro issue member
    have none : (p.check location).issues = [] := List.isEmpty_iff.mp clean
    unfold Report.inCategory at member
    rw [none] at member
    cases member
  exact mem_of_refers sound refers

/-- Of a clean program there is nothing to complain of but names. -/
theorem complaint?_of_clean {cursor : Nat} {instruction : Instruction}
    (here : p.instructions[cursor]? = some instruction) :
    p.complaint? cursor instruction = instruction.nameless?.map (.instructionSkipped cursor instruction.kind) := by
  have refusal := refusal?_of_unreported (unreported_of_clean clean here)
  unfold complaint?
  rw [refusal]
  cases nameless : instruction.nameless? with
  | some error => rfl
  | none =>
      cases instruction with
      | jump label => exact if_pos (defined_of_clean clean (.jump here))
      | _ => rfl

/-- A mark of a clean program is complained of only for a name. -/
theorem slight?_of_clean {m : Mark} (marked : m.program = p)
    (refers : ∀ cursor label, m.Turns p cursor label → p.Refers cursor label) : m.complaint? = m.slight? := by
  cases m with
  | fetched q cursor =>
      cases marked
      unfold Mark.complaint? Mark.slight?
      dsimp only
      cases here : q.instructions[cursor]? with
      | none => rfl
      | some instruction => exact complaint?_of_clean clean here
  | accepted q cursor label =>
      cases marked
      exact if_pos (defined_of_clean clean (refers cursor label .option))

end Clean

end Program

namespace Rehearsal

/-- If the check finds nothing in the programs that are started, then in each run of them under the usual command table
every label that is asked for is there, and the log complains of nothing but the instructions that lack a name, each
time that one is asked for. So nothing is passed over exactly if no instruction that is asked for lacks one. -/
theorem clean_skips_only_nameless (stage : Stage) (settings : InterpreterSettings) (calls : List Call)
    (keeps : ∀ call ∈ calls, call.KeepsTable)
    (clean : ∀ p, .start p ∈ calls → ∃ location, (p.check location).isClean = true) :
    let start := ofSettings settings .standard
    let complaints := (rehearse stage calls start).journal.complaints
    complaints = (marks stage calls start).filterMap Mark.slight? ∧
      (∀ m ∈ marks stage calls start, ∀ p cursor label, m.Turns p cursor label → .label label ∈ p.instructions) ∧
      (complaints = [] ↔ ∀ p cursor instruction, .fetched p cursor ∈ marks stage calls start →
        p.instructions[cursor]? = some instruction → instruction.nameless? = none) := by
  intro start complaints
  have checked : ∀ m ∈ marks stage calls start, ∃ location, (m.program.check location).isClean = true := by
    intro m member
    rcases started_of_marks stage calls start member with loaded | started
    · cases loaded
    · exact clean m.program started
  have refers : ∀ m ∈ marks stage calls start, ∀ p cursor label, m.Turns p cursor label → p.Refers cursor label :=
    fun m member p cursor label => refers_of_turns stage calls start (Interpreter.offering_of_free rfl) member
  have slighted : ∀ m ∈ marks stage calls start, m.complaint? = m.slight? := by
    intro m member
    obtain ⟨location, fine⟩ := checked m member
    exact Program.slight?_of_clean fine rfl (refers m member m.program)
  have told : complaints = (marks stage calls start).filterMap Mark.slight? := by
    have complained := rehearse_complaints stage calls keeps start (ofSettings_poised settings .standard) rfl
    rw [List.filterMap_congr slighted] at complained
    exact complained
  refine ⟨told, ?_, ?_⟩
  · intro m member p cursor label turns
    obtain ⟨location, fine⟩ := checked m member
    have marked : m.program = p := by cases turns <;> rfl
    rw [marked] at fine
    exact Program.defined_of_clean fine (refers m member p cursor label turns)
  · rw [told, List.filterMap_eq_nil_iff]
    constructor
    · intro none p cursor instruction member
      exact Mark.slight?_eq_none_iff.mp (none _ member) instruction
    · intro named m member
      cases m with
      | fetched p cursor => exact Mark.slight?_eq_none_iff.mpr fun i => named p cursor i member
      | accepted p cursor label => rfl

/-- Nobody hides, a page is called to no place, and the door is met again and again. -/
def pantomime : Program where
  instructions :=
    [.actor "" .hide, .label ⟨"door"⟩, .jump ⟨"hall"⟩, .label ⟨"hall"⟩, .trigger ⟨"page"⟩ ⟨""⟩,
      .choice none [⟨"Again", ⟨"door"⟩⟩]]

/-- Through the door twice. -/
def encore : List Call := [.start pantomime, .resume 0, .selectChoice 0, .resume 0]

theorem pantomime_slights :
    let start := ofSettings ⟨.ofNat 2, 100⟩ .standard
    (pantomime.check {}).isClean = true ∧
      (rehearse .instant encore start).journal.complaints = (marks .instant encore start).filterMap Mark.slight? ∧
      (marks .instant encore start).filterMap Mark.slight? =
        [.instructionSkipped 0 (some .actorAction) .actorWithoutName,
          .instructionSkipped 4 (some .triggerOtherRunner) .triggerWithoutTarget,
          .instructionSkipped 4 (some .triggerOtherRunner) .triggerWithoutTarget] := by
  intro start
  have fine : (pantomime.check {}).isClean = true := by decide +kernel
  have clean : ∀ p, .start p ∈ encore → ∃ location, (p.check location).isClean = true := by
    intro p started
    obtain rfl : p = pantomime := by simpa [encore] using started
    exact ⟨{}, fine⟩
  obtain ⟨told, -, -⟩ :=
    clean_skips_only_nameless .instant ⟨.ofNat 2, 100⟩ encore (by simp [encore, Call.KeepsTable]) clean
  exact ⟨fine, told, by decide +kernel⟩

/-- Nobody hides, and somebody says hello. -/
def mime : Program where
  instructions := [.actor "" .hide, .dialogue "A" "Hello." none]

/-- It is not true that nothing is passed over if the check finds nothing. -/
theorem clean_skipped :
    ¬ ∀ (p : Program) (location : Location), (p.check location).isClean = true →
      ∀ (stage : Stage) (settings : InterpreterSettings) (calls : List Call), (∀ call ∈ calls, call.KeepsTable) →
        (∀ q, .start q ∈ calls → q = p) →
          (rehearse stage calls (ofSettings settings .standard)).journal.complaints = [] := by
  intro carried
  have none := carried mime {} (by decide +kernel) .nominal ⟨.ofNat 2, 100⟩ [.start mime, .resume 0]
    (by simp [Call.KeepsTable]) (by simp)
  revert none
  decide +kernel

end Rehearsal

end Plotline
