import Mathlib.Data.List.Induction
import Plotline.Check.Program
import Plotline.Proofs.Interpreter.Offer

/-!
What the check of a program says about its labels. There is a warning for each label whose name has occurred before,
and an error for each jump and each option that leads to no label; that is all. So where there is no error, a run that
is sent to a label finds it.
-/

namespace Plotline

namespace Report

theorem addAll_issues (r : Report) (issues : List Issue) : (r.addAll issues).issues = r.issues ++ issues := by
  induction issues generalizing r with
  | nil => exact (List.append_nil _).symm
  | cons issue issues ih =>
      have added : (r.add issue).issues = r.issues ++ [issue] := by
        unfold add
        split <;> rfl
      have stepped : r.addAll (issue :: issues) = (r.add issue).addAll issues := rfl
      rw [stepped, ih, added, List.append_assoc]
      rfl

theorem ofIssues_issues (issues : List Issue) : (ofIssues issues).issues = issues := addAll_issues {} issues

end Report

/-- What is kept comes from one element alone. -/
theorem filter_flatten_mapIdx {α β : Type} {f : Nat → α → List β} {kept : β → Bool} (index : Nat)
    (only : ∀ k x, k ≠ index → (f k x).filter kept = []) (xs : List α) :
    (xs.mapIdx f).flatten.filter kept = xs[index]?.elim [] fun x => (f index x).filter kept := by
  induction xs using List.reverseRecOn with
  | nil => rfl
  | append_singleton xs x ih =>
      have last : [f xs.length x].flatten.filter kept = (f xs.length x).filter kept := by simp
      rw [List.mapIdx_concat, List.flatten_append, List.filter_append, ih, last]
      rcases Nat.lt_trichotomy index xs.length with before | rfl | behind
      · rw [List.getElem?_append_left before, only xs.length x (Nat.ne_of_gt before), List.append_nil]
      · simp
      · have beyond : (xs ++ [x])[index]? = none := List.getElem?_eq_none (by simpa using Nat.succ_le_of_lt behind)
        rw [beyond, List.getElem?_eq_none (Nat.le_of_lt behind), only xs.length x (Nat.ne_of_lt behind)]
        rfl

namespace Program

variable {p : Program} {location : Location}

/-- What is wrong with the labels that the instruction there carries or leads to. -/
def labelFaults (p : Program) (location : Location) (index : Nat) : List Issue :=
  let issue := fun level message => (⟨level, "labels", location.atInstruction index, message⟩ : Issue)
  match p.instructions[index]? with
  | some (.label name) =>
    if ∃ earlier < index, p.instructions[earlier]? = some (.label name) then
      [issue .warning s!"duplicate label '{name.text}'; the first occurrence wins"]
    else []
  | some (.jump target) =>
    if .label target ∈ p.instructions then [] else [issue .error s!"jump to undefined label '{target.text}'"]
  | some (.choice _ options) =>
    (options.filter fun o => .label o.target ∉ p.instructions).map fun o =>
      issue .error s!"choice '{o.text}' targets undefined label '{o.target.text}'"
  | _ => []

/-! ### Repeated labels -/

theorem not_firstLabel_iff {name : LabelName} {index : Nat} (here : p.instructions[index]? = some (.label name)) :
    ¬ p.FirstLabel name index ↔ ∃ earlier < index, p.instructions[earlier]? = some (.label name) := by
  unfold FirstLabel
  simp [here]

/-- The table of labels lists a repeated label once. -/
theorem repeated_at (p : Program) (index : Nat) :
    p.labels.repeated.filter (·.2 = index) =
      match p.instructions[index]? with
      | some (.label name) =>
        if ∃ earlier < index, p.instructions[earlier]? = some (.label name) then [(name, index)] else []
      | _ => [] := by
  have listed : ∀ name, (name, index) ∈ p.labels.repeated.filter (·.2 = index) ↔
      p.instructions[index]? = some (.label name) ∧ ¬ p.FirstLabel name index := by
    intro name
    rw [List.mem_filter, p.labels_tabulated.repeated]
    simp
  have ordered : (p.labels.repeated.filter (·.2 = index)).Pairwise fun x y => x.2 < y.2 :=
    p.labels_tabulated.ordered.filter _
  have placed : ∀ x ∈ p.labels.repeated.filter (·.2 = index), x.2 = index := by
    intro x member
    simpa using (List.mem_filter.mp member).2
  revert listed ordered placed
  generalize p.labels.repeated.filter (·.2 = index) = found
  intro listed ordered placed
  -- two entries would stand at different places
  have atMost : ∀ x ∈ found, found = [x] := by
    intro x member
    match found, ordered, placed, member with
    | [y], _, _, member => rw [List.mem_singleton.mp member]
    | y :: z :: rest, ordered, placed, _ =>
        have lt := List.rel_of_pairwise_cons ordered List.mem_cons_self
        have first := placed y List.mem_cons_self
        have second := placed z (List.mem_cons_of_mem y List.mem_cons_self)
        omega
  split
  · rename_i name here
    split
    · rename_i before
      exact atMost _ ((listed name).mpr ⟨here, (not_firstLabel_iff here).mpr before⟩)
    · rename_i new
      refine List.eq_nil_iff_forall_not_mem.mpr ?_
      rintro ⟨other, k⟩ member
      obtain rfl : k = index := placed _ member
      obtain ⟨there, repeated⟩ := (listed other).mp member
      obtain rfl : name = other := by simpa using here.symm.trans there
      exact new ((not_firstLabel_iff here).mp repeated)
  · rename_i unlabelled
    refine List.eq_nil_iff_forall_not_mem.mpr ?_
    rintro ⟨other, k⟩ member
    obtain rfl : k = index := placed _ member
    exact unlabelled other ((listed other).mp member).1

/-! ### The issues of a program -/

theorem position?_isSome_iff {label : LabelName} :
    (p.position? label).isSome = true ↔ .label label ∈ p.instructions := by
  rw [← not_iff_not, Bool.not_eq_true, Option.isSome_eq_false_iff, Option.isNone_iff_eq_none, position?_eq_none]

/-- What an instruction is reported for stands where the instruction does, and is of four kinds. -/
theorem mem_instructionIssues {index : Nat} {instruction : Instruction} {issue : Issue}
    (member : issue ∈ p.instructionIssues location index instruction) :
    issue.location = location.atInstruction index ∧
      issue.category ∈ ["instructions", "archetype", "labels", "branching"] := by
  have single : ∀ level category message, category ∈ ["instructions", "archetype", "labels", "branching"] →
      issue ∈ [(⟨level, category, location.atInstruction index, message⟩ : Issue)] →
        issue.location = location.atInstruction index ∧
          issue.category ∈ ["instructions", "archetype", "labels", "branching"] := by
    rintro level category message kind among
    rw [List.mem_singleton.mp among]
    exact ⟨rfl, kind⟩
  have operand : issue ∈ p.operandIssues location index instruction →
      issue.location = location.atInstruction index ∧
        issue.category ∈ ["instructions", "archetype", "labels", "branching"] := by
    intro among
    unfold operandIssues at among
    split at among
    · split at among
      · cases among
      · exact single _ _ _ (by simp) among
    · split at among
      · exact single _ _ _ (by simp) among
      · obtain ⟨o, -, rfl⟩ := List.mem_map.mp among
        exact single _ _ _ (by simp) (List.mem_singleton_self _)
    · split at among
      · exact single _ _ _ (by simp) among
      · cases among
    · cases among
  unfold instructionIssues at member
  split at member
  · exact single _ _ _ (by simp) member
  · rcases List.mem_append.mp member with unsupported | among
    · split at unsupported
      · cases unsupported
      · exact single _ _ _ (by simp) unsupported
    · exact operand among

/-- What an instruction is reported for under labels, once it can be carried out at all. -/
private theorem filter_operandIssues (index : Nat) (instruction : Instruction) :
    (p.instructionIssues location index instruction).filter (·.category = "labels") =
      (p.operandIssues location index instruction).filter (·.category = "labels") := by
  unfold instructionIssues
  split
  · rename_i unknown
    cases instruction <;> cases unknown
    rfl
  · rw [List.filter_append]
    refine (congrArg (· ++ _) ?_).trans (List.nil_append _)
    split <;> rfl

/-- A jump and an option are reported exactly if they lead nowhere, and nothing else is reported with them. -/
theorem filter_instructionIssues (index : Nat) (instruction : Instruction) :
    (p.instructionIssues location index instruction).filter (·.category = "labels") =
      match instruction with
      | .jump target =>
        if .label target ∈ p.instructions then []
        else [⟨.error, "labels", location.atInstruction index, s!"jump to undefined label '{target.text}'"⟩]
      | .choice _ options =>
        (options.filter fun o => .label o.target ∉ p.instructions).map fun o =>
          ⟨.error, "labels", location.atInstruction index,
            s!"choice '{o.text}' targets undefined label '{o.target.text}'"⟩
      | _ => [] := by
  rw [filter_operandIssues]
  cases instruction with
  | jump target =>
      unfold operandIssues
      dsimp only
      by_cases defined : .label target ∈ p.instructions
      · rw [if_pos (position?_isSome_iff.mpr defined), if_pos defined]
        rfl
      · rw [if_neg (mt position?_isSome_iff.mp defined), if_neg defined]
        rfl
  | choice prompt options =>
      have undefined : ∀ o : ChoiceOption,
          (p.position? o.target).isNone = decide (.label o.target ∉ p.instructions) := by
        intro o
        rw [← Option.not_isSome, Bool.eq_iff_iff]
        simp [← position?_isSome_iff]
      unfold operandIssues
      dsimp only
      split
      · rename_i none
        rw [List.isEmpty_iff.mp none]
        rfl
      · rw [List.filter_eq_self.mpr]
        · simp only [undefined]
          rfl
        · intro issue member
          obtain ⟨o, -, rfl⟩ := List.mem_map.mp member
          rfl
  | endOfProgram ending =>
      unfold operandIssues
      dsimp only
      split <;> rfl
  | _ => rfl

/-- The label that is repeated there is reported, and no other. -/
private theorem labelIssues_at (p : Program) (location : Location) (index : Nat) :
    (p.labelIssues location).filter (fun i => i.location.instruction = some index && i.category = "labels") =
      (p.labels.repeated.filter (·.2 = index)).map fun x =>
        ⟨.warning, "labels", location.atInstruction x.2, s!"duplicate label '{x.1.text}'; the first occurrence wins"⟩ := by
  have asked : ∀ x : LabelName × Nat, (decide (some x.2 = some index) && true) = decide (x.2 = index) := by simp
  refine List.filter_map.trans (congrArg (List.map _) (List.filter_congr fun x _ => ?_))
  exact asked x

/-- Of what the instructions are reported for under labels, the instruction there has its part. -/
private theorem instructionIssues_at (p : Program) (location : Location) (index : Nat) :
    (p.instructions.mapIdx (p.instructionIssues location)).flatten.filter
        (fun i => i.location.instruction = some index && i.category = "labels") =
      p.instructions[index]?.elim [] fun instruction =>
        (p.instructionIssues location index instruction).filter (·.category = "labels") := by
  have placed : ∀ (k : Nat) (instruction : Instruction), ∀ i ∈ p.instructionIssues location k instruction,
      i.location.instruction = some k := by
    intro k instruction i member
    rw [(mem_instructionIssues member).1]
    rfl
  rw [filter_flatten_mapIdx index]
  · congr 1
    funext instruction
    refine List.filter_congr fun i member => ?_
    simp [placed index instruction i member]
  · intro k instruction other
    refine List.filter_eq_nil_iff.mpr fun i member => ?_
    simp [placed k instruction i member, other]

/-- The check finds at each instruction just what is wrong with its labels. -/
theorem labels_at (p : Program) (location : Location) (index : Nat) :
    ((p.check location).inCategory "labels").filter (·.location.instruction = some index) =
      p.labelFaults location index := by
  unfold Report.inCategory check
  rw [Report.ofIssues_issues, List.filter_filter]
  unfold issues
  split
  · rename_i empty
    have none : p.instructions[index]? = none := by simp [List.isEmpty_iff.mp empty]
    unfold labelFaults
    rw [none, List.filter_cons_of_neg (by simp)]
    rfl
  · rw [List.filter_append, labelIssues_at, instructionIssues_at, repeated_at]
    unfold labelFaults
    cases p.instructions[index]? with
    | none => rfl
    | some instruction =>
        rw [Option.elim_some, filter_instructionIssues]
        cases instruction with
        | label name =>
            dsimp only
            split <;> rfl
        | _ => rfl

/-- What is reported under labels is reported of an instruction. -/
theorem exists_of_labels {issue : Issue} (member : issue ∈ (p.check location).inCategory "labels") :
    ∃ index < p.length, issue.location = location.atInstruction index := by
  unfold Report.inCategory check at member
  rw [Report.ofIssues_issues] at member
  obtain ⟨among, category⟩ := List.mem_filter.mp member
  unfold issues at among
  split at among
  · rw [List.mem_singleton.mp among] at category
    simp at category
  · rcases List.mem_append.mp among with repeated | found
    · obtain ⟨⟨name, index⟩, listed, rfl⟩ := List.mem_map.mp repeated
      obtain ⟨here, -⟩ := (p.labels_tabulated.repeated name index).mp listed
      exact ⟨index, (List.getElem?_eq_some_iff.mp here).1, rfl⟩
    · obtain ⟨issues, listed, here⟩ := List.mem_flatten.mp found
      obtain ⟨index, within, rfl⟩ := List.mem_mapIdx.mp listed
      exact ⟨index, within, (mem_instructionIssues here).1⟩

/-- Without an error about labels, what an instruction refers to is there. -/
theorem mem_of_refers (sound : ∀ issue ∈ (p.check location).inCategory "labels", issue.level ≠ .error) {cursor : Nat}
    {label : LabelName} (refers : p.Refers cursor label) : .label label ∈ p.instructions := by
  have none : ∀ issue ∈ p.labelFaults location cursor, issue.level ≠ .error := by
    intro issue member
    rw [← labels_at] at member
    exact sound issue (List.mem_filter.mp member).1
  by_contra undefined
  unfold labelFaults at none
  cases refers with
  | jump here =>
      rw [here] at none
      dsimp only at none
      rw [if_neg undefined] at none
      exact none _ List.mem_cons_self rfl
  | option here member target =>
      rw [here] at none
      refine none _ (List.mem_map.mpr ⟨_, List.mem_filter.mpr ⟨member, ?_⟩, rfl⟩) rfl
      rw [target]
      simpa using undefined

/-- A label that is there is landed on. -/
theorem Lands.found {label : LabelName} {cursor target : Nat} (lands : p.Lands label cursor target)
    (defined : .label label ∈ p.instructions) : p.instructions[target]? = some (.label label) := by
  cases lands with
  | first first => exact first.1
  | onward absent => exact absurd defined absent

end Program

/-- Where the one sends the program to a label, the other asks for a label of that name. -/
def Mark.Finds (p : Program) (m next : Mark) : Prop :=
  ∀ cursor label, m.Turns p cursor label →
    ∃ target, p.instructions[target]? = some (.label label) ∧ next = .fetched p target

namespace Rehearsal

/-- The check reports at each instruction just what is wrong with its labels, and nothing about labels elsewhere. If it
reports no error about them, then each jump that is carried out and each option that is accepted goes on at a label of
the name, in the same resumption or in a later one. -/
theorem label_check_exact_and_sound (p : Program) (location : Location) :
    (∀ index, ((p.check location).inCategory "labels").filter (·.location.instruction = some index) =
      p.labelFaults location index) ∧
    (∀ issue ∈ (p.check location).inCategory "labels", ∃ index < p.length,
      issue.location = location.atInstruction index) ∧
    ((∀ issue ∈ (p.check location).inCategory "labels", issue.level ≠ .error) →
      ∀ (stage : Stage) (settings : InterpreterSettings) (calls : List Call), (∀ call ∈ calls, call.KeepsTable) →
        let start := ofSettings settings .standard
        (marks stage calls start).IsChain (Mark.Finds p) ∧
          ∀ elapsed, ∀ m ∈ (marks stage calls start).getLast?, ∀ cursor label, m.Turns p cursor label →
            ∃ target later, p.instructions[target]? = some (.label label) ∧
              (Call.resume elapsed).marks stage (rehearse stage calls start) = .fetched p target :: later) := by
  refine ⟨p.labels_at location, fun _ member => Program.exists_of_labels member, ?_⟩
  intro sound stage settings calls keeps start
  have passes := rehearse_passes stage calls keeps start (ofSettings_poised settings .standard) rfl
  have defined : ∀ m ∈ marks stage calls start, ∀ cursor label, m.Turns p cursor label →
      .label label ∈ p.instructions := by
    intro m member cursor label turns
    have refers := refers_of_turns stage calls start (Interpreter.offering_of_free rfl) member turns
    exact Program.mem_of_refers sound refers
  constructor
  · refine passes.chain.imp_of_mem_imp fun m next member _ leads => ?_
    intro cursor label turns
    obtain ⟨target, lands, fetched⟩ := leads p cursor label turns
    exact ⟨target, lands.found (defined m member cursor label turns), fetched⟩
  · intro elapsed m last cursor label turns
    obtain ⟨loaded, free, lands⟩ := passes.last m last p cursor label turns
    have steps : 0 < (rehearse stage calls start).interpreter.maxSteps := by
      rw [passes.maxSteps]
      exact Nat.lt_of_lt_of_le Nat.zero_lt_one (Nat.le_max_left 1 settings.maxSteps)
    obtain ⟨later, fetched⟩ := Interpreter.fetchesAfter_of_free loaded free steps stage elapsed _
    exact ⟨_, later, lands.found (defined m (List.mem_of_getLast? last) cursor label turns), fetched⟩

/-- The mill leads back to the fork, of which the second sign is reported. -/
def crossroads : Program where
  instructions :=
    [.label ⟨"fork"⟩, .choice none [⟨"Left", ⟨"mill"⟩⟩, ⟨"Back", ⟨"fork"⟩⟩], .label ⟨"mill"⟩, .jump ⟨"fork"⟩,
      .label ⟨"fork"⟩]

/-- To the mill, and back to the fork twice. -/
def ride : List Call := [.start crossroads, .resume 0, .selectChoice 0, .resume 0, .selectChoice 1]

theorem crossroads_followed :
    let start := ofSettings ⟨.ofNat 2, 100⟩ .standard
    ((crossroads.check {}).inCategory "labels").length = 1 ∧
      marks .instant ride start =
        [.fetched crossroads 0, .fetched crossroads 1, .accepted crossroads 1 ⟨"mill"⟩, .fetched crossroads 2,
          .fetched crossroads 3, .fetched crossroads 0, .fetched crossroads 1, .accepted crossroads 1 ⟨"fork"⟩] ∧
      (marks .instant ride start).IsChain (Mark.Finds crossroads) ∧
      ∃ target later, crossroads.instructions[target]? = some (.label ⟨"fork"⟩) ∧
        (Call.resume 0).marks .instant (rehearse .instant ride start) = .fetched crossroads target :: later := by
  intro start
  have sound : ∀ issue ∈ (crossroads.check {}).inCategory "labels", issue.level ≠ .error := by decide +kernel
  obtain ⟨-, -, found⟩ := label_check_exact_and_sound crossroads {}
  obtain ⟨chain, next⟩ := found sound .instant ⟨.ofNat 2, 100⟩ ride (by simp [ride, Call.KeepsTable])
  have told : marks .instant ride start =
      [.fetched crossroads 0, .fetched crossroads 1, .accepted crossroads 1 ⟨"mill"⟩, .fetched crossroads 2,
        .fetched crossroads 3, .fetched crossroads 0, .fetched crossroads 1, .accepted crossroads 1 ⟨"fork"⟩] := by
    decide +kernel
  have last : .accepted crossroads 1 ⟨"fork"⟩ ∈ (marks .instant ride start).getLast? := by
    rw [told]
    rfl
  exact ⟨by decide +kernel, told, chain, next 0 _ last 1 ⟨"fork"⟩ .option⟩

end Rehearsal

end Plotline
