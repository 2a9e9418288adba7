import Plotline.Proofs.Check.Label
import Plotline.Proofs.Check.Reference
import Plotline.Proofs.Scene.Operation

/-!
What the check of a package reports of the references in it, among all that it reports. It looks for a runner that is
named among all runners. But of runners whose storyboards share a name it asks only the last one for a node that is
branched to or waited for; so what only an earlier one defines is reported as missing, although the story goes on there.
-/

namespace Plotline

/-! ### The kinds of issues -/

/-- The issue is of a kind in which references that lead nowhere are reported. -/
def Issue.ofReference (i : Issue) : Bool :=
  (i.level, i.category) ∈ [(.warning, "conditions"), (.error, "branch-target"), (.error, "trigger-target")]

theorem Issue.ofReference_of_category {i : Issue}
    (other : i.category ∉ ["conditions", "branch-target", "trigger-target"]) : i.ofReference = false := by
  unfold ofReference
  simp only [List.mem_cons, List.not_mem_nil, or_false, not_or] at other
  simp [other]

/-- Nothing in the labels and the instructions of a program is a reference into another storyboard. -/
theorem Program.filter_issues (p : Program) (location : Location) :
    (p.issues location).filter Issue.ofReference = [] := by
  refine List.filter_eq_nil_iff.mpr fun issue member => ?_
  have kind : issue.category ∈ ["empty-program", "instructions", "archetype", "labels", "branching"] := by
    unfold issues at member
    split at member
    · rw [List.mem_singleton.mp member]
      exact List.mem_cons_self
    · refine List.mem_cons_of_mem _ ?_
      rcases List.mem_append.mp member with repeated | found
      · obtain ⟨entry, -, rfl⟩ := List.mem_map.mp repeated
        exact List.mem_of_getElem? (i := 2) rfl
      · obtain ⟨issues, listed, here⟩ := List.mem_flatten.mp found
        obtain ⟨index, within, rfl⟩ := List.mem_mapIdx.mp listed
        exact (mem_instructionIssues here).2
  rw [Issue.ofReference_of_category]
  · nofun
  · revert kind
    generalize issue.category = category
    simp only [List.mem_cons, List.not_mem_nil, or_false]
    rintro (rfl | rfl | rfl | rfl | rfl) <;> decide

namespace Storyboard

variable (b : Storyboard)

theorem filter_startIssues : b.startIssues.filter Issue.ofReference = [] := by
  unfold startIssues
  split <;> rfl

theorem filter_duplicateIssues (name : StoryboardName) (seen ids : List NodeId) :
    (duplicateIssues name seen ids).filter Issue.ofReference = [] := by
  induction ids generalizing seen with
  | nil => rfl
  | cons id ids ih =>
      unfold duplicateIssues
      split
      · exact (List.filter_cons_of_neg (by simp [Issue.ofReference_of_category])).trans (ih seen)
      · exact ih (id :: seen)

theorem filter_conditionIssues (n : Node) : (b.conditionIssues n).filter Issue.ofReference = [] := by
  refine List.filter_eq_nil_iff.mpr fun issue member => ?_
  obtain ⟨c, -, told⟩ := List.mem_filterMap.mp member
  split at told
  · split at told <;> cases told
    nofun
  · cases told

theorem filter_branchIssues (n : Node) : (b.branchIssues n).filter Issue.ofReference = b.branchIssues n := by
  refine List.filter_eq_self.mpr fun issue member => ?_
  obtain ⟨t, -, told⟩ := List.mem_filterMap.mp member
  split at told <;> cases told
  rfl

theorem filter_connectionIssues (c : Connection) : (b.connectionIssues c).filter Issue.ofReference = [] := by
  refine List.filter_eq_nil_iff.mpr fun issue member => ?_
  obtain ⟨id, -, rfl⟩ := List.mem_map.mp member
  nofun

theorem filter_nodeIssues (n : Node) : (b.nodeIssues n).filter Issue.ofReference = b.branchIssues n := by
  unfold nodeIssues
  rw [List.filter_append, List.filter_append, filter_conditionIssues, filter_branchIssues, List.append_nil]
  refine (congrArg (· ++ _) ?_).trans (List.nil_append _)
  split <;> rfl

/-- Within a storyboard only branches are reported in these kinds. -/
theorem filter_issues : b.issues.filter Issue.ofReference = b.nodes.flatMap b.branchIssues := by
  have none : ∀ {α : Type} (xs : List α), (xs.flatMap fun _ => ([] : List Issue)) = [] := by simp
  unfold issues graphIssues
  simp only [List.filter_append, List.filter_flatMap, filter_startIssues, filter_duplicateIssues, filter_nodeIssues,
    filter_connectionIssues, Program.filter_issues, none, List.append_nil, List.nil_append]

end Storyboard

namespace StoryPackage

variable {p : StoryPackage}

theorem filter_duplicateRunnerIssues (seen ids : List RunnerId) :
    (duplicateRunnerIssues seen ids).filter Issue.ofReference = [] := by
  induction ids generalizing seen with
  | nil => rfl
  | cons id ids ih =>
      unfold duplicateRunnerIssues
      split
      · exact (List.filter_cons_of_neg (by simp [Issue.ofReference_of_category])).trans (ih seen)
      · exact ih (id :: seen)

/-- What is reported of the branches within each storyboard. -/
def nearIssues (p : StoryPackage) : List Issue :=
  p.runners.flatMap fun d =>
    (d.storyboard.nodes.flatMap d.storyboard.branchIssues).map fun i =>
      { i with location := { i.location with runner := some d.id } }

theorem filterMap_report? (xs : List (Location × Reference)) :
    xs.filterMap p.report? = (xs.filter fun x => ¬ p.Sees x.2).map p.issueOf := by
  induction xs with
  | nil => rfl
  | cons x xs ih =>
      by_cases seen : p.Sees x.2
      · have silent : p.report? x = none := if_pos seen
        rw [List.filterMap_cons_none silent, List.filter_cons_of_neg (by simpa using seen), ih]
      · have told : p.report? x = some (p.issueOf x) := if_neg seen
        rw [List.filterMap_cons_some told, List.filter_cons_of_pos (by simpa using seen), ih, List.map_cons]

theorem ofReference_issueOf (x : Location × Reference) : (p.issueOf x).ofReference = true := by
  obtain ⟨location, r⟩ := x
  cases r <;> rfl

/-- Of the kinds in question the check reports the branches within each storyboard, and then the references that it
does not find. -/
theorem filter_check (distinct : (p.runners.map (·.id)).Nodup) :
    p.check.issues.filter Issue.ofReference =
      p.nearIssues ++ (p.references.filter fun x => ¬ p.Sees x.2).map p.issueOf := by
  have near : (p.runners.flatMap fun d => d.storyboard.issues.map fun i =>
      { i with location := { i.location with runner := some d.id } }).filter Issue.ofReference = p.nearIssues := by
    rw [List.filter_flatMap]
    refine List.flatMap_congr fun d _ => ?_
    rw [← Storyboard.filter_issues, List.filter_map]
    rfl
  have far : (p.references.filterMap p.report?).filter Issue.ofReference = p.references.filterMap p.report? := by
    refine List.filter_eq_self.mpr fun issue member => ?_
    rw [filterMap_report?] at member
    obtain ⟨x, -, rfl⟩ := List.mem_map.mp member
    exact ofReference_issueOf x
  unfold check
  rw [Report.ofIssues_issues]
  unfold issues
  rw [List.filter_append, List.filter_append, near, filter_duplicateRunnerIssues, List.append_nil,
    referenceIssues_eq distinct, far, filterMap_report?]

/-- Selections of which one is wider come to the same only if they do so for each element. -/
theorem map_filter_eq_iff {α β : Type} (f : α → β) {wide narrow : α → Prop} [DecidablePred wide]
    [DecidablePred narrow] (xs : List α) (wider : ∀ x, narrow x → wide x) :
    (xs.filter fun x => wide x).map f = (xs.filter fun x => narrow x).map f ↔ ∀ x ∈ xs, wide x → narrow x := by
  constructor
  · intro same x member chosen
    have narrowed : (xs.filter fun x => wide x).filter (fun x => narrow x) = xs.filter fun x => narrow x := by
      rw [List.filter_filter]
      refine List.filter_congr fun y _ => ?_
      by_cases inside : narrow y
      · simp [inside, wider y inside]
      · simp [inside]
    have length : (xs.filter fun x => narrow x).length = (xs.filter fun x => wide x).length := by
      simpa using (congrArg List.length same).symm
    have sublist : (xs.filter fun x => narrow x).Sublist (xs.filter fun x => wide x) :=
      narrowed ▸ List.filter_sublist
    have among : x ∈ xs.filter fun x => wide x := List.mem_filter.mpr ⟨member, by simpa using chosen⟩
    rw [← sublist.eq_of_length length] at among
    simpa using (List.mem_filter.mp among).2
  · intro agree
    refine congrArg (List.map f) (List.filter_congr fun x member => ?_)
    rw [decide_eq_decide]
    exact ⟨agree x member, wider x⟩

/-- Where all runners have ids of their own, the check reports a trigger exactly if there is no such runner or it does
not define the node. A wait or a branch is reported exactly if the node is defined by none of the runners in question
that is the last with its storyboard's name. So what is reported is what no runner in question defines just as far as
all that is defined by some is defined by a last one; and that is so if no two storyboards share a name. -/
theorem references_reported (p : StoryPackage) (distinct : (p.runners.map (·.id)).Nodup) :
    let reported := p.check.issues.filter Issue.ofReference
    reported = p.nearIssues ++ (p.references.filter fun x => ¬ p.Sees x.2).map p.issueOf ∧
      (reported = p.nearIssues ++ (p.references.filter fun x => ¬ x.2.Met p.runners).map p.issueOf ↔
        ∀ x ∈ p.references, x.2.Met p.runners → p.Sees x.2) ∧
      ((p.runners.map (·.storyboard.name)).Nodup → ∀ x ∈ p.references, x.2.Met p.runners → p.Sees x.2) := by
  intro reported
  have told := filter_check distinct
  refine ⟨told, ?_, ?_⟩
  · have unmet : ∀ x : Location × Reference, ¬ x.2.Met p.runners → ¬ p.Sees x.2 := fun _ unmet sees => unmet sees.met
    have agree := map_filter_eq_iff p.issueOf p.references unmet
    rw [show reported = _ from told, List.append_cancel_left_eq, agree]
    exact forall₂_congr fun _ _ => not_imp_not
  · intro named x _ met
    exact sees_of_met named met

/-- Smith and baker live in the same town, and the news lead to the forge of the smith; his oven is the baker's. -/
def fair : StoryPackage where
  runners :=
    [{ id := ⟨"smith"⟩
       storyboard :=
        { name := ⟨"town"⟩
          nodes := [{ id := ⟨"forge"⟩, program := { instructions := [.dialogue "S" "Clang!" none] } }] } },
      { id := ⟨"baker"⟩, storyboard := { name := ⟨"town"⟩, nodes := [{ id := ⟨"oven"⟩ }] } },
      { id := ⟨"crier"⟩
        storyboard :=
          { name := ⟨"square"⟩
            nodes :=
              [{ id := ⟨"news"⟩
                 isStart := true
                 program :=
                  { instructions :=
                      [.trigger ⟨"smith"⟩ ⟨"oven"⟩, .endOfProgram ⟨true, some ⟨"forge"⟩, some ⟨"town"⟩, []⟩] } },
                { id := ⟨"toll"⟩, conditions := [{ kind := .previousNodeCompleted ⟨"forge"⟩ }] }] } }]

/-- The forge is reported as missing twice, and yet the story goes on there. -/
theorem fair_reported :
    let reported := fair.check.issues.filter Issue.ofReference
    let missing := fair.references.filter fun x => ¬ fair.Sees x.2
    let scene := Scene.run [.tick 0, .tick 0] (Scene.ofPackage fair {} .nominal).2
    reported = fair.nearIssues ++ missing.map fair.issueOf ∧
      missing.map (·.2) =
        [.branch ⟨"town"⟩ ⟨"forge"⟩, .trigger ⟨"smith"⟩ ⟨"oven"⟩, .wait ⟨"forge"⟩] ∧
      scene.active = some (⟨"smith"⟩, ⟨"forge"⟩) := by
  intro reported missing scene
  exact ⟨(references_reported fair (by decide)).1, by decide +kernel, by decide +kernel⟩

/-- It is not true that only what no runner in question defines is reported. -/
theorem forge_reported_missing :
    ¬ ∀ p : StoryPackage, (p.runners.map (·.id)).Nodup →
      p.check.issues.filter Issue.ofReference =
        p.nearIssues ++ (p.references.filter fun x => ¬ x.2.Met p.runners).map p.issueOf := by
  intro exact
  have same := exact fair (by decide)
  revert same
  decide +kernel

end StoryPackage

end Plotline
