import Plotline.Check.Package
import Plotline.Proofs.Runner.Primed

/-!
References from one storyboard to another: what they are, what is defined of them, and what the check of a package
finds. Each reference that it does not find it reports.
-/

namespace Plotline

/-- What leads from a node to one that need not be in its storyboard. -/
inductive Reference
  | wait (target : NodeId)
  | branch (board : StoryboardName) (target : NodeId)
  | trigger (runner : RunnerId) (target : NodeId)
  deriving DecidableEq

namespace Reference

/-- One of the runners defines what is referred to. -/
def Met (runners : List RunnerDefinition) : Reference → Prop
  | wait target => ∃ d ∈ runners, target ∈ d.storyboard.nodeIds
  | branch board target => ∃ d ∈ runners, d.storyboard.name = board ∧ target ∈ d.storyboard.nodeIds
  | trigger runner target => ∃ d ∈ runners, d.id = runner ∧ target ∈ d.storyboard.nodeIds

instance (runners : List RunnerDefinition) : DecidablePred (Met runners) := fun
  | wait target => inferInstanceAs (Decidable (∃ d ∈ runners, target ∈ d.storyboard.nodeIds))
  | branch board target =>
    inferInstanceAs (Decidable (∃ d ∈ runners, d.storyboard.name = board ∧ target ∈ d.storyboard.nodeIds))
  | trigger runner target =>
    inferInstanceAs (Decidable (∃ d ∈ runners, d.id = runner ∧ target ∈ d.storyboard.nodeIds))

theorem Met.mono {runners others : List RunnerDefinition} (more : runners ⊆ others) {r : Reference}
    (met : r.Met runners) : r.Met others := by
  cases r with
  | _ =>
      obtain ⟨d, member, rest⟩ := met
      exact ⟨d, more member, rest⟩

end Reference

def Condition.wait? (c : Condition) : Option Reference :=
  match c.kind with
  | .previousNodeCompleted target => some (.wait target)
  | _ => none

/-- The branch into a storyboard that is not its own. -/
def Instruction.branch? (own : StoryboardName) : Instruction → Option Reference
  | .endOfProgram ending =>
    match ending.isBranching, ending.targetNode, ending.targetStoryboard with
    | true, some target, some board => if board = own then none else some (.branch board target)
    | _, _, _ => none
  | _ => none

def Instruction.trigger? : Instruction → Option Reference
  | .trigger runner target => some (.trigger runner target)
  | _ => none

/-- The instructions that hold a reference of the kind, each with its place. -/
def Program.referring (p : Program) (location : Location) (pick : Instruction → Option Reference) :
    List (Location × Reference) :=
  p.instructions.zipIdx.filterMap fun x => (pick x.1).map (location.atInstruction x.2, ·)

namespace RunnerDefinition

def place (d : RunnerDefinition) (n : Node) : Location :=
  { runner := some d.id, storyboard := some d.storyboard.name, node := some n.id }

/-- What a node refers to, each with its place: conditions, then branches, then triggers. -/
def references (d : RunnerDefinition) (n : Node) : List (Location × Reference) :=
  (n.conditions.filterMap fun c => c.wait?.map (d.place n, ·))
    ++ n.program.referring (d.place n) (Instruction.branch? d.storyboard.name)
    ++ n.program.referring (d.place n) Instruction.trigger?

/-- Of the runners whose storyboards share a name, the last. -/
def prevailing : List RunnerDefinition → List RunnerDefinition
  | [] => []
  | d :: ds =>
    if ∃ other ∈ ds, other.storyboard.name = d.storyboard.name then prevailing ds else d :: prevailing ds

theorem prevailing_subset (ds : List RunnerDefinition) : prevailing ds ⊆ ds := by
  induction ds with
  | nil => exact List.Subset.refl _
  | cons d ds ih =>
      unfold prevailing
      split
      · exact List.subset_cons_of_subset d ih
      · exact List.cons_subset_cons d ih

/-- Where no name is shared, all prevail. -/
theorem prevailing_of_nodup {ds : List RunnerDefinition} (distinct : (ds.map (·.storyboard.name)).Nodup) :
    prevailing ds = ds := by
  induction ds with
  | nil => rfl
  | cons d ds ih =>
      obtain ⟨new, rest⟩ := List.nodup_cons.mp distinct
      have alone : ¬ ∃ other ∈ ds, other.storyboard.name = d.storyboard.name := by
        rintro ⟨other, member, same⟩
        exact new (List.mem_map.mpr ⟨other, member, same⟩)
      unfold prevailing
      rw [if_neg alone, ih rest]

/-- The last runner whose storyboard has the name prevails. -/
theorem find?_reverse_eq_some {ds : List RunnerDefinition} {board : StoryboardName} {d : RunnerDefinition} :
    ds.reverse.find? (·.storyboard.name = board) = some d ↔ d ∈ prevailing ds ∧ d.storyboard.name = board := by
  induction ds with
  | nil => simp [prevailing]
  | cons e ds ih =>
      rw [List.reverse_cons, List.find?_append]
      unfold prevailing
      cases found : ds.reverse.find? (·.storyboard.name = board) with
      | some x =>
          have named : x ∈ ds ∧ x.storyboard.name = board :=
            ⟨List.mem_reverse.mp (List.mem_of_find?_eq_some found), by simpa using List.find?_some found⟩
          rw [found] at ih
          rw [Option.some_or, ih]
          split
          · rfl
          · rename_i alone
            have other : d.storyboard.name = board → d ≠ e := by
              rintro same rfl
              exact alone ⟨x, named.1, named.2.trans same.symm⟩
            constructor
            · exact fun ⟨member, same⟩ => ⟨List.mem_cons_of_mem e member, same⟩
            · exact fun ⟨member, same⟩ => ⟨(List.mem_cons.mp member).resolve_left (other same), same⟩
      | none =>
          have nowhere : ∀ x ∈ ds, x.storyboard.name ≠ board := by
            intro x member
            simpa using List.find?_eq_none.mp found x (List.mem_reverse.mpr member)
          have earlier : ¬ (d ∈ prevailing ds ∧ d.storyboard.name = board) :=
            fun ⟨member, same⟩ => nowhere d (prevailing_subset ds member) same
          rw [Option.none_or]
          by_cases here : e.storyboard.name = board
          · have alone : ¬ ∃ other ∈ ds, other.storyboard.name = e.storyboard.name := by
              rintro ⟨other, member, same⟩
              exact nowhere other member (same.trans here)
            rw [List.find?_cons_of_pos (by simpa using here), if_neg alone, Option.some_inj]
            constructor
            · rintro rfl
              exact ⟨List.mem_cons_self, here⟩
            · exact fun ⟨member, same⟩ =>
                ((List.mem_cons.mp member).resolve_right fun later => earlier ⟨later, same⟩).symm
          · rw [List.find?_cons_of_neg (by simpa using here)]
            refine iff_of_false nofun ?_
            split
            · exact earlier
            · rintro ⟨member, same⟩
              rcases List.mem_cons.mp member with rfl | later
              · exact here same
              · exact earlier ⟨later, same⟩

end RunnerDefinition

namespace StoryPackage

open RunnerDefinition (prevailing)

variable {p : StoryPackage}

/-- Where references lead from one node to another, in the order of the package. -/
def references (p : StoryPackage) : List (Location × Reference) :=
  p.runners.flatMap fun d => d.storyboard.nodes.flatMap d.references

/-- The check finds what is referred to. -/
def Sees (p : StoryPackage) : Reference → Prop
  | .trigger runner target => (Reference.trigger runner target).Met p.runners
  | r => r.Met (prevailing p.runners)

instance (p : StoryPackage) : DecidablePred p.Sees := fun
  | .wait target => inferInstanceAs (Decidable ((Reference.wait target).Met (prevailing p.runners)))
  | .branch board target => inferInstanceAs (Decidable ((Reference.branch board target).Met (prevailing p.runners)))
  | .trigger runner target => inferInstanceAs (Decidable ((Reference.trigger runner target).Met p.runners))

theorem Sees.met {r : Reference} (sees : p.Sees r) : r.Met p.runners := by
  cases r with
  | trigger runner target => exact sees
  | _ => exact Reference.Met.mono (RunnerDefinition.prevailing_subset p.runners) sees

/-- Where no storyboards share a name, the check finds all that is defined. -/
theorem sees_of_met (named : (p.runners.map (·.storyboard.name)).Nodup) {r : Reference} (met : r.Met p.runners) :
    p.Sees r := by
  have all : p.runners ⊆ prevailing p.runners := by
    rw [RunnerDefinition.prevailing_of_nodup named]
    exact List.Subset.refl _
  cases r with
  | trigger runner target => exact met
  | _ => exact Reference.Met.mono all met

/-- How it is reported that a reference leads nowhere. -/
def issueOf (p : StoryPackage) (x : Location × Reference) : Issue :=
  match x.2 with
  | .wait target => ⟨.warning, "conditions", x.1, s!"waits on node '{target.text}' that no runner defines"⟩
  | .branch board target =>
    ⟨.error, "branch-target", x.1,
      if ∃ d ∈ p.runners, d.storyboard.name = board then s!"branch to unknown node '{board.text}/{target.text}'"
      else s!"branch into unknown storyboard '{board.text}'"⟩
  | .trigger runner target =>
    ⟨.error, "trigger-target", x.1,
      if ∃ d ∈ p.runners, d.id = runner then s!"trigger of unknown node '{runner.text}/{target.text}'"
      else s!"trigger of unknown runner '{runner.text}'"⟩

/-! ### What the check finds -/

theorem boardNodes?_eq_some {board : StoryboardName} {nodes : List NodeId} :
    p.boardNodes? board = some nodes ↔
      ∃ d ∈ prevailing p.runners, d.storyboard.name = board ∧ d.storyboard.nodeIds = nodes := by
  unfold boardNodes?
  rw [Option.map_eq_some_iff]
  constructor
  · rintro ⟨d, found, nodes⟩
    obtain ⟨member, named⟩ := RunnerDefinition.find?_reverse_eq_some.mp found
    exact ⟨d, member, named, nodes⟩
  · rintro ⟨d, member, named, nodes⟩
    exact ⟨d, RunnerDefinition.find?_reverse_eq_some.mpr ⟨member, named⟩, nodes⟩

theorem boardNodes?_eq_none {board : StoryboardName} :
    p.boardNodes? board = none ↔ ¬ ∃ d ∈ p.runners, d.storyboard.name = board := by
  unfold boardNodes?
  rw [Option.map_eq_none_iff, List.find?_eq_none]
  simp

theorem runnerNodes?_eq_some (distinct : (p.runners.map (·.id)).Nodup) {runner : RunnerId} {nodes : List NodeId} :
    p.runnerNodes? runner = some nodes ↔ ∃ d ∈ p.runners, d.id = runner ∧ d.storyboard.nodeIds = nodes := by
  have backwards : (p.runners.reverse.map (·.id)).Nodup := by
    rw [List.map_reverse]
    exact List.nodup_reverse.mpr distinct
  unfold runnerNodes?
  rw [Option.map_eq_some_iff]
  constructor
  · rintro ⟨d, found, nodes⟩
    exact ⟨d, List.mem_reverse.mp (List.mem_of_find?_eq_some found), by simpa using List.find?_some found, nodes⟩
  · rintro ⟨d, member, rfl, nodes⟩
    exact ⟨d, find?_of_nodup backwards (List.mem_reverse.mpr member), nodes⟩

theorem runnerNodes?_eq_none {runner : RunnerId} :
    p.runnerNodes? runner = none ↔ ¬ ∃ d ∈ p.runners, d.id = runner := by
  unfold runnerNodes?
  rw [Option.map_eq_none_iff, List.find?_eq_none]
  simp

theorem definesNode_iff {target : NodeId} : p.definesNode target = true ↔ p.Sees (.wait target) := by
  have asked : p.definesNode target = true ↔
      ∃ d ∈ p.runners, ∃ nodes, p.boardNodes? d.storyboard.name = some nodes ∧ target ∈ nodes := by
    unfold definesNode
    rw [List.any_eq_true]
    simp only [Option.any_eq_true, List.contains_iff_mem]
  rw [asked]
  constructor
  · rintro ⟨_, _, nodes, found, defined⟩
    obtain ⟨d, member, -, rfl⟩ := boardNodes?_eq_some.mp found
    exact ⟨d, member, defined⟩
  · rintro ⟨d, member, defined⟩
    exact ⟨d, RunnerDefinition.prevailing_subset p.runners member, _,
      boardNodes?_eq_some.mpr ⟨d, member, rfl, rfl⟩, defined⟩

/-! ### What the check reports -/

/-- What is reported of a reference, if it is not found. -/
def report? (p : StoryPackage) (x : Location × Reference) : Option Issue :=
  if p.Sees x.2 then none else some (p.issueOf x)

/-- What is wrong with a target that is looked up among the nodes of the runners that are asked. -/
theorem fault_eq {nodes? : Option (List NodeId)} {target : NodeId} {asked all : List RunnerDefinition}
    {named : RunnerDefinition → Prop} [DecidablePred named] (among : asked ⊆ all) (unknown undefined : String) :
    (∀ nodes, nodes? = some nodes ↔ ∃ d ∈ asked, named d ∧ d.storyboard.nodeIds = nodes) →
    (nodes? = none ↔ ¬ ∃ d ∈ all, named d) →
      (match nodes? with
        | none => some unknown
        | some nodes => if nodes.contains target then none else some undefined) =
        if ∃ d ∈ asked, named d ∧ target ∈ d.storyboard.nodeIds then none
        else some (if ∃ d ∈ all, named d then undefined else unknown) := by
  intro found missing
  cases nodes? with
  | none =>
      have nobody := missing.mp rfl
      have unseen : ¬ ∃ d ∈ asked, named d ∧ target ∈ d.storyboard.nodeIds :=
        fun ⟨d, member, here, _⟩ => nobody ⟨d, among member, here⟩
      rw [if_neg unseen, if_neg nobody]
  | some nodes =>
      obtain ⟨d, member, here, defines⟩ := (found nodes).mp rfl
      have seen : nodes.contains target = true ↔ ∃ d ∈ asked, named d ∧ target ∈ d.storyboard.nodeIds := by
        rw [List.contains_iff_mem]
        constructor
        · exact fun defined => ⟨d, member, here, defines ▸ defined⟩
        · rintro ⟨e, other, there, defined⟩
          have same : some nodes = some e.storyboard.nodeIds := (found _).mpr ⟨e, other, there, rfl⟩
          rwa [Option.some.inj same]
      have somebody : ∃ d ∈ all, named d := ⟨d, among member, here⟩
      dsimp only
      rw [if_pos somebody]
      by_cases defined : ∃ d ∈ asked, named d ∧ target ∈ d.storyboard.nodeIds
      · rw [if_pos (seen.mpr defined), if_pos defined]
      · rw [if_neg (mt seen.mp defined), if_neg defined]

theorem branchFault?_near (own : StoryboardName) (index : Nat) (target : NodeId) :
    p.branchFault? own ⟨index, target, some own⟩ = none := by
  have asked : (some own).filter (· ≠ own) = none := by simp
  unfold branchFault?
  dsimp only
  rw [asked]

theorem branchFault?_far {own board : StoryboardName} (far : board ≠ own) (index : Nat) (target : NodeId)
    (location : Location) :
    (p.branchFault? own ⟨index, target, some board⟩).map
        (fun message => (⟨.error, "branch-target", location, message⟩ : Issue)) =
      p.report? (location, .branch board target) := by
  have asked : (some board).filter (· ≠ own) = some board := by simp [far]
  have fault : p.branchFault? own ⟨index, target, some board⟩ =
      if p.Sees (.branch board target) then none
      else some
        (if ∃ d ∈ p.runners, d.storyboard.name = board then s!"branch to unknown node '{board.text}/{target.text}'"
        else s!"branch into unknown storyboard '{board.text}'") := by
    unfold branchFault?
    dsimp only
    rw [asked]
    exact fault_eq (RunnerDefinition.prevailing_subset p.runners) _ _ (fun _ => boardNodes?_eq_some) boardNodes?_eq_none
  unfold report?
  rw [fault]
  split <;> rfl

theorem triggerFault?_report (distinct : (p.runners.map (·.id)).Nodup) (runner : RunnerId) (target : NodeId)
    (location : Location) :
    (p.triggerFault? runner target).map (fun message => (⟨.error, "trigger-target", location, message⟩ : Issue)) =
      p.report? (location, .trigger runner target) := by
  have fault : p.triggerFault? runner target =
      if p.Sees (.trigger runner target) then none
      else some
        (if ∃ d ∈ p.runners, d.id = runner then s!"trigger of unknown node '{runner.text}/{target.text}'"
        else s!"trigger of unknown runner '{runner.text}'") :=
    fault_eq (List.Subset.refl p.runners) _ _ (fun _ => runnerNodes?_eq_some distinct) runnerNodes?_eq_none
  unfold report?
  rw [fault]
  split <;> rfl

theorem conditionIssues_eq (d : RunnerDefinition) (n : Node) :
    p.conditionIssues d n = (n.conditions.filterMap fun c => c.wait?.map (d.place n, ·)).filterMap p.report? := by
  rw [List.filterMap_filterMap]
  refine List.filterMap_congr fun c _ => ?_
  unfold Condition.wait?
  cases c.kind with
  | previousNodeCompleted target =>
      unfold report?
      dsimp only [Option.map_some, Option.bind_some]
      by_cases seen : p.Sees (.wait target)
      · rw [if_pos (definesNode_iff.mpr seen), if_pos seen]
      · rw [if_neg (mt definesNode_iff.mp seen), if_neg seen]
        rfl
  | _ => rfl

/-- What is made of the instructions one by one, with their places. -/
theorem filterMap_id_mapIdx {α β : Type} (f : Nat → α → Option β) (xs : List α) :
    (xs.mapIdx f).filterMap id = xs.zipIdx.filterMap fun x => f x.2 x.1 := by
  rw [List.mapIdx_eq_zipIdx_map, List.filterMap_map]
  rfl

theorem branchIssues_eq (d : RunnerDefinition) (n : Node) :
    p.branchIssues d n =
      (n.program.referring (d.place n) (Instruction.branch? d.storyboard.name)).filterMap p.report? := by
  unfold branchIssues Program.branchTargets Program.referring
  rw [filterMap_id_mapIdx, List.filterMap_filterMap, List.filterMap_filterMap]
  refine List.filterMap_congr fun x _ => ?_
  obtain ⟨i, index⟩ := x
  cases i with
  | endOfProgram ending =>
      obtain ⟨branching, target?, board?, rewards⟩ := ending
      match branching, target?, board? with
      | false, _, _ => rfl
      | true, none, _ => rfl
      | true, some target, none => rfl
      | true, some target, some board =>
          unfold Instruction.branch?
          dsimp only
          by_cases own : board = d.storyboard.name
          · rw [if_pos own, own]
            exact congrArg (Option.map _) (branchFault?_near d.storyboard.name index target)
          · rw [if_neg own]
            exact branchFault?_far own index target _
  | _ => rfl

theorem triggerIssues_eq (distinct : (p.runners.map (·.id)).Nodup) (d : RunnerDefinition) (n : Node) :
    p.triggerIssues d n = (n.program.referring (d.place n) Instruction.trigger?).filterMap p.report? := by
  unfold triggerIssues Program.referring
  rw [filterMap_id_mapIdx, List.filterMap_filterMap]
  refine List.filterMap_congr fun x _ => ?_
  obtain ⟨i, index⟩ := x
  cases i with
  | trigger runner target => exact triggerFault?_report distinct runner target _
  | _ => rfl

/-- A reference is reported exactly if it is not found. -/
theorem referenceIssues_eq (distinct : (p.runners.map (·.id)).Nodup) :
    p.runners.flatMap p.referenceIssues = p.references.filterMap p.report? := by
  unfold references
  rw [List.filterMap_flatMap]
  refine List.flatMap_congr fun d _ => ?_
  unfold referenceIssues
  rw [List.filterMap_flatMap]
  refine List.flatMap_congr fun n _ => ?_
  unfold RunnerDefinition.references
  rw [List.filterMap_append, List.filterMap_append, conditionIssues_eq, branchIssues_eq, triggerIssues_eq distinct]

end StoryPackage

end Plotline
