import Mathlib.Data.List.Sort
import Plotline.Proofs.Runner.Task
import Plotline.Proofs.Scene.Enrolment

/-!
Who opens the story. The runners of a scene stand in the order of their ids, whenever they came, so that it depends on
nothing but ids, priorities and start nodes who opens it and in which order.
-/

namespace Plotline

namespace RunnerId

theorem before_irrefl (a : RunnerId) : a.before a = false := by simp [before]

theorem before_trans {a b c : RunnerId} (first : a.before b = true) (last : b.before c = true) : a.before c = true := by
  simp only [before, decide_eq_true_eq] at *
  exact String.lt_trans first last

theorem before_asymm {a b : RunnerId} (before : a.before b = true) : b.before a = false := by
  simp only [RunnerId.before, decide_eq_true_eq, decide_eq_false_iff_not] at *
  exact String.lt_asymm before

theorem before_of_ne {a b : RunnerId} (different : a ≠ b) (behind : a.before b = false) : b.before a = true := by
  simp only [before, decide_eq_true_eq, decide_eq_false_iff_not] at *
  by_contra other
  exact different (congrArg RunnerId.mk (String.le_antisymm (String.not_lt.mp other) (String.not_lt.mp behind)))

end RunnerId

/-- What is announced of a runner. -/
structure Billing where
  id : RunnerId
  priority : Int
  start : Option NodeId

/-- The runner is one of those that open the story: of those with the least priority all, if that is the `footing` on
which they are equal, and else the first by its id. -/
def Billing.Opens (footing : Int) (all : List Billing) (b : Billing) : Prop :=
  (∀ other ∈ all, b.priority ≤ other.priority) ∧
    (b.priority = footing ∨
      ∀ other ∈ all, other.priority = b.priority → other.id = b.id ∨ b.id.before other.id = true)

theorem Billing.Opens.of_perm {footing : Int} {all all' : List Billing} {b : Billing} (opens : b.Opens footing all)
    (same : all.Perm all') : b.Opens footing all' := by
  unfold Opens at *
  simpa only [same.mem_iff] using opens

def Runner.billing (r : Runner) : Billing := ⟨r.id, r.priority, r.startNode?⟩

def RunnerDefinition.billing (d : RunnerDefinition) : Billing := (Runner.ofDefinition d).billing

theorem Runner.setUp_billing (r : Runner) (ch : Channel) : (r.setUp ch).2.1.billing = r.billing := by
  have id : (r.setUp ch).2.1.id = r.id := (setUp_made rfl).2.1
  have start : (r.setUp ch).2.1.startNode? = r.startNode? := work_startNode? [.setUp] (r, ch)
  unfold billing
  rw [id, start]
  rfl

namespace Scene

variable {s : Scene}

/-- The runners stand in the order of their ids. -/
def Lined (runners : List Runner) : Prop := runners.Pairwise fun x y => x.id.before y.id = true

theorem insertRunner_lined {y : Runner} {runners : List Runner} (lined : Lined runners)
    (new : ∀ x ∈ runners, x.id ≠ y.id) : Lined (insertRunner y runners) := by
  induction runners with
  | nil => exact List.pairwise_singleton _ y
  | cons x runners ih =>
      obtain ⟨first, rest⟩ := List.pairwise_cons.mp lined
      have different : x.id ≠ y.id := new x List.mem_cons_self
      unfold insertRunner
      by_cases before : x.id.before y.id = true
      · rw [if_pos before]
        refine List.pairwise_cons.mpr ⟨?_, ih rest fun z member => new z (List.mem_cons_of_mem x member)⟩
        intro z member
        rcases mem_insertRunner member with rfl | old
        · exact before
        · exact first z old
      · rw [if_neg before]
        have behind : y.id.before x.id = true := RunnerId.before_of_ne different (by simpa using before)
        refine List.pairwise_cons.mpr ⟨?_, lined⟩
        intro z member
        rcases List.mem_cons.mp member with rfl | later
        · exact behind
        · exact RunnerId.before_trans behind (first z later)

theorem insertRunner_billed (y : Runner) (runners : List Runner) :
    ((insertRunner y runners).map Runner.billing).Perm (y.billing :: runners.map Runner.billing) := by
  induction runners with
  | nil => exact .refl _
  | cons x runners ih =>
      unfold insertRunner
      split
      · exact (ih.cons x.billing).trans (.swap y.billing x.billing _)
      · exact .refl _

/-- All runners that have been registered are there, and they stand in order. -/
theorem run_register_billed (xs : List Runner) (s : Scene) (distinct : (xs.map (·.id)).Nodup)
    (fresh : ∀ x ∈ xs, s.runner? x.id = none) (lined : Lined s.runners) :
    Lined (run (xs.map .register) s).runners ∧
      ((run (xs.map .register) s).runners.map Runner.billing).Perm
        (xs.map Runner.billing ++ s.runners.map Runner.billing) := by
  induction xs generalizing s with
  | nil => exact ⟨lined, .refl _⟩
  | cons x xs ih =>
      obtain ⟨new, rest⟩ := List.nodup_cons.mp distinct
      have freshX := fresh x List.mem_cons_self
      have made := register_fresh freshX
      have id : (x.setUp s.channel).2.1.id = x.id := (Runner.setUp_made rfl).2.1
      have still : ∀ y ∈ xs, (s.register x).2.runner? y.id = none := by
        intro y member
        have different : y.id ≠ x.id := fun same => new (List.mem_map.mpr ⟨y, member, same⟩)
        rw [runner?_register freshX, if_neg different]
        exact fresh y (List.mem_cons_of_mem x member)
      have linedNext : Lined (s.register x).2.runners := by
        rw [made]
        refine insertRunner_lined lined ?_
        rw [id]
        exact ne_of_runner?_none freshX
      have billed : ((s.register x).2.runners.map Runner.billing).Perm
          (x.billing :: s.runners.map Runner.billing) := by
        rw [made, ← x.setUp_billing s.channel]
        exact insertRunner_billed _ _
      obtain ⟨linedAll, billedAll⟩ := ih (s.register x).2 rest still linedNext
      exact ⟨linedAll, billedAll.trans ((billed.append_left _).trans List.perm_middle)⟩

/-! ### Openers -/

theorem leastPriority?_eq_some {least : Int} :
    s.leastPriority? = some least ↔ least ∈ s.runners.map (·.priority) ∧ ∀ r ∈ s.runners, least ≤ r.priority := by
  have smallest : s.leastPriority? = (s.runners.map (·.priority)).min? := by
    unfold leastPriority?
    cases s.runners.map (·.priority) <;> rfl
  rw [smallest, List.min?_eq_some_iff]
  simp

theorem openers_sublist (s : Scene) : s.openers.Sublist s.runners := by
  unfold openers
  split
  · exact List.nil_sublist _
  · dsimp only
    split
    · exact List.filter_sublist
    · exact (List.take_sublist 1 _).trans List.filter_sublist

private theorem mem_take_one {runners : List Runner} (lined : Lined runners) {r : Runner} :
    r ∈ runners.take 1 ↔ r ∈ runners ∧ ∀ x ∈ runners, x.id = r.id ∨ r.id.before x.id = true := by
  cases runners with
  | nil => simp
  | cons first rest =>
      obtain ⟨behind, -⟩ := List.pairwise_cons.mp lined
      rw [List.take_succ_cons, List.take_zero, List.mem_singleton]
      constructor
      · rintro rfl
        refine ⟨List.mem_cons_self, ?_⟩
        intro x member
        rcases List.mem_cons.mp member with rfl | later
        · exact .inl rfl
        · exact .inr (behind x later)
      · rintro ⟨member, least⟩
        rcases List.mem_cons.mp member with rfl | later
        · rfl
        · have before := behind r later
          rcases least first List.mem_cons_self with same | after
          · rw [same, RunnerId.before_irrefl] at before
            cases before
          · rw [RunnerId.before_asymm before] at after
            cases after

private theorem leastPriority?_eq_none (none : s.leastPriority? = none) : s.runners = [] := by
  unfold leastPriority? at none
  split at none
  · simpa using ‹s.runners.map (·.priority) = []›
  · cases none

private theorem mem_candidates {least : Int} (known : s.leastPriority? = some least) {r : Runner} :
    r ∈ s.runners.filter (·.priority = least) ↔ r ∈ s.runners ∧ ∀ x ∈ s.runners, r.priority ≤ x.priority := by
  obtain ⟨attained, lower⟩ := leastPriority?_eq_some.mp known
  rw [List.mem_filter, decide_eq_true_eq]
  constructor
  · rintro ⟨member, rfl⟩
    exact ⟨member, lower⟩
  · rintro ⟨member, all⟩
    obtain ⟨x, there, rfl⟩ := List.mem_map.mp attained
    exact ⟨member, Int.le_antisymm (all x there) (lower r member)⟩

/-- It depends on no more than what is announced of the runners which of them open the story. -/
theorem mem_openers (lined : Lined s.runners) {r : Runner} :
    r ∈ s.openers ↔
      r ∈ s.runners ∧ r.billing.Opens s.settings.equalFootingPriority (s.runners.map Runner.billing) := by
  unfold Billing.Opens
  rw [List.forall_mem_map, List.forall_mem_map]
  unfold openers
  cases known : s.leastPriority? with
  | none => simp [leastPriority?_eq_none known]
  | some least =>
      have candidate := mem_candidates known (r := r)
      have same : r ∈ s.runners.filter (·.priority = least) → r.priority = least :=
        fun member => by simpa using (List.mem_filter.mp member).2
      dsimp only [Runner.billing]
      split
      · rename_i footing
        rw [← and_assoc, ← candidate]
        exact ⟨fun member => ⟨member, .inl ((same member).trans footing)⟩, And.left⟩
      · rename_i other
        rw [mem_take_one (lined.filter _), ← and_assoc, ← candidate]
        refine and_congr_right fun member => ?_
        rw [same member]
        constructor
        · intro first
          exact .inr fun x there equal => first x (List.mem_filter.mpr ⟨there, by simpa using equal⟩)
        · rintro (footing | first) x there
          · exact absurd footing other
          · obtain ⟨among, equal⟩ := List.mem_filter.mp there
            exact first x among (by simpa using equal)

end Scene

end Plotline
