import Plotline.Proofs.Runner.Echo
import Plotline.Proofs.Scene.Schedule

/-!
How waiting requests are released: one after the other while no node is active, by the priority of their runners, and
those of one priority as they came.
-/

namespace Plotline.Scene

variable {s : Scene}

/-! ### In which order -/

theorem goesBefore_iff (s : Scene) (a b : Request) :
    s.goesBefore a b = true ↔
      s.priorityOf a.runner < s.priorityOf b.runner ∨
        s.priorityOf a.runner = s.priorityOf b.runner ∧ a.sequence ≤ b.sequence := by
  simp [goesBefore]

theorem goesBefore_trans {a b c : Request} (first : s.goesBefore a b = true) (last : s.goesBefore b c = true) :
    s.goesBefore a c = true := by
  rw [goesBefore_iff] at *
  omega

/-- The requests, each put in its place. -/
def inOrder (s : Scene) (requests : List Request) : List Request := requests.foldr s.insertRequest []

/-- The requests stand in the order in which they are released. -/
def Ordered (s : Scene) (requests : List Request) : Prop := requests.Pairwise fun a b => s.goesBefore a b = true

/-- What goes before the first of ordered requests goes before all of them. -/
private theorem before_all {a b : Request} {requests : List Request} (before : s.goesBefore a b = true)
    (ordered : s.Ordered (b :: requests)) : ∀ c ∈ b :: requests, s.goesBefore a c = true := by
  intro c member
  rcases List.mem_cons.mp member with rfl | later
  · exact before
  · exact goesBefore_trans before ((List.pairwise_cons.mp ordered).1 c later)

theorem insertRequest_ordered (a : Request) {requests : List Request} (ordered : s.Ordered requests) :
    s.Ordered (s.insertRequest a requests) := by
  induction requests with
  | nil => exact List.pairwise_singleton _ a
  | cons b requests ih =>
      obtain ⟨least, rest⟩ := List.pairwise_cons.mp ordered
      unfold insertRequest
      split
      · rename_i before
        exact List.pairwise_cons.mpr ⟨before_all before ordered, ordered⟩
      · rename_i behind
        refine List.pairwise_cons.mpr ⟨?_, ih rest⟩
        intro c member
        rcases List.mem_cons.mp ((s.insertRequest_perm a requests).mem_iff.mp member) with rfl | later
        · rw [goesBefore_iff] at behind ⊢
          omega
        · exact least c later

private theorem insertRequest_first {a : Request} {requests : List Request}
    (first : ∀ b ∈ requests, s.goesBefore a b = true) : s.insertRequest a requests = a :: requests := by
  cases requests with
  | nil => rfl
  | cons b requests => rw [insertRequest, if_pos (first b List.mem_cons_self)]

/-- Whether a request is put in its place before or after others are left out makes no difference. -/
theorem filter_insertRequest (kept : Request → Bool) (a : Request) {requests : List Request}
    (ordered : s.Ordered requests) :
    (s.insertRequest a requests).filter kept =
      if kept a then s.insertRequest a (requests.filter kept) else requests.filter kept := by
  induction requests with
  | nil => cases keep : kept a <;> simp [insertRequest, keep]
  | cons b requests ih =>
      by_cases before : s.goesBefore a b = true
      · have first := before_all before ordered
        have firstKept : ∀ c ∈ (b :: requests).filter kept, s.goesBefore a c = true := fun c member =>
          first c (List.mem_filter.mp member).1
        rw [insertRequest_first first, insertRequest_first firstKept, List.filter_cons]
      · have behind : ∀ others, s.insertRequest a (b :: others) = b :: s.insertRequest a others := fun others =>
          if_neg before
        rw [behind, List.filter_cons, List.filter_cons, ih (List.pairwise_cons.mp ordered).2]
        cases kept b with
        | false => rfl
        | true =>
            rw [if_pos rfl, if_pos rfl, behind]
            split <;> rfl

theorem inOrder_ordered (s : Scene) (requests : List Request) : s.Ordered (s.inOrder requests) := by
  induction requests with
  | nil => exact .nil
  | cons request requests ih => exact insertRequest_ordered request ih

theorem inOrder_of_ordered {requests : List Request} (ordered : s.Ordered requests) : s.inOrder requests = requests := by
  induction requests with
  | nil => rfl
  | cons request requests ih =>
      obtain ⟨first, rest⟩ := List.pairwise_cons.mp ordered
      have placed : s.inOrder (request :: requests) = s.insertRequest request (s.inOrder requests) := rfl
      rw [placed, ih rest, insertRequest_first first]

theorem releaseOrder_ordered (s : Scene) : s.Ordered s.releaseOrder := s.inOrder_ordered s.pending

/-- Requests that are released keep the order that they have among themselves. -/
theorem filter_inOrder (kept : Request → Bool) (s : Scene) (requests : List Request) :
    (s.inOrder requests).filter kept = s.inOrder (requests.filter kept) := by
  induction requests with
  | nil => rfl
  | cons request requests ih =>
      have placed : s.inOrder (request :: requests) = s.insertRequest request (s.inOrder requests) := rfl
      rw [placed, filter_insertRequest _ _ (s.inOrder_ordered requests), ih, List.filter_cons]
      split <;> rfl

/-! ### Whose turn it is

Neither the beginning nor the end of a node changes the priority of a runner.
-/

theorem completeNode_priorityOf (runner : RunnerId) (node : NodeId) (s : Scene) :
    (s.completeNode runner node).priorityOf = s.priorityOf := by
  cases found : s.runner? runner with
  | none =>
      unfold completeNode
      rw [found]
  | some x =>
      rw [completeNode_found found]
      have alike := x.afterEnd_alike node
      exact putRunner_priorityOf (found_self found) alike.id alike.priority _

theorem beginNode_priorityOf (runner : RunnerId) (node : NodeId) (s : Scene) :
    (s.beginNode runner node).2.priorityOf = s.priorityOf := by
  unfold beginNode
  cases found : s.runner? runner with
  | none => rfl
  | some x =>
      have ages := x.beginNode_ages node s.channel
      have put := putRunner_priorityOf (found_self found) ages.id ages.priority (x.beginNode node s.channel).2.2
      dsimp only
      split
      · exact put
      · split
        · exact (completeNode_priorityOf runner node _).trans put
        · split
          · exact put
          · exact (completeNode_priorityOf runner node _).trans put

/-! ### One after the other -/

/-- The scene after the first of the requests has been taken up. -/
def takeUp (request : Request) (rest : List Request) (s : Scene) : Scene :=
  (({ s with pending := rest }.note (.releasing request.runner request.node request.sequence)).beginNode
    request.runner request.node).2

theorem takeUp_pending (request : Request) (rest : List Request) (s : Scene) :
    (s.takeUp request rest).pending = rest :=
  beginNode_pending _ _ _

theorem takeUp_priorityOf (request : Request) (rest : List Request) (s : Scene) :
    (s.takeUp request rest).priorityOf = s.priorityOf :=
  beginNode_priorityOf _ _ _

theorem releaseAll_of_running (running : s.isEventRunning = true) (requests : List Request) :
    releaseAll requests s = { s with pending := requests } := by
  cases requests with
  | nil => rfl
  | cons request rest => rw [releaseAll, if_pos running]

theorem releaseAll_of_free (free : ¬ s.isEventRunning = true) (request : Request) (rest : List Request) :
    releaseAll (request :: rest) s = releaseAll rest (s.takeUp request rest) := by
  rw [releaseAll, if_neg free]
  rfl

end Plotline.Scene
