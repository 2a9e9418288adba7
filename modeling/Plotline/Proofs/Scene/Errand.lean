import Plotline.Proofs.Scene.Procession

/-!
How far one call leads. A node whose program is empty is over as soon as it has begun, and then the waiting requests have
their turn, each of which may begin such a node again. But whatever is begun on the way uses up a request, and nothing
adds one.
-/

namespace Plotline.Scene

/-- A call from which others may follow. -/
inductive Errand
  | start (runner : RunnerId) (node : NodeId)
  | finish (rewards : List Reward)
  | release
  deriving DecidableEq, Repr

namespace Errand

/-- How many nodes are begun for which no request has waited. -/
def own : Errand → Nat
  | start .. => 1
  | finish _ | release => 0

def result (s : Scene) : Errand → Scene
  | start runner node => (s.startNode runner node).2
  | finish rewards => s.finishActive rewards
  | release => s.release

/-- The call leads from the one scene to the other; on the way the nodes are begun, or refused. Each call is answered by
those that follow from it, however many these are. -/
inductive Runs : Errand → Scene → List (RunnerId × NodeId) → Scene → Prop
  | starts {s : Scene} {runner : RunnerId} {node : NodeId} (remains : (s.beginNode runner node).1 ≠ .ended) :
      Runs (.start runner node) s [(runner, node)] (s.beginNode runner node).2
  | passes {s t : Scene} {runner : RunnerId} {node : NodeId} {called : List (RunnerId × NodeId)}
      (ended : (s.beginNode runner node).1 = .ended) (goesOn : Runs .release (s.beginNode runner node).2 called t) :
      Runs (.start runner node) s ((runner, node) :: called) t
  | lapses {s : Scene} {rewards : List Reward} (free : s.active = none) : Runs (.finish rewards) s [] s
  | closes {s t : Scene} {rewards : List Reward} {runner : RunnerId} {node : NodeId}
      {called : List (RunnerId × NodeId)} (active : s.active = some (runner, node))
      (goesOn : Runs .release (s.close runner node rewards) called t) :
      Runs (.finish rewards) s called t
  | rests {s : Scene} (attended : s.Attended) : Runs .release s [] s
  | takes {s t u : Scene} {request : Request} {rest : List Request} {called more : List (RunnerId × NodeId)}
      (free : s.active = none) (order : s.releaseOrder = request :: rest)
      (begins : Runs (.start request.runner request.node)
        ({ s with pending := rest }.note (.releasing request.runner request.node request.sequence)) called t)
      (goesOn : Runs .release t more u) :
      Runs .release s (called ++ more) u

variable {s t : Scene} {errand : Errand} {called : List (RunnerId × NodeId)}

/-- Every node but that of the call itself stands for a request that no longer waits. -/
theorem Runs.spends (runs : Runs errand s called t) :
    called.length + t.pending.length = errand.own + s.pending.length := by
  induction runs with
  | starts remains => rw [beginNode_pending, List.length_singleton, own]
  | passes ended goesOn ih =>
      rw [beginNode_pending] at ih
      simp only [own, List.length_cons] at ih ⊢
      omega
  | lapses free => rfl
  | closes active goesOn ih =>
      rw [close_pending] at ih
      exact ih
  | rests attended => rfl
  | @takes s t u request rest called more free order begins goesOn ihBegins ihRest =>
      have waiting := s.releaseOrder_perm.length_eq
      rw [order] at waiting
      have taken : ({ s with pending := rest }.note
          (.releasing request.runner request.node request.sequence)).pending = rest := rfl
      rw [taken] at ihBegins
      simp only [own, List.length_cons, List.length_append] at ihBegins ihRest waiting ⊢
      omega

/-- Once the first request has been taken up, what is left of the release is done by the node or after it. -/
private theorem release_started (free : s.active = none) {request : Request} {rest : List Request}
    (order : s.releaseOrder = request :: rest) :
    (({ s with pending := rest }.note (.releasing request.runner request.node request.sequence)).startNode
      request.runner request.node).2.release = s.release := by
  rw [← release_takeUp free order]
  by_cases ended : (({ s with pending := rest }.note
      (.releasing request.runner request.node request.sequence)).beginNode request.runner request.node).1 = .ended
  · rw [startNode_of_ended ended]
    exact release_of_attended (release_attended _)
  · rw [startNode_of_not_ended ended]
    rfl

/-- There is only one scene to which a call can lead. -/
theorem Runs.leads (runs : Runs errand s called t) : t = errand.result s := by
  induction runs with
  | starts remains => exact (startNode_of_not_ended remains).symm
  | passes ended goesOn ih => exact ih.trans (startNode_of_ended ended).symm
  | lapses free => exact (finishActive_of_free free _).symm
  | closes active goesOn ih => exact ih.trans (finishActive_of_active active _).symm
  | rests attended => exact (release_of_attended attended).symm
  | takes free order begins goesOn ihBegins ihRest =>
      rw [ihRest, ihBegins]
      exact release_started free order

/-- By induction on the number of the requests: each round takes one up. -/
private theorem exists_release (s : Scene) : ∃ called, Runs .release s called s.release := by
  induction waiting : s.pending.length using Nat.strongRecOn generalizing s with
  | ind number ih =>
      by_cases running : s.isEventRunning = true
      · rw [release_of_attended (.inl running)]
        exact ⟨[], .rests (.inl running)⟩
      · have free : s.active = none := by simpa [isEventRunning] using running
        cases order : s.releaseOrder with
        | nil =>
            have none : s.pending = [] := (order ▸ s.releaseOrder_perm).eq_nil
            rw [release_of_attended (.inr none)]
            exact ⟨[], .rests (.inr none)⟩
        | cons request rest =>
            have fewer : (s.takeUp request rest).pending.length < number := by
              have all := s.releaseOrder_perm.length_eq
              rw [order, List.length_cons, waiting] at all
              rw [takeUp_pending]
              omega
            obtain ⟨called, goesOn⟩ := ih _ fewer (s.takeUp request rest) rfl
            rw [← release_takeUp free order]
            by_cases ended : (({ s with pending := rest }.note
                (.releasing request.runner request.node request.sequence)).beginNode
                  request.runner request.node).1 = .ended
            · have settled : Runs .release (s.takeUp request rest).release [] (s.takeUp request rest).release :=
                .rests (release_attended _)
              exact ⟨_, .takes free order (.passes ended goesOn) settled⟩
            · exact ⟨_, .takes free order (.starts ended) goesOn⟩

/-- Every call comes to its end. -/
theorem exists_runs (errand : Errand) (s : Scene) : ∃ called, Runs errand s called (errand.result s) := by
  cases errand with
  | start runner node =>
      change ∃ called, Runs (.start runner node) s called (s.startNode runner node).2
      by_cases ended : (s.beginNode runner node).1 = .ended
      · obtain ⟨called, goesOn⟩ := exists_release (s.beginNode runner node).2
        rw [startNode_of_ended ended]
        exact ⟨_, .passes ended goesOn⟩
      · rw [startNode_of_not_ended ended]
        exact ⟨_, .starts ended⟩
  | finish rewards =>
      change ∃ called, Runs (.finish rewards) s called (s.finishActive rewards)
      rcases Option.eq_none_or_eq_some s.active with free | ⟨⟨runner, node⟩, active⟩
      · rw [finishActive_of_free free]
        exact ⟨[], .lapses free⟩
      · obtain ⟨called, goesOn⟩ := exists_release (s.close runner node rewards)
        rw [finishActive_of_active active]
        exact ⟨called, .closes active goesOn⟩
  | release => exact exists_release s

end Errand

end Plotline.Scene
