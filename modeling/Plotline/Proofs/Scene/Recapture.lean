import Plotline.Proofs.Runner.Recapture
import Plotline.Proofs.Scene.Perform

/-!
A scene that takes its own capture over, while the policy keeps what is in progress. Nothing changes but that the log
says so and that requests of nodes that have started by now are dropped.
-/

namespace Plotline.Scene

variable {s : Scene}

/-- The scene after it has made these notes. -/
def noted (notes : List Note) (s : Scene) : Scene :=
  { s with channel := { s.channel with journal := s.channel.journal.notes notes } }

/-- What the log says of a runner that takes its own capture over. -/
def recaptured (r : Runner) : Note := .restored r.id r.capture.nodes.length 0

private theorem restoreEntry_capture {x : Runner} (owned : s.Owned) (keeps : s.settings.restorePolicy = .keep)
    (member : x ∈ s.runners) (ready : List (RunnerId × NodeId)) :
    restoreEntry (ready, s) x.capture = (ready, s.note (recaptured x)) := by
  have found : s.runner? x.capture.runner = some x := owned x member
  unfold restoreEntry
  dsimp only
  rw [found]
  dsimp only
  rw [keeps, Runner.restore_records x.capture_records]
  dsimp only
  rw [List.map_nil, List.append_nil, putRunner_self owned found]
  rfl

theorem restoreEntries_capture (saved : List Runner) (owned : s.Owned)
    (keeps : s.settings.restorePolicy = .keep) (members : ∀ x ∈ saved, x ∈ s.runners)
    (ready : List (RunnerId × NodeId)) :
    (saved.map (·.capture)).foldl restoreEntry (ready, s) = (ready, s.noted (saved.map recaptured)) := by
  induction saved generalizing s with
  | nil => rfl
  | cons x saved ih =>
      have first := restoreEntry_capture owned keeps (members x List.mem_cons_self) ready
      have others := ih (s := s.note (recaptured x)) owned keeps fun y later =>
        members y (List.mem_cons_of_mem x later)
      rw [List.map_cons, List.foldl_cons, first, others]
      rfl

theorem release_of_idle (idle : s.pending = []) : s.release = s := by
  obtain ⟨settings, stage, interpreter, channel, runners, pending, nextSequence, active, kickstarted⟩ := s
  cases idle
  unfold release
  split
  · rfl
  · rfl

/-- The request is for a node that has not started. -/
def Outstanding (s : Scene) (request : Request) : Prop :=
  s.statusOf? request.runner request.node = some .notStarted

instance (s : Scene) : DecidablePred s.Outstanding := fun _ => inferInstanceAs (Decidable (_ = _))

/-- While a node is active or no request waits, a scene that takes its own capture over stays as it is: statuses and
latches of its runners, queue and subscriptions of the bus, interpreter and active node. Nothing is shown on the stage,
published or requested; the journal gains one note for each runner, and of the requests those that are outstanding go
on waiting in their order. -/
theorem restore_own_capture (reached : Reached (fun _ _ => True) s) (keeps : s.settings.restorePolicy = .keep)
    (settled : s.isEventRunning = true ∨ s.pending = []) :
    s.restore s.capture =
      { s with
        pending := s.pending.filter fun request => s.Outstanding request
        channel := { s.channel with journal := s.channel.journal.notes (s.runners.map recaptured) } } := by
  have coherent : s.Coherent :=
    reached.keeps (fun settings stage => (empty_sound settings stage).toCoherent) fun op s _ => perform_coherent op s
  have taken := restoreEntries_capture s.runners coherent.owned keeps (fun _ member => member) []
  unfold restore capture
  rw [taken]
  dsimp only [List.foldl_nil]
  rcases settled with busy | idle
  · exact if_pos busy
  · apply release_of_idle
    exact (congrArg (List.filter _) idle).trans List.filter_nil

/-- A keeper of two nodes, one of which is listed twice, and the other opens by two conditions. -/
private def keeper : Runner :=
  .ofDefinition
    { id := ⟨"keeper"⟩
      storyboard :=
        { name := ⟨"castle"⟩
          nodes :=
            [{ id := ⟨"hall"⟩, program := { instructions := [.dialogue "K" "Who is there?" none] } },
             { id := ⟨"hall"⟩, isRepeatable := true },
             { id := ⟨"vault"⟩
               conditions := [{ kind := .areaEntered "hall" }, { kind := .interactionTriggered "lever" }] }] } }

theorem keeper_restore_own_capture : ∃ s, Reached (fun _ _ => True) s ∧ s.settings.restorePolicy = .keep ∧
    s.active = some (⟨"keeper"⟩, ⟨"hall"⟩) ∧ s.pending = [⟨⟨"keeper"⟩, ⟨"vault"⟩, 0⟩] ∧
      s.capture.map (·.nodes.map (·.status)) = [[.inProgress, .inProgress, .notStarted]] ∧
      s.restore s.capture =
        { s with
          pending := s.pending.filter fun request => s.Outstanding request
          channel := { s.channel with journal := s.channel.journal.notes (s.runners.map recaptured) } } := by
  let ops : List Operation :=
    [.register keeper, .trigger ⟨"keeper"⟩ ⟨"hall"⟩, .trigger ⟨"keeper"⟩ ⟨"vault"⟩, .publish (.areaEntered "hall"),
      .tick 0]
  have reached : Reached (fun _ _ => True) (run ops (empty {} .instant)) :=
    ⟨{}, .instant, ops, obeys_of_forall ops _ fun _ _ => trivial, rfl⟩
  refine ⟨_, reached, rfl, rfl, rfl, rfl, ?_⟩
  exact restore_own_capture reached rfl (.inl rfl)

end Plotline.Scene
