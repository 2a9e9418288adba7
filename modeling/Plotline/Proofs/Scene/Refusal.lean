import Plotline.Proofs.Bus.Echo
import Plotline.Proofs.Scene.Perform

/-!
Operations that are refused. Each refusal has one of a few causes, and wherever there is such a cause the operation is
refused; the scene then stays as it is, except that its log may say so.
-/

namespace Plotline.Scene

/-- What the host is told of an operation. -/
def Operation.answer : Operation → Scene → Except SceneError Unit
  | register r, s => (s.register r).1
  | unregister id, s => (s.unregister id).1.map fun _ => ()
  | continueInput, s => s.continueInput.map fun _ => ()
  | selectChoice index, s => (s.selectChoice index).map fun _ => ()
  | trigger runner node, s => (s.trigger runner node).map fun _ => ()
  | _, _ => .ok ()

/-- The cause for which a scene refuses an operation, with the error that it answers and what the log says of it. -/
inductive Refusal (s : Scene) : Operation → SceneError → List Note → Prop
  | alreadyRegistered {r x : Runner} (member : x ∈ s.runners) (same : x.id = r.id) :
      Refusal s (.register r) (.duplicateRunner r.id) [.registeredTwice r.id]
  | notRegistered {id : RunnerId} (unknown : ∀ x ∈ s.runners, x.id ≠ id) :
      Refusal s (.unregister id) (.unknownRunner id) [.unregisterOfUnknown id]
  | executing {id : RunnerId} {node : NodeId} (active : s.active = some (id, node)) :
      Refusal s (.unregister id) (.runnerBusy id node) [.unregisterOfBusy id node]
  | noRunner {runner : RunnerId} {node : NodeId} (unknown : ∀ x ∈ s.runners, x.id ≠ runner) :
      Refusal s (.trigger runner node) (.unknownRunner runner) []
  | noNode {x : Runner} {node : NodeId} (member : x ∈ s.runners) (unknown : x.contains node = false) :
      Refusal s (.trigger x.id node) (.unknownNode x.id node) []
  | noInputAwaited (free : s.interpreter.waitingForInput = false) : Refusal s .continueInput (.notWaiting .input) []
  | noChoiceOpen {index : Nat} (free : s.interpreter.options? = none) :
      Refusal s (.selectChoice index) (.notWaiting .choice) []
  | noSuchOption {index : Nat} {options : List ChoiceOption} (isOpen : s.interpreter.options? = some options)
      (beyond : options.length ≤ index) :
      Refusal s (.selectChoice index) (.invalidChoice index options.length) []

/-- The scene with more in its log. -/
def remarked (s : Scene) (log : List Note) : Scene :=
  { s with channel := { s.channel with journal := s.channel.journal.notes log } }

variable {s : Scene} {op : Operation} {error : SceneError} {log : List Note}

theorem runner?_eq_none {id : RunnerId} (unknown : ∀ x ∈ s.runners, x.id ≠ id) : s.runner? id = none :=
  List.find?_eq_none.mpr fun x member => by simpa using unknown x member

/-- What the log says of a refusal makes no event known. -/
theorem Refusal.remarks (refusal : s.Refusal op error log) : ∀ n ∈ log, (Entry.note n).isRemark = true := by
  cases refusal <;> simp [Entry.isRemark]

/-- Wherever there is cause, the operation is refused, and nothing else comes of it. -/
theorem Refusal.refused (coherent : s.Coherent) (refusal : s.Refusal op error log) :
    op.answer s = .error error ∧ op.perform s = s.remarked log := by
  cases refusal with
  | @alreadyRegistered r x member same =>
      have found : s.runner? r.id = some x := same ▸ coherent.owned x member
      have result : s.register r = (.error (.duplicateRunner r.id), s.note (.registeredTwice r.id)) := by
        unfold register
        rw [found]
      exact ⟨congrArg Prod.fst result, congrArg Prod.snd result⟩
  | @notRegistered id unknown =>
      have result : s.unregister id = (.error (.unknownRunner id), s.note (.unregisterOfUnknown id)) := by
        unfold unregister
        rw [runner?_eq_none unknown]
      exact ⟨congrArg (·.1.map fun _ => ()) result, congrArg Prod.snd result⟩
  | @executing id node active =>
      obtain ⟨x, found⟩ := coherent.found active
      have busy : s.active.filter (·.1 = id) = some (id, node) := by simp [active]
      have result : s.unregister id = (.error (.runnerBusy id node), s.note (.unregisterOfBusy id node)) := by
        unfold unregister
        rw [found]
        dsimp only
        rw [busy]
      exact ⟨congrArg (·.1.map fun _ => ()) result, congrArg Prod.snd result⟩
  | @noRunner runner node unknown =>
      have result : s.trigger runner node = .error (.unknownRunner runner) := by
        unfold trigger
        rw [runner?_eq_none unknown]
      exact ⟨congrArg (·.map fun _ => ()) result, congrArg (·.toOption.getD s) result⟩
  | @noNode x node member unknown =>
      have result : s.trigger x.id node = .error (.unknownNode x.id node) := by
        unfold trigger
        rw [coherent.owned x member]
        dsimp only
        rw [unknown]
        rfl
      exact ⟨congrArg (·.map fun _ => ()) result, congrArg (·.toOption.getD s) result⟩
  | noInputAwaited free =>
      have result : s.continueInput = .error (.notWaiting .input) := by
        unfold continueInput Interpreter.continueInput
        rw [free]
        rfl
      exact ⟨congrArg (·.map fun _ => ()) result, congrArg (·.toOption.getD s) result⟩
  | @noChoiceOpen index free =>
      have result : s.selectChoice index = .error (.notWaiting .choice) := by
        unfold selectChoice Interpreter.selectChoice
        rw [free]
        rfl
      exact ⟨congrArg (·.map fun _ => ()) result, congrArg (·.toOption.getD s) result⟩
  | @noSuchOption index options isOpen beyond =>
      have result : s.selectChoice index = .error (.invalidChoice index options.length) := by
        unfold selectChoice Interpreter.selectChoice
        rw [isOpen]
        dsimp only
        rw [List.getElem?_eq_none beyond]
        rfl
      exact ⟨congrArg (·.map fun _ => ()) result, congrArg (·.toOption.getD s) result⟩

/-! ### No refusal without cause -/

private theorem register_cause {r : Runner} (refused : (s.register r).1 = .error error) :
    ∃ log, s.Refusal (.register r) error log := by
  unfold register at refused
  split at refused
  · rename_i x found
    cases refused
    exact ⟨_, .alreadyRegistered (List.mem_of_find?_eq_some found) (id_of_runner? found)⟩
  · cases refused

private theorem unregister_cause {id : RunnerId} (refused : (s.unregister id).1.map (fun _ => ()) = .error error) :
    ∃ log, s.Refusal (.unregister id) error log := by
  unfold unregister at refused
  split at refused
  · rename_i missing
    cases refused
    exact ⟨_, .notRegistered (ne_of_runner?_none missing)⟩
  · split at refused
    · rename_i current node busy
      cases refused
      obtain ⟨active, same⟩ := Option.filter_eq_some_iff.mp busy
      obtain rfl : current = id := by simpa using same
      exact ⟨_, .executing active⟩
    · cases refused

private theorem trigger_cause {runner : RunnerId} {node : NodeId}
    (refused : (s.trigger runner node).map (fun _ => ()) = .error error) :
    ∃ log, s.Refusal (.trigger runner node) error log := by
  unfold trigger at refused
  split at refused
  · rename_i missing
    cases refused
    exact ⟨_, .noRunner (ne_of_runner?_none missing)⟩
  · rename_i x found
    split at refused
    · cases refused
    · rename_i unknown
      obtain rfl := id_of_runner? found
      cases refused
      exact ⟨_, .noNode (List.mem_of_find?_eq_some found) (by simpa using unknown)⟩

private theorem continueInput_cause (refused : s.continueInput.map (fun _ => ()) = .error error) :
    ∃ log, s.Refusal .continueInput error log := by
  unfold continueInput Interpreter.continueInput at refused
  split at refused
  · cases refused
  · rename_i free
    cases refused
    exact ⟨_, .noInputAwaited (by simpa using free)⟩

private theorem selectChoice_cause {index : Nat}
    (refused : (s.selectChoice index).map (fun _ => ()) = .error error) :
    ∃ log, s.Refusal (.selectChoice index) error log := by
  unfold selectChoice Interpreter.selectChoice at refused
  split at refused
  · rename_i free
    cases refused
    exact ⟨_, .noChoiceOpen free⟩
  · rename_i options isOpen
    split at refused
    · rename_i missing
      cases refused
      exact ⟨_, .noSuchOption isOpen (List.getElem?_eq_none_iff.mp missing)⟩
    · cases refused

/-- No operation is refused without cause. -/
theorem refusal_of_error (refused : op.answer s = .error error) : ∃ log, s.Refusal op error log := by
  cases op with
  | register r => exact register_cause refused
  | unregister id => exact unregister_cause refused
  | continueInput => exact continueInput_cause refused
  | selectChoice index => exact selectChoice_cause refused
  | trigger runner node => exact trigger_cause refused
  | _ => cases refused

/-- An operation is refused exactly if there is cause for it. Then runners, bus, requests, active node, interpreter and
all that the stage and the observers have been told stay as they are: what the log says of it is all that is new. -/
theorem refused_unchanged (reached : Reached (fun _ _ => True) s) (op : Operation) (error : SceneError) :
    (op.answer s = .error error ↔ ∃ log, s.Refusal op error log) ∧
      ∀ log, s.Refusal op error log →
        op.perform s = s.remarked log ∧ ∀ n ∈ log, (Entry.note n).isRemark = true := by
  constructor
  · constructor
    · exact refusal_of_error
    · rintro ⟨log, refusal⟩
      exact (refusal.refused reached.coherent).1
  · intro log refusal
    exact ⟨(refusal.refused reached.coherent).2, refusal.remarks⟩

/-- The guard cannot leave while he walks his round. -/
theorem sentry_refused_unchanged : ∃ s, Reached (fun _ _ => True) s ∧
    s.Refusal (.unregister ⟨"guard"⟩) (.runnerBusy ⟨"guard"⟩ ⟨"round"⟩) [.unregisterOfBusy ⟨"guard"⟩ ⟨"round"⟩] ∧
      (Operation.unregister ⟨"guard"⟩).answer s = .error (.runnerBusy ⟨"guard"⟩ ⟨"round"⟩) ∧
        (Operation.unregister ⟨"guard"⟩).perform s = s.remarked [.unregisterOfBusy ⟨"guard"⟩ ⟨"round"⟩] := by
  let ops : List Operation := [.register sentry, .tick 0]
  have reached : Reached (fun _ _ => True) (run ops (empty {} .instant)) := reached_run ops {} .instant
  have busy : (run ops (empty {} .instant)).Refusal (.unregister ⟨"guard"⟩) (.runnerBusy ⟨"guard"⟩ ⟨"round"⟩)
      [.unregisterOfBusy ⟨"guard"⟩ ⟨"round"⟩] := .executing rfl
  have refused := refused_unchanged reached (.unregister ⟨"guard"⟩) (.runnerBusy ⟨"guard"⟩ ⟨"round"⟩)
  exact ⟨_, reached, busy, refused.1.mpr ⟨_, busy⟩, (refused.2 _ busy).1⟩

end Plotline.Scene
