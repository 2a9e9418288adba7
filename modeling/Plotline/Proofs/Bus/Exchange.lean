import Mathlib.Data.List.Induction
import Plotline.Proofs.Bus.Subscription

/-!
A bus in use. Whoever holds it subscribes, unsubscribes and publishes at any time, and drains it one delivery after the
other. What happens is written down, in order.
-/

namespace Plotline

/-- What the holder of a bus can do next. -/
inductive Move
  | attach
  | subscribe (topic : Topic) (listener : Listener)
  | unsubscribe (id : SubscriptionId)
  | publish (event : StoryEvent)
  | tryPublish (event : StoryEvent)
  /-- A batch is taken, unless there is something left of the last one. -/
  | drain
  /-- The next delivery of the event whose turn it is; after the last one it is the next event's turn. -/
  | advance
  deriving DecidableEq, Repr

inductive Happening
  | subscribed (x : Subscription)
  | unsubscribed (id : SubscriptionId)
  /-- The event was published to a bus that is attached. -/
  | published (event : StoryEvent)
  | batch (events : List StoryEvent)
  | turn (event : StoryEvent)
  /-- The event was to be delivered to the subscription, which received it or not. -/
  | called (id : SubscriptionId) (event : StoryEvent) (received : Bool)
  deriving DecidableEq, Repr

abbrev History := List Happening

namespace Channel

/-- The event is handed on to the listener of the subscription, or shown to an observer on the spot. -/
def reaches (id : SubscriptionId) (event : StoryEvent) (ch : Channel) : Bool :=
  (ch.route id event).1.isSome || decide ((ch.route id event).2.journal = .observed id event :: ch.journal)

theorem reaches_eq_holds (id : SubscriptionId) (event : StoryEvent) (ch : Channel) :
    ch.reaches id event = ch.bus.holds id := by
  have held : ch.bus.holds id = (ch.bus.find? id).isSome := List.isSome_find?.symm
  rw [held, Bool.eq_iff_iff, reaches, Bool.or_eq_true, decide_eq_true_eq]
  unfold route
  cases ch.bus.find? id with
  | none => simp
  | some x =>
      dsimp only
      cases x.listener.route? <;> simp

@[simp] theorem route_bus (id : SubscriptionId) (event : StoryEvent) (ch : Channel) :
    (ch.route id event).2.bus = ch.bus := by
  unfold route
  split
  · rfl
  · split <;> rfl

end Channel

/-- A bus, what is left of the batch that is being delivered, and the deliveries that the event whose turn it is has
still to make. -/
structure Exchange where
  channel : Channel := { bus := {} }
  due : List StoryEvent := []
  calls : List (SubscriptionId × StoryEvent) := []
  deriving DecidableEq, Repr

def Move.perform : Move → Exchange → History × Exchange
  | attach, x => ([], { x with channel := { x.channel with bus := x.channel.bus.attach } })
  | subscribe topic listener, x =>
    let (id, channel) := x.channel.subscribe topic listener
    ([.subscribed ⟨id, topic, listener⟩], { x with channel })
  | unsubscribe id, x => ([.unsubscribed id], { x with channel := x.channel.unsubscribe id })
  | publish event, x =>
    (if x.channel.bus.attached then [.published event] else [], { x with channel := x.channel.publish event })
  | tryPublish event, x =>
    (if x.channel.bus.attached then [.published event] else [],
      match x.channel.tryPublish event with
      | .ok channel => { x with channel }
      | .error _ => x)
  | drain, x =>
    if x.due = [] ∧ x.calls = [] then
      let (events, channel) := x.channel.takeBatch
      ([.batch events], { x with channel, due := events })
    else ([], x)
  | advance, x =>
    match x.calls, x.due with
    | (id, event) :: calls, _ =>
      ([.called id event (x.channel.reaches id event)], { x with channel := (x.channel.route id event).2, calls })
    | [], event :: due =>
      ([.turn event], { x with due, calls := (x.channel.bus.subscribersOf event.topic).map (·, event) })
    | [], [] => ([], x)

/-- The next batch comes when nothing is left of the last one, and the next turn when no delivery is left of the last
one. -/
def Happening.InTurn (x : Exchange) : Happening → Prop
  | batch events => x.due = [] ∧ x.calls = [] ∧ events = x.channel.bus.queue
  | turn _ => x.calls = []
  | _ => True

/-- It is the next event's turn, or another batch is taken. -/
def Happening.endsTurn : Happening → Bool
  | batch _ | turn _ => true
  | _ => false

theorem Happening.InTurn.calls {x : Exchange} {happening : Happening} (inTurn : happening.InTurn x)
    (ends : happening.endsTurn = true) : x.calls = [] := by
  cases happening with
  | batch events => exact inTurn.2.1
  | turn event => exact inTurn
  | _ => cases ends

namespace Exchange

/-- All that happens from a new bus on, and what it leads to. -/
def run (moves : List Move) : History × Exchange :=
  moves.foldl (fun (past, x) move => (past ++ (move.perform x).1, (move.perform x).2)) ([], {})

theorem run_snoc (moves : List Move) (move : Move) :
    run (moves ++ [move]) =
      ((run moves).1 ++ (move.perform (run moves).2).1, (move.perform (run moves).2).2) := by
  simp [run]

/-- What every move keeps holds of every run. -/
theorem run_keeps {kept : History → Exchange → Prop} (start : kept [] {})
    (step : ∀ past x move, kept past x → kept (past ++ (Move.perform move x).1) (Move.perform move x).2)
    (moves : List Move) : kept (run moves).1 (run moves).2 := by
  induction moves using List.reverseRecOn with
  | nil => exact start
  | append_singleton moves move ih =>
      rw [run_snoc]
      exact step _ _ move ih

/-- At most one thing happens at a time, and none out of turn. -/
theorem perform_once (move : Move) (x : Exchange) :
    (move.perform x).1 = [] ∨ ∃ happening : Happening, (move.perform x).1 = [happening] ∧ happening.InTurn x := by
  cases move with
  | attach => exact .inl rfl
  | subscribe topic listener => exact .inr ⟨_, rfl, trivial⟩
  | unsubscribe id => exact .inr ⟨_, rfl, trivial⟩
  | publish event | tryPublish event =>
      dsimp only [Move.perform]
      split
      · exact .inr ⟨_, rfl, trivial⟩
      · exact .inl rfl
  | drain =>
      dsimp only [Move.perform]
      split
      · rename_i done
        exact .inr ⟨_, rfl, done.1, done.2, rfl⟩
      · exact .inl rfl
  | advance =>
      dsimp only [Move.perform]
      split
      · exact .inr ⟨_, rfl, trivial⟩
      · exact .inr ⟨_, rfl, ‹_›⟩
      · exact .inl rfl

/-- What has happened before anything that happens in a run has happened in a run that ends there. -/
theorem run_moment {moves : List Move} {past later : History} {happening : Happening}
    (happens : (run moves).1 = past ++ happening :: later) :
    ∃ early, (run early).1 = past ∧ happening.InTurn (run early).2 := by
  induction moves using List.reverseRecOn generalizing later with
  | nil => cases past <;> cases happens
  | append_singleton moves move ih =>
      rw [run_snoc] at happens
      rcases perform_once move (run moves).2 with none | ⟨last, one, inTurn⟩
      · rw [none, List.append_nil] at happens
        exact ih happens
      · rw [one] at happens
        rcases List.eq_nil_or_concat later with rfl | ⟨rest, other, rfl⟩
        · obtain ⟨same, last⟩ := List.append_inj' happens rfl
          cases last
          exact ⟨moves, same, inTurn⟩
        · rw [List.concat_eq_append, ← List.cons_append, ← List.append_assoc] at happens
          exact ih (List.append_inj' happens rfl).1

end Exchange

end Plotline
