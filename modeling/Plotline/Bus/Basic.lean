import Plotline.Story.Condition

/-!
The bus. Published events wait in a queue until a batch of them is taken; each then goes to the subscriptions
on its topic, in the order in which they were made.
-/

namespace Plotline

inductive Listener
  | condition (key : ConditionKey)
  | runner (id : RunnerId)
  | observer
  deriving DecidableEq, Repr

/-- Where an event is to be brought; observers take it from the bus themselves. -/
inductive Route
  | condition (key : ConditionKey)
  | runner (id : RunnerId)
  deriving DecidableEq, Repr

namespace Listener

def route? : Listener → Option Route
  | condition key => some (.condition key)
  | runner id => some (.runner id)
  | observer => none

def shown : Listener → String
  | condition key => Text.shownTuple "Condition" [key.shown]
  | runner id => Text.shownTuple "Runner" [id.shown]
  | observer => "Observer(..)"

end Listener

structure Subscription where
  id : SubscriptionId
  topic : Topic
  listener : Listener
  deriving DecidableEq, Repr

/-- Subscriptions are kept in the order of their handles. A bus that is not attached takes no events. -/
structure Bus where
  subscriptions : List Subscription := []
  queue : List StoryEvent := []
  nextId : Nat := 0
  attached : Bool := false
  deriving DecidableEq, Repr

namespace Bus

def attach (bus : Bus) : Bus := { bus with attached := true }

def subscribe (topic : Topic) (listener : Listener) (bus : Bus) : SubscriptionId × Bus :=
  (⟨bus.nextId⟩,
    { bus with
      subscriptions := bus.subscriptions ++ [⟨⟨bus.nextId⟩, topic, listener⟩]
      nextId := bus.nextId + 1 })

def holds (bus : Bus) (id : SubscriptionId) : Bool := bus.subscriptions.any (·.id = id)

def unsubscribe (id : SubscriptionId) (bus : Bus) : Bus :=
  { bus with subscriptions := bus.subscriptions.filter (·.id ≠ id) }

def enqueue (event : StoryEvent) (bus : Bus) : Bus := { bus with queue := bus.queue ++ [event] }

def takeBatch (bus : Bus) : List StoryEvent × Bus := (bus.queue, { bus with queue := [] })

def subscribersOf (bus : Bus) (topic : Topic) : List SubscriptionId :=
  (bus.subscriptions.filter (·.topic = topic)).map (·.id)

def find? (bus : Bus) (id : SubscriptionId) : Option Subscription := bus.subscriptions.find? (·.id = id)

def shown (bus : Bus) : String :=
  Text.shownRecord "EventBus"
    [("subscriptions", toString bus.subscriptions.length), ("queued", toString bus.queue.length),
      ("attached", toString bus.attached)]

end Bus

end Plotline
