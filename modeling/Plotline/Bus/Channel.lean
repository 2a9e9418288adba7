import Plotline.Log.Journal

/-!
The bus together with the journal: every operation on the bus leaves its note.
-/

namespace Plotline

structure Channel where
  bus : Bus := { attached := true }
  journal : Journal := []
  deriving DecidableEq, Repr

namespace Channel

def note (n : Note) (ch : Channel) : Channel := { ch with journal := ch.journal.note n }

def cue (c : Cue) (ch : Channel) : Channel := { ch with journal := ch.journal.cue c }

def subscribe (topic : Topic) (listener : Listener) (ch : Channel) : SubscriptionId × Channel :=
  let (id, bus) := ch.bus.subscribe topic listener
  (id, { bus, journal := ch.journal.note (.subscribed id topic listener) })

def unsubscribe (id : SubscriptionId) (ch : Channel) : Channel :=
  if ch.bus.holds id then { bus := ch.bus.unsubscribe id, journal := ch.journal.note (.unsubscribed id) } else ch

def unsubscribeAll (ids : List SubscriptionId) (ch : Channel) : Channel :=
  ids.foldl (fun ch id => ch.unsubscribe id) ch

/-- Puts the event into the queue of an attached bus. -/
def tryPublish (event : StoryEvent) (ch : Channel) : Except SceneError Channel :=
  if ch.bus.attached then
    .ok { bus := ch.bus.enqueue event, journal := ch.journal.note (.published event) }
  else .error .busDetached

/-- An event for a bus that is not attached is lost. -/
def publish (event : StoryEvent) (ch : Channel) : Channel :=
  match ch.tryPublish event with
  | .ok ch => ch
  | .error _ => ch.note (.dropped event.topic)

def publishAll (events : List StoryEvent) (ch : Channel) : Channel :=
  events.foldl (fun ch event => ch.publish event) ch

def takeBatch (ch : Channel) : List StoryEvent × Channel :=
  let (events, bus) := ch.bus.takeBatch
  (events, { ch with bus })

/-- Delivers the event to a subscription that is still there. An observer is told at once. -/
def route (id : SubscriptionId) (event : StoryEvent) (ch : Channel) : Option Route × Channel :=
  match ch.bus.find? id with
  | none => (none, ch)
  | some subscription =>
    match subscription.listener.route? with
    | some route => (some route, ch)
    | none => (none, { ch with journal := .observed id event :: ch.journal })

def flush (ch : Channel) : Journal × Channel := (ch.journal, { ch with journal := [] })

end Channel

end Plotline
