import Mathlib.Data.List.Nodup
import Plotline.Proofs.Bus.Exchange
import Plotline.Proofs.Bus.Growth

/-!
Delivery by a bus. What was published is taken in that order and each event has its turn once; in its turn it goes once to
each subscription that was there on its topic, unless that is removed before it is reached. What is published during a
drain waits for the next one.
-/

namespace Plotline

namespace History

def published (past : History) : List StoryEvent :=
  past.filterMap fun
    | .published event => some event
    | _ => none

def batches (past : History) : List (List StoryEvent) :=
  past.filterMap fun
    | .batch events => some events
    | _ => none

def turns (past : History) : List StoryEvent :=
  past.filterMap fun
    | .turn event => some event
    | _ => none

def subscribed (past : History) : List Subscription :=
  past.filterMap fun
    | .subscribed x => some x
    | _ => none

/-- The deliveries that were attempted, in order. -/
def called (past : History) : List (SubscriptionId × StoryEvent) :=
  past.filterMap fun
    | .called id event _ => some (id, event)
    | _ => none

def received (past : History) : List (SubscriptionId × StoryEvent) :=
  past.filterMap fun
    | .called id event true => some (id, event)
    | _ => none

/-- The subscriptions that were made and not removed since, in the order in which they were made. -/
def live (past : History) : List Subscription :=
  past.foldl
    (fun live happening =>
      match happening with
      | .subscribed x => live ++ [x]
      | .unsubscribed id => live.filter (·.id ≠ id)
      | _ => live)
    []

/-- The deliveries that an event has to make if its turn comes after this past. -/
def addressees (past : History) (event : StoryEvent) : List (SubscriptionId × StoryEvent) :=
  ((live past).filter (·.topic = event.topic)).map fun x => (x.id, event)

/-- The subscription is removed before any delivery to it is attempted. -/
def removesFirst (id : SubscriptionId) : History → Bool
  | [] => false
  | .unsubscribed other :: rest => other = id || removesFirst id rest
  | .called other _ _ :: rest => other ≠ id && removesFirst id rest
  | _ :: rest => removesFirst id rest

/-- Among all subscriptions ever made no two have the same handle. -/
def Distinct (past : History) : Prop := ((subscribed past).map (·.id)).Nodup

section Append

variable (past later : History) (happening : Happening)

@[simp] theorem published_append : published (past ++ later) = published past ++ published later :=
  List.filterMap_append

@[simp] theorem batches_append : batches (past ++ later) = batches past ++ batches later := List.filterMap_append

@[simp] theorem turns_append : turns (past ++ later) = turns past ++ turns later := List.filterMap_append

@[simp] theorem subscribed_append : subscribed (past ++ later) = subscribed past ++ subscribed later :=
  List.filterMap_append

@[simp] theorem called_append : called (past ++ later) = called past ++ called later := List.filterMap_append

@[simp] theorem received_append : received (past ++ later) = received past ++ received later := List.filterMap_append

theorem live_snoc : live (past ++ [happening]) =
    match happening with
    | .subscribed x => live past ++ [x]
    | .unsubscribed id => (live past).filter (·.id ≠ id)
    | _ => live past := by
  simp only [live, List.foldl_append, List.foldl_cons, List.foldl_nil]

theorem live_sublist : (live past).Sublist (subscribed past) := by
  induction past using List.reverseRecOn with
  | nil => exact List.nil_sublist _
  | append_singleton past happening ih =>
      rw [live_snoc, subscribed_append]
      cases happening with
      | subscribed x => exact ih.append (.refl _)
      | unsubscribed id => exact (List.filter_sublist.trans ih).trans (List.sublist_append_left _ _)
      | _ => exact ih.trans (List.sublist_append_left _ _)

end Append

variable {past later : History} {id : SubscriptionId} {event : StoryEvent}

theorem Distinct.of_append (distinct : Distinct (past ++ later)) : Distinct past := by
  unfold Distinct at distinct
  rw [subscribed_append, List.map_append] at distinct
  exact (List.nodup_append.mp distinct).1

theorem addressees_nodup (distinct : Distinct past) (event : StoryEvent) : ((addressees past event).map (·.1)).Nodup := by
  have ids : (addressees past event).map (·.1) = ((live past).filter (·.topic = event.topic)).map (·.id) := by
    simp [addressees]
  rw [ids]
  exact distinct.sublist ((List.filter_sublist.trans (live_sublist past)).map _)

theorem mem_live_of_addressees {call : SubscriptionId × StoryEvent} (addressed : call ∈ addressees past event) :
    call.1 ∈ (live past).map (·.id) ∧ call.2 = event := by
  obtain ⟨x, there, rfl⟩ := List.mem_map.mp addressed
  exact ⟨List.mem_map_of_mem (List.mem_of_mem_filter there), rfl⟩

/-- A subscription stays until it is removed: its handle is not used again. -/
theorem mem_live_append (distinct : Distinct (past ++ later)) (there : id ∈ (live past).map (·.id)) :
    id ∈ (live (past ++ later)).map (·.id) ↔ .unsubscribed id ∉ later := by
  induction later using List.reverseRecOn with
  | nil => simpa using there
  | append_singleton later happening ih =>
      rw [← List.append_assoc] at distinct ⊢
      have ih := ih distinct.of_append
      rw [live_snoc]
      cases happening with
      | subscribed x =>
          have fresh : id ≠ x.id := by
            have old : id ∈ (subscribed (past ++ later)).map (·.id) := by
              rw [subscribed_append, List.map_append]
              exact List.mem_append_left _ (((live_sublist past).map _).subset there)
            unfold Distinct at distinct
            rw [subscribed_append, List.map_append] at distinct
            exact (List.nodup_append.mp distinct).2.2 id old x.id List.mem_cons_self
          simp [fresh, ih]
      | unsubscribed other =>
          have kept : ((live (past ++ later)).filter (·.id ≠ other)).map (·.id) =
              ((live (past ++ later)).map (·.id)).filter (· ≠ other) := by
            rw [List.filter_map]
            rfl
          dsimp only
          rw [kept, List.mem_filter, ih]
          simp
      | _ => simpa using ih

/-- Nothing that comes after a delivery to a subscription makes a difference to what came first. -/
theorem removesFirst_append_of_called (reached : id ∈ (called past).map (·.1)) :
    removesFirst id (past ++ later) = removesFirst id past := by
  induction past with
  | nil => cases reached
  | cons happening past ih =>
      cases happening with
      | called other event received =>
          by_cases same : other = id
          · simp [removesFirst, same]
          · have reached : id ∈ (called past).map (·.1) := by
              simpa [called, Ne.symm same] using reached
            simp [removesFirst, ih reached]
      | _ =>
          have reached : id ∈ (called past).map (·.1) := reached
          simp [removesFirst, ih reached]

theorem removesFirst_of_uncalled (unreached : id ∉ (called past).map (·.1)) (received : Bool) :
    removesFirst id (past ++ [.called id event received]) = decide (.unsubscribed id ∈ past) := by
  induction past with
  | nil => simp [removesFirst]
  | cons happening past ih =>
      cases happening with
      | called other event received =>
          have others : id ≠ other ∧ id ∉ (called past).map (·.1) := by
            simpa [called] using unreached
          simp [removesFirst, Ne.symm others.1, ih others.2]
      | unsubscribed other =>
          have unreached : id ∉ (called past).map (·.1) := unreached
          simp [removesFirst, ih unreached, eq_comm]
      | _ =>
          have unreached : id ∉ (called past).map (·.1) := unreached
          simp [removesFirst, ih unreached]

/-- Of the event whose turn came last these deliveries are left, and the subscriptions that it was delivered to are the
ones that were still there. -/
def Latest (past : History) (calls : List (SubscriptionId × StoryEvent)) : Prop :=
  ∀ before event during, past = before ++ .turn event :: during → turns during = [] →
    called during ++ calls = addressees before event ∧
      received during = (called during).filter fun call => !removesFirst call.1 during

namespace Latest

variable {before during : History} {happening : Happening} {calls : List (SubscriptionId × StoryEvent)}

/-- Whatever is no turn happens in the latest one. -/
private theorem of_snoc (other : turns [happening] = [])
    (happens : past ++ [happening] = before ++ .turn event :: during) :
    ∃ earlier, during = earlier ++ [happening] ∧ past = before ++ .turn event :: earlier := by
  rcases List.eq_nil_or_concat during with rfl | ⟨earlier, last, rfl⟩
  · obtain ⟨_, same⟩ := List.append_inj' happens rfl
    cases same
    cases other
  · rw [List.concat_eq_append, ← List.cons_append, ← List.append_assoc] at happens
    obtain ⟨same, last⟩ := List.append_inj' happens rfl
    cases last
    exact ⟨earlier, List.concat_eq_append, same⟩

private theorem filter_append (during later : History) :
    ((called during).filter fun call => !removesFirst call.1 (during ++ later)) =
      (called during).filter fun call => !removesFirst call.1 during := by
  refine List.filter_congr ?_
  intro call reached
  rw [removesFirst_append_of_called (List.mem_map_of_mem reached)]

/-- Nothing but a turn or a delivery makes a difference. -/
theorem other (latest : Latest past calls) (noTurn : turns [happening] = []) (noCall : called [happening] = [])
    (noReceipt : received [happening] = []) : Latest (past ++ [happening]) calls := by
  intro before event during happens undisturbed
  obtain ⟨earlier, rfl, rfl⟩ := of_snoc noTurn happens
  rw [turns_append, noTurn, List.append_nil] at undisturbed
  obtain ⟨left, receivers⟩ := latest before event earlier rfl undisturbed
  rw [called_append, received_append, noCall, noReceipt, List.append_nil, List.append_nil, filter_append]
  exact ⟨left, receivers⟩

theorem turn : Latest (past ++ [.turn event]) (addressees past event) := by
  intro before event' during happens undisturbed
  rcases List.eq_nil_or_concat during with rfl | ⟨earlier, last, rfl⟩
  · obtain ⟨rfl, same⟩ := List.append_inj' happens rfl
    cases same
    exact ⟨rfl, rfl⟩
  · rw [List.concat_eq_append, ← List.cons_append, ← List.append_assoc] at happens
    obtain ⟨_, same⟩ := List.append_inj' happens rfl
    cases same
    simp [turns] at undisturbed

/-- A delivery succeeds where the subscription is still there. -/
theorem call (latest : Latest past ((id, event) :: calls)) (distinct : Distinct past) :
    Latest (past ++ [.called id event (decide (id ∈ (live past).map (·.id)))]) calls := by
  intro before event' during happens undisturbed
  obtain ⟨earlier, rfl, rfl⟩ := of_snoc rfl happens
  have undisturbed : turns earlier = [] := by
    rwa [turns_append, show turns [.called id event _] = [] from rfl, List.append_nil] at undisturbed
  obtain ⟨left, receivers⟩ := latest before event' earlier rfl undisturbed
  have addressed : (id, event) ∈ addressees before event' := by
    rw [← left]
    exact List.mem_append_right _ List.mem_cons_self
  have unreached : id ∉ (called earlier).map (·.1) := by
    have nodup := addressees_nodup distinct.of_append event'
    rw [← left, List.map_append] at nodup
    exact fun reached => (List.nodup_append.mp nodup).2.2 id reached id List.mem_cons_self rfl
  have stays : decide (id ∈ (live (before ++ .turn event' :: earlier)).map (·.id)) = !decide (.unsubscribed id ∈ earlier) := by
    have there := mem_live_append distinct (mem_live_of_addressees addressed).1
    simp [there]
  refine ⟨?_, ?_⟩
  · rw [called_append, List.append_assoc]
    exact left
  · rw [called_append, received_append, List.filter_append, filter_append, receivers, stays]
    cases removed : decide (.unsubscribed id ∈ earlier) <;>
      simp [called, received, removesFirst_of_uncalled unreached, removed]

end Latest

end History

namespace Exchange

open History

variable {past : History} {x : Exchange}

/-- What every move keeps. -/
structure Accounts (past : History) (x : Exchange) : Prop where
  queued : (batches past).flatten ++ x.channel.bus.queue = published past
  turned : turns past ++ x.due = (batches past).flatten
  live : live past = x.channel.bus.subscriptions
  numbered : (subscribed past).map (·.id.number) = List.range x.channel.bus.nextId
  latest : Latest past x.calls

theorem Accounts.distinct (accounts : Accounts past x) : Distinct past := by
  have numbers : ((subscribed past).map (·.id.number)).Nodup := accounts.numbered ▸ List.nodup_range
  rw [show (subscribed past).map (·.id.number) = ((subscribed past).map (·.id)).map (·.number) by simp] at numbers
  exact numbers.of_map

theorem Accounts.published (accounts : Accounts past x) (event : StoryEvent) {channel : Channel}
    (bus : channel.bus = x.channel.bus.enqueue event) : Accounts (past ++ [.published event]) { x with channel } where
  queued := by
    rw [batches_append, published_append, ← accounts.queued, bus]
    simp [Bus.enqueue, batches, History.published]
  turned := by simpa [turns, batches] using accounts.turned
  live := by
    rw [live_snoc, bus]
    exact accounts.live
  numbered := by simpa [subscribed, bus, Bus.enqueue] using accounts.numbered
  latest := accounts.latest.other rfl rfl rfl

theorem Accounts.subscribed (accounts : Accounts past x) (topic : Topic) (listener : Listener) :
    Accounts (past ++ [.subscribed ⟨(x.channel.subscribe topic listener).1, topic, listener⟩])
      { x with channel := (x.channel.subscribe topic listener).2 } where
  queued := by simpa [batches, History.published, Channel.subscribe, Bus.subscribe] using accounts.queued
  turned := by simpa [turns, batches] using accounts.turned
  live := by
    rw [live_snoc]
    exact congrArg (· ++ [_]) accounts.live
  numbered := by
    rw [subscribed_append, List.map_append, accounts.numbered]
    exact List.range_succ.symm
  latest := accounts.latest.other rfl rfl rfl

theorem Accounts.unsubscribed (accounts : Accounts past x) (id : SubscriptionId) :
    Accounts (past ++ [.unsubscribed id]) { x with channel := x.channel.unsubscribe id } := by
  have rewired := Channel.unsubscribe_rewired id x.channel
  have sheds := Channel.unsubscribe_sheds id x.channel
  exact
    { queued := by simpa [batches, History.published, rewired.queue] using accounts.queued
      turned := by simpa [turns, batches] using accounts.turned
      live := by
        rw [live_snoc, sheds.subscriptions]
        simp [accounts.live]
      numbered := by simpa [History.subscribed, sheds.nextId] using accounts.numbered
      latest := accounts.latest.other rfl rfl rfl }

theorem Accounts.batch (accounts : Accounts past x) (done : x.due = []) :
    Accounts (past ++ [.batch x.channel.bus.queue])
      { x with channel := x.channel.takeBatch.2, due := x.channel.takeBatch.1 } where
  queued := by
    rw [batches_append, published_append, ← accounts.queued]
    simp [batches, History.published, Channel.takeBatch, Bus.takeBatch]
  turned := by
    have turned := accounts.turned
    rw [done, List.append_nil] at turned
    rw [turns_append, batches_append, turned]
    simp [turns, batches, Channel.takeBatch, Bus.takeBatch]
  live := by
    rw [live_snoc]
    exact accounts.live
  numbered := by simpa [History.subscribed, Channel.takeBatch, Bus.takeBatch] using accounts.numbered
  latest := accounts.latest.other rfl rfl rfl

theorem Accounts.called (accounts : Accounts past x) {id : SubscriptionId} {event : StoryEvent}
    {calls : List (SubscriptionId × StoryEvent)} (next : x.calls = (id, event) :: calls) :
    Accounts (past ++ [.called id event (x.channel.reaches id event)])
      { x with channel := (x.channel.route id event).2, calls } where
  queued := by simpa [batches, History.published] using accounts.queued
  turned := by simpa [turns, batches] using accounts.turned
  live := by
    rw [live_snoc, Channel.route_bus]
    exact accounts.live
  numbered := by simpa [History.subscribed] using accounts.numbered
  latest := by
    have held : x.channel.reaches id event = decide (id ∈ (History.live past).map (·.id)) := by
      rw [Channel.reaches_eq_holds, accounts.live, Bus.holds, Bool.eq_iff_iff, List.any_eq_true, decide_eq_true_eq]
      simp
    rw [held]
    exact Latest.call (next ▸ accounts.latest) accounts.distinct

theorem Accounts.turn (accounts : Accounts past x) {event : StoryEvent} {due : List StoryEvent}
    (next : x.due = event :: due) :
    Accounts (past ++ [.turn event])
      { x with due, calls := (x.channel.bus.subscribersOf event.topic).map (·, event) } where
  queued := by simpa [batches, History.published] using accounts.queued
  turned := by
    have turned := accounts.turned
    rw [next] at turned
    simpa [turns, batches] using turned
  live := by
    rw [live_snoc]
    exact accounts.live
  numbered := by simpa [History.subscribed] using accounts.numbered
  latest := by
    have addressed : (x.channel.bus.subscribersOf event.topic).map (·, event) = addressees past event := by
      simp [Bus.subscribersOf, addressees, accounts.live]
    rw [addressed]
    exact .turn

theorem perform_accounts (past : History) (x : Exchange) (move : Move) (accounts : Accounts past x) :
    Accounts (past ++ (move.perform x).1) (move.perform x).2 := by
  have nothing : Accounts (past ++ []) x := by rwa [List.append_nil]
  cases move with
  | attach => exact { nothing with }
  | subscribe topic listener => exact accounts.subscribed topic listener
  | unsubscribe id => exact accounts.unsubscribed id
  | publish event =>
      dsimp only [Move.perform]
      split
      · rename_i attached
        exact accounts.published event (congrArg Channel.bus (Channel.publish_attached event attached))
      · rename_i detached
        have dropped : x.channel.publish event = x.channel.note (.dropped event.topic) := by
          simp [Channel.publish, Channel.tryPublish, detached]
        rw [dropped]
        exact { nothing with }
  | tryPublish event =>
      dsimp only [Move.perform, Channel.tryPublish]
      split
      · exact accounts.published event rfl
      · exact nothing
  | drain =>
      dsimp only [Move.perform]
      split
      · rename_i done
        exact accounts.batch done.1
      · exact nothing
  | advance =>
      dsimp only [Move.perform]
      split
      · exact accounts.called ‹_›
      · exact accounts.turn ‹_›
      · exact nothing

/-- The delivery of an event in its turn. -/
structure Served (before : History) (event : StoryEvent) (during : History) (complete : Prop) : Prop where
  /-- Only subscriptions that are there on its topic are called, in the order in which they were made. -/
  called : called during <+: addressees before event
  all : complete → History.called during = addressees before event
  received : received during = (History.called during).filter fun call => !removesFirst call.1 during
  once : ((History.received during).map (·.1)).Nodup

/-- The deliveries of a bus, to the end of the past and with what is left to do. -/
structure Faithful (past : History) (x : Exchange) : Prop where
  queued : (batches past).flatten ++ x.channel.bus.queue = published past
  turned : turns past ++ x.due = (batches past).flatten
  distinct : Distinct past
  /-- It goes on until something ends the turn, or has come to its last delivery. -/
  served : ∀ before event during after, past = before ++ .turn event :: (during ++ after) → turns during = [] →
    Served before event during
      ((after = [] ∧ x.calls = []) ∨ ∃ happening later, after = happening :: later ∧ happening.endsTurn = true)
  /-- In a drain only that is delivered which was published before it. -/
  deferred : ∀ before events during after, past = before ++ .batch events :: (during ++ after) → batches during = [] →
    published before = turns before ++ events ∧ turns during <+: events

theorem run_accounts (moves : List Move) : Accounts (run moves).1 (run moves).2 :=
  run_keeps
    { queued := rfl
      turned := rfl
      live := rfl
      numbered := rfl
      latest := fun before _ _ happens => by cases before <;> cases happens }
    perform_accounts moves

/-- A past that comes before something that happens, or before nothing, is the past of a run. -/
theorem run_before {moves : List Move} (past later : History) (happens : (run moves).1 = past ++ later) :
    ∃ early, (run early).1 = past ∧
      ((later = [] ∧ (run moves).2.calls = []) ∨
        (∃ happening rest, later = happening :: rest ∧ happening.endsTurn = true) → (run early).2.calls = []) := by
  cases later with
  | nil =>
      rw [List.append_nil] at happens
      exact ⟨moves, happens, by simp⟩
  | cons happening rest =>
      obtain ⟨early, same, inTurn⟩ := run_moment happens
      refine ⟨early, same, ?_⟩
      rintro (⟨none, _⟩ | ⟨_, _, next, ends⟩)
      · cases none
      · cases next
        exact inTurn.calls ends

/-- Whatever is done meanwhile, the turn of an event is served. -/
theorem run_served {moves : List Move} {before during after : History} {event : StoryEvent}
    (happens : (run moves).1 = before ++ .turn event :: (during ++ after)) (undisturbed : turns during = []) :
    Served before event during
      ((after = [] ∧ (run moves).2.calls = []) ∨
        ∃ happening later, after = happening :: later ∧ happening.endsTurn = true) := by
  obtain ⟨early, same, finished⟩ := run_before (before ++ .turn event :: during) after
    (by rw [happens, List.append_assoc, List.cons_append])
  have accounts := run_accounts early
  obtain ⟨left, receivers⟩ := accounts.latest before event during same undisturbed
  refine ⟨⟨_, left⟩, ?_, receivers, ?_⟩
  · intro complete
    rw [← left, finished complete, List.append_nil]
  · have distinct := accounts.distinct
    rw [same] at distinct
    have nodup := addressees_nodup distinct.of_append event
    rw [← left, List.map_append] at nodup
    rw [receivers]
    exact (List.nodup_append.mp nodup).1.sublist (List.filter_sublist.map _)

/-- A batch is all that was published and has not had its turn, and it has its turns in order. -/
theorem run_deferred {moves : List Move} {before during after : History} {events : List StoryEvent}
    (happens : (run moves).1 = before ++ .batch events :: (during ++ after)) (undisturbed : batches during = []) :
    published before = turns before ++ events ∧ turns during <+: events := by
  obtain ⟨start, sameStart, done, _, queue⟩ := run_moment happens
  have accounts := run_accounts start
  have queued := accounts.queued
  have turned := accounts.turned
  rw [sameStart, ← queue] at queued
  rw [sameStart, done, List.append_nil] at turned
  constructor
  · rw [← queued, turned]
  · obtain ⟨early, same, _⟩ := run_before (before ++ .batch events :: during) after
      (by rw [happens, List.append_assoc, List.cons_append])
    have drained := (run_accounts early).turned
    rw [same, turns_append, batches_append, List.flatten_append, ← turned, List.append_assoc] at drained
    have drained := List.append_cancel_left drained
    have rest : (batches (.batch events :: during)).flatten = events := by
      rw [← List.singleton_append, batches_append, undisturbed]
      simp [batches]
    rw [rest] at drained
    exact ⟨(run early).2.due, drained⟩

/-- Every bus delivers faithfully, whatever is done to it and however that is interleaved with its drains. -/
theorem run_faithful (moves : List Move) : Faithful (run moves).1 (run moves).2 where
  queued := (run_accounts moves).queued
  turned := (run_accounts moves).turned
  distinct := (run_accounts moves).distinct
  served _ _ _ _ happens undisturbed := run_served happens undisturbed
  deferred _ _ _ _ happens undisturbed := run_deferred happens undisturbed

/-- While one bell is rung for three listeners, the second of them goes, another comes, and another bell is rung. -/
example :
    (run
      [.attach, .subscribe .areaEntered .observer, .subscribe .areaEntered .observer,
        .subscribe .areaEntered (.runner ⟨"ringer"⟩), .publish (.areaEntered "tower"), .drain, .advance, .advance,
        .unsubscribe ⟨1⟩, .subscribe .areaEntered .observer, .publish (.areaEntered "gate"), .advance, .advance, .advance,
        .drain]).1.drop 4 =
      [.batch [.areaEntered "tower"], .turn (.areaEntered "tower"), .called ⟨0⟩ (.areaEntered "tower") true,
        .unsubscribed ⟨1⟩, .subscribed ⟨⟨3⟩, .areaEntered, .observer⟩, .published (.areaEntered "gate"),
        .called ⟨1⟩ (.areaEntered "tower") false, .called ⟨2⟩ (.areaEntered "tower") true,
        .batch [.areaEntered "gate"]] := by
  decide +kernel

end Exchange

end Plotline
