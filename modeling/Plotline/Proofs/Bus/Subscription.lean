import Mathlib.Data.List.Nodup
import Plotline.Bus.Channel

/-!
Handles of subscriptions. A bus numbers them in the order in which they are made, so that a new subscription is found
under its handle and hides no other.
-/

namespace Plotline

namespace Bus

/-- Every handle was handed out by the bus. -/
def Numbered (bus : Bus) : Prop := ∀ x ∈ bus.subscriptions, x.id.number < bus.nextId

/-- What could be found under its handle still can. -/
structure Widens (before after : Bus) : Prop where
  kept : ∀ id x, before.find? id = some x → after.find? id = some x
  numbered : before.Numbered → after.Numbered

namespace Widens

variable {before middle after : Bus}

theorem of_subscriptions (same : after.subscriptions = before.subscriptions) (next : after.nextId = before.nextId) :
    Widens before after := by
  constructor
  · unfold find?
    rw [same]
    exact fun _ _ => id
  · unfold Numbered
    rw [same, next]
    exact id

theorem refl (bus : Bus) : Widens bus bus := of_subscriptions rfl rfl

theorem trans (first : Widens before middle) (last : Widens middle after) : Widens before after :=
  ⟨fun id x found => last.kept id x (first.kept id x found), fun numbered => last.numbered (first.numbered numbered)⟩

end Widens

theorem subscribe_widens (topic : Topic) (listener : Listener) (bus : Bus) :
    Widens bus (bus.subscribe topic listener).2 := by
  constructor
  · intro id x found
    unfold find? at found
    simp [find?, subscribe, List.find?_append, found]
  · intro numbered x member
    rcases List.mem_append.mp member with old | new
    · exact Nat.lt_succ_of_lt (numbered x old)
    · rw [List.mem_singleton.mp new]
      exact Nat.lt_succ_self bus.nextId

theorem find?_subscribe (topic : Topic) (listener : Listener) {bus : Bus} (numbered : bus.Numbered) :
    (bus.subscribe topic listener).2.find? (bus.subscribe topic listener).1 =
      some ⟨(bus.subscribe topic listener).1, topic, listener⟩ := by
  have unused : bus.subscriptions.find? (·.id = ⟨bus.nextId⟩) = none := by
    rw [List.find?_eq_none]
    intro x member taken
    have small := numbered x member
    rw [of_decide_eq_true taken] at small
    exact Nat.lt_irrefl _ small
  unfold find? subscribe
  dsimp only
  rw [List.find?_append, unused]
  simp

/-- The bus has these subscriptions besides, under handles of their own. -/
structure Extends (added : List Subscription) (before after : Bus) : Prop where
  subscriptions : after.subscriptions = before.subscriptions ++ added
  handles : added.map (·.id.number) = List.range' before.nextId added.length
  nextId : after.nextId = before.nextId + added.length

namespace Extends

variable {added more : List Subscription} {before middle after : Bus}

theorem refl (bus : Bus) : Extends [] bus bus := ⟨(List.append_nil _).symm, rfl, rfl⟩

theorem trans (first : Extends added before middle) (last : Extends more middle after) :
    Extends (added ++ more) before after := by
  refine ⟨?_, ?_, ?_⟩
  · rw [last.subscriptions, first.subscriptions, List.append_assoc]
  · rw [List.map_append, first.handles, last.handles, first.nextId, List.length_append, List.range'_append_1]
  · rw [last.nextId, first.nextId, List.length_append, Nat.add_assoc]

theorem range (extension : Extends added before after) {x : Subscription} (member : x ∈ added) :
    before.nextId ≤ x.id.number ∧ x.id.number < after.nextId := by
  have handed : x.id.number ∈ added.map (·.id.number) := List.mem_map_of_mem member
  rw [extension.handles, List.mem_range'_1] at handed
  exact ⟨handed.1, extension.nextId ▸ handed.2⟩

theorem nodup (extension : Extends added before after) : (added.map (·.id)).Nodup := by
  have numbers : (added.map (·.id.number)).Nodup := extension.handles ▸ List.nodup_range'
  rw [show added.map (·.id.number) = (added.map (·.id)).map (·.number) by simp] at numbers
  exact numbers.of_map

end Extends

theorem subscribe_extends (topic : Topic) (listener : Listener) (bus : Bus) :
    Extends [⟨(bus.subscribe topic listener).1, topic, listener⟩] bus (bus.subscribe topic listener).2 :=
  ⟨rfl, rfl, rfl⟩

end Bus

namespace Channel

theorem subscribe_extends (topic : Topic) (listener : Listener) (ch : Channel) :
    Bus.Extends [⟨(ch.subscribe topic listener).1, topic, listener⟩] ch.bus (ch.subscribe topic listener).2.bus :=
  Bus.subscribe_extends topic listener ch.bus

/-- Only subscriptions go away. -/
structure Sheds (ids : List SubscriptionId) (before after : Channel) : Prop where
  subscriptions : after.bus.subscriptions = before.bus.subscriptions.filter (·.id ∉ ids)
  nextId : after.bus.nextId = before.bus.nextId

theorem Sheds.trans {ids more : List SubscriptionId} {before middle after : Channel} (first : Sheds ids before middle)
    (last : Sheds more middle after) : Sheds (ids ++ more) before after := by
  refine ⟨?_, last.nextId.trans first.nextId⟩
  rw [last.subscriptions, first.subscriptions, List.filter_filter]
  congr 1
  funext x
  simp [Bool.and_comm]

theorem unsubscribe_sheds (id : SubscriptionId) (ch : Channel) : Sheds [id] ch (ch.unsubscribe id) := by
  unfold unsubscribe
  split
  · refine ⟨?_, rfl⟩
    simp [Bus.unsubscribe]
  · rename_i absent
    refine ⟨(List.filter_eq_self.mpr ?_).symm, rfl⟩
    intro x member
    simp only [Bus.holds, List.any_eq_true, decide_eq_true_eq, not_exists, not_and] at absent
    simpa using absent x member

theorem unsubscribeAll_sheds (ids : List SubscriptionId) (ch : Channel) : Sheds ids ch (ch.unsubscribeAll ids) := by
  induction ids generalizing ch with
  | nil => exact ⟨by simp [unsubscribeAll], rfl⟩
  | cons id ids ih => exact (unsubscribe_sheds id ch).trans (ih (ch.unsubscribe id))

theorem subscribe_widens (topic : Topic) (listener : Listener) (ch : Channel) :
    ch.bus.Widens (ch.subscribe topic listener).2.bus :=
  Bus.subscribe_widens topic listener ch.bus

end Channel

end Plotline
