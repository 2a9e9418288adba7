import Plotline.Bus.Channel
import Plotline.Stage.Recording

/-!
What a piece of work adds to a channel: the events it publishes, and the lists of rewards it hands out. Notes,
observations and all other cues count as nothing.
-/

namespace Plotline

/-- A note that neither makes an event known nor takes up a request. -/
def Note.isPlain : Note → Bool
  | .published _ | .releasing .. => false
  | _ => true

def Entry.takesRequest : Entry → Bool
  | .note (.releasing ..) => true
  | _ => false

namespace Journal

/-- The lists of rewards that were handed out, in order. -/
def rewards (j : Journal) : List (List Reward) := Cue.rewardLists j.cues

theorem published_cons (entry : Entry) (j : Journal) :
    published (entry :: j) = published j ++ published [entry] := by
  simp [published, List.filterMap_append]

theorem rewards_cons (entry : Entry) (j : Journal) :
    rewards (entry :: j) = rewards j ++ rewards [entry] := by
  simp [rewards, Cue.rewardLists, cues, List.filterMap_append]

/-- The journal has come to show that the events were published and the rewards handed out. -/
structure Tells (events : List StoryEvent) (granted : List (List Reward)) (before after : Journal) : Prop where
  published : after.published = before.published ++ events
  rewards : after.rewards = before.rewards ++ granted

/-- The journal has grown by entries that tell this; none of them takes up a request. -/
structure Grows (events : List StoryEvent) (granted : List (List Reward)) (before after : Journal) : Prop
    extends Tells events granted before after where
  added : ∃ entries : Journal, after = entries ++ before ∧ ∀ entry ∈ entries, entry.takesRequest = false

abbrev Quiet : Journal → Journal → Prop := Grows [] []

theorem Tells.refl (j : Journal) : Tells [] [] j j := ⟨by simp, by simp⟩

theorem Tells.trans {events moreEvents : List StoryEvent} {granted moreGranted : List (List Reward)}
    {before middle after : Journal} (first : Tells events granted before middle)
    (last : Tells moreEvents moreGranted middle after) :
    Tells (events ++ moreEvents) (granted ++ moreGranted) before after := by
  constructor
  · rw [last.published, first.published, List.append_assoc]
  · rw [last.rewards, first.rewards, List.append_assoc]

theorem cons_tells (entry : Entry) (j : Journal) :
    Tells (published [entry]) (rewards [entry]) j (entry :: j) :=
  ⟨published_cons entry j, rewards_cons entry j⟩

namespace Grows

variable {events moreEvents : List StoryEvent} {granted moreGranted : List (List Reward)}
  {before middle after : Journal}

theorem refl (j : Journal) : Quiet j j := ⟨.refl j, [], rfl, List.forall_mem_nil _⟩

theorem trans (first : Grows events granted before middle) (last : Grows moreEvents moreGranted middle after) :
    Grows (events ++ moreEvents) (granted ++ moreGranted) before after := by
  obtain ⟨early, middleIs, earlyPlain⟩ := first.added
  obtain ⟨late, afterIs, latePlain⟩ := last.added
  refine ⟨first.toTells.trans last.toTells, late ++ early, ?_, ?_⟩
  · rw [afterIs, middleIs, List.append_assoc]
  · intro entry member
    rcases List.mem_append.mp member with isLate | isEarly
    · exact latePlain entry isLate
    · exact earlyPlain entry isEarly

end Grows

theorem cons_grows (entry : Entry) (other : entry.takesRequest = false) (j : Journal) :
    Grows (published [entry]) (rewards [entry]) j (entry :: j) :=
  ⟨cons_tells entry j, [entry], rfl, by simpa using other⟩

theorem note_quiet {n : Note} (plain : n.isPlain = true) (j : Journal) : Quiet j (j.note n) := by
  have silent : published [.note n] = [] := by
    cases n <;> first | rfl | cases plain
  have other : (Entry.note n).takesRequest = false := by
    cases n <;> first | rfl | cases plain
  have grown := cons_grows (.note n) other j
  rw [silent] at grown
  exact grown

theorem published_grows (event : StoryEvent) (j : Journal) : Grows [event] [] j (j.note (.published event)) :=
  cons_grows (.note (.published event)) rfl j

theorem rewards_grows (list : List Reward) (j : Journal) : Grows [] [list] j (j.cue (.rewards list)) :=
  cons_grows (.cue (.rewards list)) rfl j

theorem cue_quiet {c : Cue} (ordinary : rewards [.cue c] = []) (j : Journal) : Quiet j (j.cue c) := by
  have grown := cons_grows (.cue c) rfl j
  rw [ordinary] at grown
  exact grown

theorem observed_quiet (id : SubscriptionId) (event : StoryEvent) (j : Journal) :
    Quiet j (.observed id event :: j) :=
  cons_grows (.observed id event) rfl j

theorem notes_quiet {ns : List Note} (plain : ∀ n ∈ ns, n.isPlain = true) (j : Journal) :
    Quiet j (j.notes ns) := by
  induction ns generalizing j with
  | nil => exact Grows.refl j
  | cons n ns ih =>
      have head : Quiet j (j.note n) := note_quiet (plain n List.mem_cons_self) j
      have tail : Quiet (j.note n) ((j.note n).notes ns) :=
        ih (fun other member => plain other (List.mem_cons_of_mem n member)) (j.note n)
      exact head.trans tail

/-- The journal has grown quietly, and no observer has heard of anything. -/
structure Still (before after : Journal) : Prop extends Grows [] [] before after where
  observations : after.observations = before.observations

theorem Still.refl (j : Journal) : j.Still j := ⟨.refl j, rfl⟩

theorem Still.trans {before middle after : Journal} (first : before.Still middle) (last : middle.Still after) :
    before.Still after :=
  ⟨first.toGrows.trans last.toGrows, last.observations.trans first.observations⟩

private theorem observations_cons {entry : Entry} (unheard : observations [entry] = []) (j : Journal) :
    observations (entry :: j) = observations j := by
  unfold observations at unheard ⊢
  rw [List.reverse_cons, List.filterMap_append]
  exact (congrArg _ unheard).trans (List.append_nil _)

theorem note_still {n : Note} (plain : n.isPlain = true) (j : Journal) : j.Still (j.note n) :=
  ⟨note_quiet plain j, observations_cons rfl j⟩

theorem cue_still {c : Cue} (ordinary : rewards [.cue c] = []) (j : Journal) : j.Still (j.cue c) :=
  ⟨cue_quiet ordinary j, observations_cons rfl j⟩

theorem notes_observations (ns : List Note) (j : Journal) : (j.notes ns).observations = j.observations := by
  induction ns generalizing j with
  | nil => rfl
  | cons n ns ih => exact (ih (j.note n)).trans (observations_cons rfl j)

theorem notes_still {ns : List Note} (plain : ∀ n ∈ ns, n.isPlain = true) (j : Journal) : j.Still (j.notes ns) :=
  ⟨notes_quiet plain j, notes_observations ns j⟩

/-- The entry is the first that was added. -/
def Opens (entry : Entry) (before after : Journal) : Prop := ∃ later, after = later ++ entry :: before

theorem Opens.grows {entry : Entry} {before middle after : Journal} (opens : Opens entry before middle)
    {events : List StoryEvent} {granted : List (List Reward)} (grown : Grows events granted middle after) :
    Opens entry before after := by
  obtain ⟨later, middleIs⟩ := opens
  obtain ⟨last, afterIs, _⟩ := grown.added
  refine ⟨last ++ later, ?_⟩
  rw [afterIs, middleIs, List.append_assoc]

/-- The note that a request is taken up publishes nothing. -/
theorem releasing_tells (runner : RunnerId) (node : NodeId) (sequence : Nat) (j : Journal) :
    Tells [] [] j (j.note (.releasing runner node sequence)) :=
  cons_tells (.note (.releasing runner node sequence)) j

end Journal

namespace Channel

/-- The channel has taken the events in: they stand at the end of its queue and in its journal. -/
structure Grows (events : List StoryEvent) (granted : List (List Reward)) (before after : Channel) : Prop where
  attached : after.bus.attached = before.bus.attached
  queue : after.bus.queue = before.bus.queue ++ events
  journal : before.journal.Grows events granted after.journal
  subscriptions : after.bus.subscriptions = before.bus.subscriptions
  nextId : after.bus.nextId = before.bus.nextId

abbrev Quiet : Channel → Channel → Prop := Grows [] []

/-- Nothing but the subscriptions may have changed, and nothing was published. -/
structure Rewired (before after : Channel) : Prop where
  attached : after.bus.attached = before.bus.attached
  queue : after.bus.queue = before.bus.queue
  journal : before.journal.Quiet after.journal

namespace Grows

variable {events moreEvents : List StoryEvent} {granted moreGranted : List (List Reward)}
  {before middle after : Channel}

theorem refl (ch : Channel) : Quiet ch ch := ⟨rfl, by simp, .refl _, rfl, rfl⟩

theorem trans (first : Grows events granted before middle) (last : Grows moreEvents moreGranted middle after) :
    Grows (events ++ moreEvents) (granted ++ moreGranted) before after := by
  refine ⟨last.attached.trans first.attached, ?_, first.journal.trans last.journal,
    last.subscriptions.trans first.subscriptions, last.nextId.trans first.nextId⟩
  rw [last.queue, first.queue, List.append_assoc]

theorem thenQuiet (first : Grows events granted before middle) (last : Quiet middle after) :
    Grows events granted before after := by
  simpa using first.trans last

theorem rewired (quiet : Quiet before after) : Rewired before after :=
  ⟨quiet.attached, by simpa using quiet.queue, quiet.journal⟩

end Grows

namespace Rewired

variable {before middle after : Channel}

theorem refl (ch : Channel) : Rewired ch ch := (Grows.refl ch).rewired

theorem trans (first : Rewired before middle) (last : Rewired middle after) : Rewired before after :=
  ⟨last.attached.trans first.attached, last.queue.trans first.queue, first.journal.trans last.journal⟩

theorem thenQuiet (first : Rewired before middle) (last : Quiet middle after) : Rewired before after :=
  first.trans last.rewired

end Rewired

theorem journal_quiet (ch : Channel) {j : Journal} (quiet : ch.journal.Quiet j) :
    Quiet ch { ch with journal := j } :=
  ⟨rfl, by simp, quiet, rfl, rfl⟩

theorem note_quiet {n : Note} (plain : n.isPlain = true) (ch : Channel) : Quiet ch (ch.note n) :=
  ch.journal_quiet (Journal.note_quiet plain ch.journal)

theorem Rewired.note {n : Note} {before after : Channel} (rewired : Rewired before after) (plain : n.isPlain = true) :
    Rewired before (after.note n) :=
  rewired.thenQuiet (note_quiet plain after)

theorem rewards_grows (list : List Reward) (ch : Channel) : Grows [] [list] ch (ch.cue (.rewards list)) :=
  ⟨rfl, by simp [cue], Journal.rewards_grows list ch.journal, rfl, rfl⟩

theorem publish_attached (event : StoryEvent) {ch : Channel} (attached : ch.bus.attached = true) :
    ch.publish event = { bus := ch.bus.enqueue event, journal := ch.journal.note (.published event) } := by
  simp [publish, tryPublish, attached]

/-- Whether or not the event gets into the queue, the journal gets a note. -/
theorem publish_notes (event : StoryEvent) (ch : Channel) : ∃ n, (ch.publish event).journal = ch.journal.note n := by
  unfold publish tryPublish
  by_cases attached : ch.bus.attached = true
  · rw [if_pos attached]
    exact ⟨.published event, rfl⟩
  · rw [if_neg attached]
    exact ⟨.dropped event.topic, rfl⟩

theorem publishAll_notes (events : List StoryEvent) (ch : Channel) :
    ∃ ns, (ch.publishAll events).journal = ch.journal.notes ns := by
  induction events generalizing ch with
  | nil => exact ⟨[], rfl⟩
  | cons event events ih =>
      obtain ⟨n, noted⟩ := publish_notes event ch
      obtain ⟨ns, rest⟩ := ih (ch.publish event)
      rw [noted] at rest
      exact ⟨n :: ns, rest⟩

theorem publish_grows (event : StoryEvent) (ch : Channel) (attached : ch.bus.attached = true) :
    Grows [event] [] ch (ch.publish event) := by
  rw [publish_attached event attached]
  exact ⟨rfl, rfl, Journal.published_grows event ch.journal, rfl, rfl⟩

theorem publishAll_grows (events : List StoryEvent) (ch : Channel) (attached : ch.bus.attached = true) :
    Grows events [] ch (ch.publishAll events) := by
  induction events generalizing ch with
  | nil => exact Grows.refl ch
  | cons event events ih =>
      have head := publish_grows event ch attached
      have tail := ih (ch.publish event) (head.attached.trans attached)
      exact head.trans tail

theorem subscribe_rewired (topic : Topic) (listener : Listener) (ch : Channel) :
    Rewired ch (ch.subscribe topic listener).2 :=
  ⟨rfl, rfl, Journal.note_quiet rfl ch.journal⟩

theorem unsubscribe_rewired (id : SubscriptionId) (ch : Channel) : Rewired ch (ch.unsubscribe id) := by
  unfold unsubscribe
  split
  · exact ⟨rfl, rfl, Journal.note_quiet rfl ch.journal⟩
  · exact Rewired.refl ch

theorem unsubscribeAll_rewired (ids : List SubscriptionId) (ch : Channel) : Rewired ch (ch.unsubscribeAll ids) := by
  induction ids generalizing ch with
  | nil => exact Rewired.refl ch
  | cons id ids ih => exact (unsubscribe_rewired id ch).trans (ih (ch.unsubscribe id))

theorem route_quiet (id : SubscriptionId) (event : StoryEvent) (ch : Channel) :
    Quiet ch (ch.route id event).2 := by
  unfold route
  split
  · exact Grows.refl ch
  · split
    · exact Grows.refl ch
    · exact ch.journal_quiet (Journal.observed_quiet id event ch.journal)

end Channel

end Plotline
