import Plotline.Bus.Channel

/-!
Journals that differ in remarks only. A remark is a note on the working of the scene; what was shown on the stage, told
to observers and published is not one.
-/

namespace Plotline

/-- The entry is a note that makes no event known. -/
def Entry.isRemark : Entry → Bool
  | .note (.published _) => false
  | .note _ => true
  | _ => false

namespace Journal

/-- All entries but the remarks. -/
def deeds (j : Journal) : Journal := j.filter fun entry => !entry.isRemark

/-- The journals differ in remarks only. -/
def Echoes (j j' : Journal) : Prop := j.deeds = j'.deeds

namespace Echoes

variable {j j' j'' : Journal}

theorem refl (j : Journal) : j.Echoes j := Eq.refl j.deeds

theorem symm (echoes : j.Echoes j') : j'.Echoes j := Eq.symm echoes

theorem trans (first : j.Echoes j') (last : j'.Echoes j'') : j.Echoes j'' := Eq.trans first last

theorem cons (echoes : j.Echoes j') (entry : Entry) : Echoes (entry :: j) (entry :: j') := by
  unfold Echoes deeds at echoes ⊢
  rw [List.filter_cons, List.filter_cons, echoes]

theorem note (echoes : j.Echoes j') (n : Note) : (j.note n).Echoes (j'.note n) := echoes.cons (.note n)

theorem cue (echoes : j.Echoes j') (c : Cue) : (j.cue c).Echoes (j'.cue c) := echoes.cons (.cue c)

theorem notes (echoes : j.Echoes j') (ns : List Note) : (j.notes ns).Echoes (j'.notes ns) := by
  induction ns generalizing j j' with
  | nil => exact echoes
  | cons n ns ih => exact ih (echoes.note n)

end Echoes

theorem note_echoes {n : Note} (remark : (Entry.note n).isRemark = true) (j : Journal) : j.Echoes (j.note n) := by
  unfold Echoes deeds note
  rw [List.filter_cons, remark]
  rfl

theorem notes_echoes {ns : List Note} (remarks : ∀ n ∈ ns, (Entry.note n).isRemark = true) (j : Journal) :
    j.Echoes (j.notes ns) := by
  induction ns generalizing j with
  | nil => exact .refl j
  | cons n ns ih =>
      have first : j.Echoes (j.note n) := note_echoes (remarks n List.mem_cons_self) j
      exact first.trans (ih (fun other member => remarks other (List.mem_cons_of_mem n member)) (j.note n))

end Journal

namespace Channel

/-- The buses are the same, and the journals differ in remarks only. -/
structure Echoes (ch ch' : Channel) : Prop where
  bus : ch'.bus = ch.bus
  journal : ch.journal.Echoes ch'.journal

namespace Echoes

variable {ch ch' ch'' : Channel}

theorem refl (ch : Channel) : ch.Echoes ch := ⟨rfl, .refl _⟩

theorem symm (echoes : ch.Echoes ch') : ch'.Echoes ch := ⟨echoes.bus.symm, echoes.journal.symm⟩

theorem trans (first : ch.Echoes ch') (last : ch'.Echoes ch'') : ch.Echoes ch'' :=
  ⟨last.bus.trans first.bus, first.journal.trans last.journal⟩

theorem withJournal (echoes : ch.Echoes ch') {j j' : Journal} (journal : j.Echoes j') :
    Echoes { ch with journal := j } { ch' with journal := j' } :=
  ⟨echoes.bus, journal⟩

theorem note (echoes : ch.Echoes ch') (n : Note) : (ch.note n).Echoes (ch'.note n) :=
  echoes.withJournal (echoes.journal.note n)

theorem cue (echoes : ch.Echoes ch') (c : Cue) : (ch.cue c).Echoes (ch'.cue c) :=
  echoes.withJournal (echoes.journal.cue c)

theorem publish (echoes : ch.Echoes ch') (event : StoryEvent) : (ch.publish event).Echoes (ch'.publish event) := by
  unfold Channel.publish tryPublish
  rw [echoes.bus]
  by_cases attached : ch.bus.attached = true
  · rw [if_pos attached, if_pos attached]
    exact ⟨rfl, echoes.journal.note _⟩
  · rw [if_neg attached, if_neg attached]
    exact echoes.note _

theorem publishAll (echoes : ch.Echoes ch') (events : List StoryEvent) :
    (ch.publishAll events).Echoes (ch'.publishAll events) := by
  induction events generalizing ch ch' with
  | nil => exact echoes
  | cons event events ih => exact ih (echoes.publish event)

/-- The subscription gets the same handle. -/
theorem subscribe (echoes : ch.Echoes ch') (topic : Topic) (listener : Listener) :
    ∃ id c c', ch.subscribe topic listener = (id, c) ∧ ch'.subscribe topic listener = (id, c') ∧ c.Echoes c' := by
  unfold Channel.subscribe
  rw [echoes.bus]
  exact ⟨_, _, _, rfl, rfl, rfl, echoes.journal.note _⟩

theorem unsubscribe (echoes : ch.Echoes ch') (id : SubscriptionId) :
    (ch.unsubscribe id).Echoes (ch'.unsubscribe id) := by
  unfold Channel.unsubscribe
  rw [echoes.bus]
  split
  · exact ⟨rfl, echoes.journal.note _⟩
  · exact echoes

theorem unsubscribeAll (echoes : ch.Echoes ch') (ids : List SubscriptionId) :
    (ch.unsubscribeAll ids).Echoes (ch'.unsubscribeAll ids) := by
  induction ids generalizing ch ch' with
  | nil => exact echoes
  | cons id ids ih => exact ih (echoes.unsubscribe id)

/-- The event takes the same route. -/
theorem route (echoes : ch.Echoes ch') (id : SubscriptionId) (event : StoryEvent) :
    ∃ route c c', ch.route id event = (route, c) ∧ ch'.route id event = (route, c') ∧ c.Echoes c' := by
  unfold Channel.route
  rw [echoes.bus]
  split
  · exact ⟨_, _, _, rfl, rfl, echoes⟩
  · split
    · exact ⟨_, _, _, rfl, rfl, echoes⟩
    · exact ⟨_, _, _, rfl, rfl, rfl, echoes.journal.cons _⟩

end Echoes

end Channel

end Plotline
