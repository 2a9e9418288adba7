import Plotline.Json.Decoder

/-!
How deep a tree is. With room for all its levels it does not matter how much more room there is, neither where a value
is taken up as it is nor where it is read as one of several variants.
-/

namespace Plotline

namespace Doc

mutual

/-- How many lists and objects are opened within each other. -/
def depth : Doc → Nat
  | .list items _ => depthItems items + 1
  | .object members _ => depthMembers members + 1
  | _ => 0

def depthItems : List Doc → Nat
  | [] => 0
  | item :: items => max (depth item) (depthItems items)

def depthMembers : List (Except Break String × Doc) → Nat
  | [] => 0
  | (_, value) :: members => max (depth value) (depthMembers members)

end

mutual

theorem taken?_of_depth {room more : Nat} : (doc : Doc) → doc.depth ≤ room → doc.depth ≤ more →
    doc.taken? room = doc.taken? more
  | .null, _, _ | .bool _, _, _ | .number _, _, _ | .text _, _, _ | .broken _ _, _, _ => by simp only [taken?]
  | .list items ending, enough, enough' => by
      rw [depth] at enough enough'
      obtain ⟨room, rfl⟩ : ∃ less, room = less + 1 := ⟨room - 1, by omega⟩
      obtain ⟨more, rfl⟩ : ∃ less, more = less + 1 := ⟨more - 1, by omega⟩
      have same := takenItems?_of_depth items (Nat.le_of_succ_le_succ enough) (Nat.le_of_succ_le_succ enough')
      rw [taken?, taken?, same]
  | .object members ending, enough, enough' => by
      rw [depth] at enough enough'
      obtain ⟨room, rfl⟩ : ∃ less, room = less + 1 := ⟨room - 1, by omega⟩
      obtain ⟨more, rfl⟩ : ∃ less, more = less + 1 := ⟨more - 1, by omega⟩
      have same := takenMembers?_of_depth members (Nat.le_of_succ_le_succ enough) (Nat.le_of_succ_le_succ enough')
      rw [taken?, taken?, same]

theorem takenItems?_of_depth {room more : Nat} : (items : List Doc) → depthItems items ≤ room →
    depthItems items ≤ more → takenItems? room items = takenItems? more items
  | [], _, _ => rfl
  | item :: items, enough, enough' => by
      rw [depthItems, Nat.max_le] at enough enough'
      rw [takenItems?, takenItems?, taken?_of_depth item enough.1 enough'.1,
        takenItems?_of_depth items enough.2 enough'.2]

theorem takenMembers?_of_depth {room more : Nat} : (members : List (Except Break String × Doc)) →
    depthMembers members ≤ room → depthMembers members ≤ more → takenMembers? room members = takenMembers? more members
  | [], _, _ => rfl
  | (.ok _, value) :: members, enough, enough' => by
      rw [depthMembers, Nat.max_le] at enough enough'
      rw [takenMembers?, takenMembers?, taken?_of_depth value enough.1 enough'.1,
        takenMembers?_of_depth members enough.2 enough'.2]
  | (.error _, _) :: _, _, _ => rfl

end

end Doc

namespace Decoder.Tagged

variable {α : Type} {t : Tagged α} {room more : Nat}

theorem variantOf_text (doc : Doc) : t.variantOf (.text room) doc = t.variantOf (.text more) doc := by
  cases doc with
  | number n => cases n <;> rfl
  | _ => rfl

private theorem ofMembers_of_depth {members : List (Except Break String × Doc)}
    (enough : Doc.depthMembers members ≤ room) (enough' : Doc.depthMembers members ≤ more)
    (variant : Option (Variant α)) :
    t.ofMembers (.text room) members variant = t.ofMembers (.text more) members variant := by
  induction members generalizing variant with
  | nil => rfl
  | cons member members ih =>
    obtain ⟨key, doc⟩ := member
    rw [Doc.depthMembers, Nat.max_le] at enough enough'
    have here : Setting.room (.text room) doc = Setting.room (.text more) doc :=
      Doc.taken?_of_depth doc enough.1 enough'.1
    cases key with
    | error fault => rfl
    | ok key =>
      have tag : t.variantOf (.text room) doc = t.variantOf (.text more) doc := variantOf_text doc
      simp only [ofMembers, tag, here, ih enough.2 enough'.2]

private theorem rooms_of_depth {docs : List Doc} (enough : Doc.depthItems docs ≤ room)
    (enough' : Doc.depthItems docs ≤ more) :
    docs.findSome? (Setting.room (.text room)) = docs.findSome? (Setting.room (.text more)) := by
  induction docs with
  | nil => rfl
  | cons doc docs ih =>
    rw [Doc.depthItems, Nat.max_le] at enough enough'
    have here : Setting.room (.text room) doc = Setting.room (.text more) doc :=
      Doc.taken?_of_depth doc enough.1 enough'.1
    rw [List.findSome?_cons, List.findSome?_cons, here, ih enough.2 enough'.2]

/-- A value with a tag is read in the same way at every level of a text, if none of its own levels is too deep there. -/
theorem decoder_of_depth {doc : Doc} (enough : doc.depth ≤ room) (enough' : doc.depth ≤ more) :
    t.decoder (.text room) doc = t.decoder (.text more) doc := by
  cases doc with
  | object members ending =>
    rw [Doc.depth] at enough enough'
    obtain ⟨room, rfl⟩ : ∃ less, room = less + 1 := ⟨room - 1, by omega⟩
    obtain ⟨more, rfl⟩ : ∃ less, more = less + 1 := ⟨more - 1, by omega⟩
    have same : t.ofMembers (.text room) members none = t.ofMembers (.text more) members none :=
      ofMembers_of_depth (Nat.le_of_succ_le_succ enough) (Nat.le_of_succ_le_succ enough') none
    rw [decoder, decoder, Setting.enter, Setting.enter]
    dsimp only [bind, Except.bind]
    rw [same]
  | list docs ending =>
    rw [Doc.depth] at enough enough'
    obtain ⟨room, rfl⟩ : ∃ less, room = less + 1 := ⟨room - 1, by omega⟩
    obtain ⟨more, rfl⟩ : ∃ less, more = less + 1 := ⟨more - 1, by omega⟩
    cases docs with
    | nil => rfl
    | cons doc docs =>
      rw [Doc.depthItems] at enough enough'
      have rooms : docs.findSome? (Setting.room (.text room)) = docs.findSome? (Setting.room (.text more)) :=
        rooms_of_depth (by omega) (by omega)
      rw [decoder, decoder, Setting.enter, Setting.enter]
      dsimp only [bind, Except.bind]
      rw [rooms, variantOf_text]
  | null | bool | number | text | broken => rfl

end Decoder.Tagged

end Plotline
