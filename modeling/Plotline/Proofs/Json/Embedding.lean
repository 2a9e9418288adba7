import Mathlib.Data.List.Forall2
import Plotline.Proofs.Json.Following

/-!
Texts within texts. Texts that hold a value each, with gaps around it, make the text of a list, and one of them that of
an object; it holds the same values.
-/

namespace Plotline.Json

variable {rest : List Char} {doc : Doc}

/-- The text holds one value that can be followed to its end, and nothing but gaps around it. -/
def Stands (text : List Char) (doc : Doc) : Prop :=
  ∃ rest, valueAt (2 * text.length + 2) text = (doc, some rest) ∧ skipGaps rest = []

namespace Stands

variable {text : List Char}

theorem parse (stands : Stands text doc) : Doc.parse text = (doc, false) := by
  obtain ⟨rest, read, ended⟩ := stands
  unfold Doc.parse
  rw [read]
  dsimp only
  rw [ended]
  rfl

theorem takes (stands : Stands text doc) :
    ∃ own gaps, text = own ++ gaps ∧ (∀ c ∈ gaps, isGap c = true) ∧
      ∀ fuel, 2 * text.length + 2 ≤ fuel → Takes (valueAt fuel) own doc := by
  obtain ⟨rest, read, ended⟩ := stands
  obtain ⟨own, is, takes⟩ := valueAt_excerpt read
  exact ⟨own, rest, is, by simpa [skipGaps] using ended, takes⟩

theorem begins (stands : Stands text doc) :
    ∃ c gaps tail, text = gaps ++ c :: tail ∧ c ≠ ']' ∧ ∀ rest, skipGaps (gaps ++ c :: rest) = c :: rest := by
  obtain ⟨rest, read, -⟩ := stands
  have first : ∃ c tail, skipGaps text = c :: tail ∧ c ≠ ']' := by
    cases valueAt_iff.mp read with
    | emptyList opens | list opens | emptyObject opens | object opens => exact ⟨_, _, opens, by decide⟩
    | scalar begins _ _ read =>
      refine ⟨_, _, begins, ?_⟩
      rintro rfl
      cases read
  obtain ⟨c, tail, is, other⟩ := first
  obtain ⟨gaps, same, -, skip⟩ := split_gaps is
  exact ⟨c, gaps, tail, same, other, skip⟩

end Stands

/-- What is written for a value holds it. -/
theorem render_stands (v : Json) : Stands v.render.toList v.tree := by
  rw [render, String.toList_ofList, compact_eq_text 0]
  refine ⟨[], ?_, rfl⟩
  have read := readsBack .tight 0 v (2 * (Layout.tight.text 0 v).length + 2) [] (by omega) trivial
  rwa [List.append_nil] at read

/-- The texts as the items of a list. -/
def listText (texts : List (List Char)) : List Char := '[' :: ([','].intercalate texts ++ [']'])

private theorem itemsAt_skipGaps {fuel : Nat} {c : Char} {tail : List Char} (begins : skipGaps cs = c :: tail) :
    itemsAt fuel (c :: tail) = itemsAt fuel cs := by
  obtain ⟨gaps, rfl, blank, -⟩ := split_gaps begins
  cases fuel with
  | zero => rfl
  | succ fuel => rw [itemsAt, itemsAt, valueAt_gaps blank]

private theorem intercalate_begins {text : List Char} (stands : Stands text doc) (texts : List (List Char))
    (rest : List Char) : ∃ c tail, skipGaps ([','].intercalate (text :: texts) ++ rest) = c :: tail ∧ c ≠ ']' := by
  obtain ⟨c, gaps, tail, rfl, other, skip⟩ := stands.begins
  cases texts with
  | nil =>
    rw [List.intercalate_singleton, List.append_assoc]
    exact ⟨c, _, skip _, other⟩
  | cons next texts =>
    rw [List.intercalate_cons_cons]
    simp only [List.append_assoc]
    exact ⟨c, _, skip _, other⟩

private theorem itemsAt_texts {texts : List (List Char)} {text : List Char} {entries : List Doc}
    (stand : List.Forall₂ Stands (text :: texts) entries) {fuel : Nat}
    (enough : 2 * ([','].intercalate (text :: texts)).length + 2 < fuel) (rest : List Char) :
    itemsAt fuel ([','].intercalate (text :: texts) ++ ']' :: rest) = (entries, .closed, some rest) := by
  -- Each item is read from its own text alone; the gaps behind the comma are those that the next text begins with.
  induction texts generalizing text entries fuel with
  | nil =>
    obtain _ | ⟨stands, others⟩ := stand
    cases others
    rw [List.intercalate_singleton] at enough ⊢
    obtain ⟨own, gaps, rfl, blank, takes⟩ := stands.takes
    obtain ⟨fuel, rfl⟩ : ∃ less, fuel = less + 1 := ⟨fuel - 1, by omega⟩
    have read := takes fuel (by omega) _ (mark_ends blank (.inr (.inl rfl)) rest)
    rw [List.append_assoc]
    exact itemsAt_iff.mpr (.last read ((skipGaps_gaps blank _).trans (skipGaps_mark rfl _)))
  | cons next texts ih =>
    obtain _ | ⟨stands, others⟩ := stand
    rw [List.intercalate_cons_cons] at enough ⊢
    simp only [List.length_append, List.length_singleton] at enough
    obtain ⟨own, gaps, rfl, blank, takes⟩ := stands.takes
    obtain ⟨fuel, rfl⟩ : ∃ less, fuel = less + 1 := ⟨fuel - 1, by omega⟩
    generalize behind : [','].intercalate (next :: texts) ++ ']' :: rest = tail
    have read := takes fuel (by omega) _ (mark_ends blank (.inl rfl) tail)
    have later : itemsAt fuel tail = _ := behind ▸ ih others (by omega)
    obtain ⟨c, first, begins, other⟩ : ∃ c first, skipGaps tail = c :: first ∧ c ≠ ']' := by
      obtain _ | ⟨follows, -⟩ := others
      exact behind ▸ intercalate_begins follows texts (']' :: rest)
    rw [← itemsAt_skipGaps begins] at later
    have joined : own ++ gaps ++ [','] ++ [','].intercalate (next :: texts) ++ ']' :: rest =
        own ++ (gaps ++ ',' :: tail) := by
      rw [← behind]
      simp
    rw [joined]
    exact itemsAt_iff.mpr (.more read ((skipGaps_gaps blank _).trans (skipGaps_mark rfl _)) begins other later)

/-- Texts that hold a value each make the text of the list of these values. -/
theorem listText_stands {texts : List (List Char)} {entries : List Doc} (stand : List.Forall₂ Stands texts entries) :
    Stands (listText texts) (.list entries .closed) := by
  refine ⟨[], ?_, rfl⟩
  obtain _ | ⟨stands, others⟩ := id stand
  · rfl
  · rename_i text _ texts _
    have length : (listText (text :: texts)).length = ([','].intercalate (text :: texts)).length + 2 := by
      simp [listText]
    have read : itemsAt (2 * (listText (text :: texts)).length + 1) _ = _ := itemsAt_texts stand (by omega) []
    obtain ⟨c, tail, begins, other⟩ := intercalate_begins stands texts [']']
    rw [← itemsAt_skipGaps begins] at read
    exact valueAt_iff.mpr (.list (skipGaps_mark rfl _) begins other read)

/-- The text as the value of the only member of an object. -/
def memberText (key : String) (text : List Char) : List Char := '\x7b' :: (quoted key ++ ':' :: (text ++ ['\x7d']))

theorem memberText_stands {text : List Char} (key : String) (stands : Stands text doc) :
    Stands (memberText key text) (.object [(.ok key, doc)] .closed) := by
  refine ⟨[], ?_, rfl⟩
  obtain ⟨own, gaps, rfl, blank, takes⟩ := stands.takes
  have length : (own ++ gaps).length + 2 < (memberText key (own ++ gaps)).length := by
    simp [memberText]
    omega
  have read := takes (2 * (memberText key (own ++ gaps)).length) (by omega) _ (mark_ends blank (.inr (.inr rfl)) [])
  have spelled : memberText key (own ++ gaps) =
      '\x7b' :: '"' :: (key.toList.flatMap escapedChar ++ '"' :: ':' :: (own ++ (gaps ++ ['\x7d']))) := by
    rw [memberText, quoted_append, List.append_assoc]
  rw [spelled] at read ⊢
  refine valueAt_iff.mpr (.object (skipGaps_mark rfl _) (skipGaps_mark rfl _) (by decide) (membersAt_iff.mpr ?_))
  have closes : skipGaps (gaps ++ ['\x7d']) = ['\x7d'] := (skipGaps_gaps blank _).trans (skipGaps_mark rfl _)
  exact .last rfl (stringValue_spelled key _) (skipGaps_mark rfl _) read closes

end Plotline.Json
