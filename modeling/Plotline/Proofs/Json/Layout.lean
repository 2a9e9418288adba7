import Plotline.Proofs.Json.Spelling

/-!
Values written with gaps between their parts. Whatever the gaps, the text is read as the tree of the value; the two
spellings in use, `Json.compact` and `Json.pretty`, differ in their gaps alone.
-/

namespace Plotline

/-- What stands between the parts of a written value: before each part at its depth, and behind each colon. -/
structure Layout where
  line : Nat → List Char
  colon : List Char
  line_gaps : ∀ depth, ∀ c ∈ line depth, Json.isGap c = true
  colon_gaps : ∀ c ∈ colon, Json.isGap c = true

namespace Layout

def tight : Layout where
  line _ := []
  colon := []
  line_gaps := by simp
  colon_gaps := by simp

def indented : Layout where
  line := Json.newLine
  colon := [' ']
  line_gaps := by
    intro depth c member
    rcases List.mem_cons.mp member with rfl | blank
    · rfl
    · rw [List.eq_of_mem_replicate blank]
      rfl
  colon_gaps := by
    intro c member
    rw [List.mem_singleton.mp member]
    rfl

variable (l : Layout)

mutual

def text (depth : Nat) : Json → List Char
  | .list (item :: items) => '[' :: (l.line (depth + 1) ++ (text (depth + 1) item ++ itemsText depth items))
  | .object ((key, value) :: members) =>
    '\x7b' :: (l.line (depth + 1) ++ (Json.quoted key
      ++ ':' :: (l.colon ++ (text (depth + 1) value ++ membersText depth members))))
  | v => Json.scalar v

def itemsText (depth : Nat) : List Json → List Char
  | [] => l.line depth ++ [']']
  | item :: items => ',' :: (l.line (depth + 1) ++ (text (depth + 1) item ++ itemsText depth items))

def membersText (depth : Nat) : List (String × Json) → List Char
  | [] => l.line depth ++ ['\x7d']
  | (key, value) :: members =>
    ',' :: (l.line (depth + 1) ++ (Json.quoted key
      ++ ':' :: (l.colon ++ (text (depth + 1) value ++ membersText depth members))))

end

end Layout

namespace Json

mutual

theorem compact_eq_text (depth : Nat) : (v : Json) → compact v = Layout.tight.text depth v
  | .null => rfl
  | .bool _ => rfl
  | .number _ => rfl
  | .single _ => rfl
  | .text _ => rfl
  | .list [] => rfl
  | .list (item :: items) => by
      have first := compact_eq_text (depth + 1) item
      have others := compactItems_eq_text depth items
      rw [compact, Layout.text, first, others]
      rfl
  | .object [] => rfl
  | .object ((key, value) :: members) => by
      have first := compact_eq_text (depth + 1) value
      have others := compactMembers_eq_text depth members
      rw [compact, Layout.text, first, others]
      simp [Layout.tight]

theorem compactItems_eq_text (depth : Nat) : (items : List Json) → compactItems items = Layout.tight.itemsText depth items
  | [] => rfl
  | item :: items => by
      have first := compact_eq_text (depth + 1) item
      have others := compactItems_eq_text depth items
      rw [compactItems, Layout.itemsText, first, others]
      rfl

theorem compactMembers_eq_text (depth : Nat) :
    (members : List (String × Json)) → compactMembers members = Layout.tight.membersText depth members
  | [] => rfl
  | (key, value) :: members => by
      have first := compact_eq_text (depth + 1) value
      have others := compactMembers_eq_text depth members
      rw [compactMembers, Layout.membersText, first, others]
      simp [Layout.tight]

end

mutual

theorem prettyAt_eq_text (depth : Nat) : (v : Json) → prettyAt depth v = Layout.indented.text depth v
  | .null => rfl
  | .bool _ => rfl
  | .number _ => rfl
  | .single _ => rfl
  | .text _ => rfl
  | .list [] => rfl
  | .list (item :: items) => by
      have first := prettyAt_eq_text (depth + 1) item
      have others := prettyItems_eq_text depth items
      rw [prettyAt, Layout.text, first, others]
      simp [Layout.indented]
  | .object [] => rfl
  | .object ((key, value) :: members) => by
      have first := prettyAt_eq_text (depth + 1) value
      have others := prettyMembers_eq_text depth members
      rw [prettyAt, Layout.text, first, others]
      simp [Layout.indented]

theorem prettyItems_eq_text (depth : Nat) :
    (items : List Json) → prettyItems depth items = Layout.indented.itemsText depth items
  | [] => rfl
  | item :: items => by
      have first := prettyAt_eq_text (depth + 1) item
      have others := prettyItems_eq_text depth items
      rw [prettyItems, Layout.itemsText, first, others]
      simp [Layout.indented]

theorem prettyMembers_eq_text (depth : Nat) :
    (members : List (String × Json)) → prettyMembers depth members = Layout.indented.membersText depth members
  | [] => rfl
  | (key, value) :: members => by
      have first := prettyAt_eq_text (depth + 1) value
      have others := prettyMembers_eq_text depth members
      rw [prettyMembers, Layout.membersText, first, others]
      simp [Layout.indented]

end

/-! ### Reading -/

theorem skipGaps_gaps {gaps : List Char} (all : ∀ c ∈ gaps, isGap c = true) (rest : List Char) :
    skipGaps (gaps ++ rest) = skipGaps rest :=
  List.dropWhile_append_of_pos all

theorem skipGaps_mark {c : Char} (mark : isGap c = false) (rest : List Char) :
    skipGaps (c :: rest) = c :: rest :=
  List.dropWhile_cons_of_neg (Bool.eq_false_iff.mp mark)

private theorem valueAt_of_spells {text : List Char} {doc : Doc} (spells : Spells text doc) {rest : List Char}
    (ends : Ends rest) (fuel : Nat) : valueAt (fuel + 1) (text ++ rest) = (doc, some rest) := by
  obtain ⟨c, cs, rfl, begins, list, object, read⟩ := spells
  rw [valueAt, List.cons_append, skipGaps_mark begins.1]
  split
  · contradiction
  · rename_i is
    exact absurd (List.cons.inj is).1 list
  · rename_i is
    exact absurd (List.cons.inj is).1 object
  · rename_i is
    obtain ⟨rfl, rfl⟩ := List.cons.inj is
    exact read rest ends

/-- A written value begins as a value, and what follows it is not taken for a part of it. -/
theorem text_begins (l : Layout) (depth : Nat) (v : Json) : ∃ c cs, l.text depth v = c :: cs ∧ Begins c := by
  have of_spells : ∀ {text doc}, Spells text doc → ∃ c cs, text = c :: cs ∧ Begins c := by
    rintro text doc ⟨c, cs, is, begins, -⟩
    exact ⟨c, cs, is, begins⟩
  cases v with
  | null => exact of_spells null_spells
  | bool b => exact of_spells (bool_spells b)
  | number n => exact of_spells (number_spells n)
  | single x => exact of_spells (single_spells x)
  | text s => exact of_spells (quoted_spells s)
  | list items =>
      cases items with
      | nil => exact ⟨'[', [']'], rfl, by decide⟩
      | cons item items => exact ⟨'[', _, rfl, by decide⟩
  | object members =>
      cases members with
      | nil => exact ⟨'\x7b', ['\x7d'], rfl, by decide⟩
      | cons member members => exact ⟨'\x7b', _, rfl, by decide⟩

private theorem skipGaps_text (l : Layout) (depth : Nat) (v : Json) {gaps : List Char}
    (all : ∀ c ∈ gaps, isGap c = true) (rest : List Char) :
    skipGaps (gaps ++ (l.text depth v ++ rest)) = l.text depth v ++ rest := by
  obtain ⟨c, cs, is, begins⟩ := text_begins l depth v
  rw [skipGaps_gaps all, is]
  exact skipGaps_mark begins.1 _

theorem gap_ends {c : Char} (gap : isGap c = true) (rest : List Char) : Ends (c :: rest) := by
  have cases : c = ' ' ∨ c = '\n' ∨ c = '\t' ∨ c = '\r' := by simpa [isGap, or_assoc] using gap
  rcases cases with rfl | rfl | rfl | rfl <;> exact ⟨by decide, by decide, by decide, by decide⟩

private theorem line_ends (l : Layout) (depth : Nat) {c : Char} {rest : List Char} (ends : Ends (c :: rest)) :
    Ends (l.line depth ++ c :: rest) := by
  have gaps := l.line_gaps depth
  generalize l.line depth = line at gaps
  cases line with
  | nil => exact ends
  | cons g line => exact gap_ends (gaps g List.mem_cons_self) _

private theorem itemsText_ends (l : Layout) (depth : Nat) (items : List Json) (rest : List Char) :
    Ends (l.itemsText depth items ++ rest) := by
  cases items with
  | nil =>
      rw [Layout.itemsText, List.append_assoc]
      exact line_ends l depth ⟨by decide, by decide, by decide, by decide⟩
  | cons item items => exact ⟨by decide, by decide, by decide, by decide⟩

private theorem membersText_ends (l : Layout) (depth : Nat) (members : List (String × Json)) (rest : List Char) :
    Ends (l.membersText depth members ++ rest) := by
  cases members with
  | nil =>
      rw [Layout.membersText, List.append_assoc]
      exact line_ends l depth ⟨by decide, by decide, by decide, by decide⟩
  | cons member members => exact ⟨by decide, by decide, by decide, by decide⟩

/-- The text of the value is read as its tree, with fuel for two units a character. -/
def ReadsBack (l : Layout) (depth : Nat) (v : Json) : Prop :=
  ∀ fuel rest, 2 * (l.text depth v).length ≤ fuel → Ends rest →
    valueAt fuel (l.text depth v ++ rest) = (v.tree, some rest)

private theorem readsBack_of_spells {l : Layout} {depth : Nat} {v : Json} (spells : Spells (l.text depth v) v.tree) :
    ReadsBack l depth v := by
  intro fuel rest enough ends
  obtain ⟨c, cs, is, -⟩ := spells.made
  rw [is, List.length_cons] at enough
  obtain ⟨more, rfl⟩ : ∃ more, fuel = more + 1 := ⟨fuel - 1, by omega⟩
  exact valueAt_of_spells spells ends more

private theorem itemsAt_last {fuel : Nat} {cs after rest : List Char} {item : Doc}
    (read : valueAt fuel cs = (item, some after)) (closes : skipGaps after = ']' :: rest) :
    itemsAt (fuel + 1) cs = ([item], .closed, some rest) := by
  simp only [itemsAt, read, closes]

private theorem itemsAt_more {fuel : Nat} {cs after next rest : List Char} {c : Char} {item : Doc} {items : List Doc}
    (read : valueAt fuel cs = (item, some (',' :: after))) (skipped : skipGaps after = c :: next) (begins : Begins c)
    (others : itemsAt fuel (c :: next) = (items, .closed, some rest)) :
    itemsAt (fuel + 1) cs = (item :: items, .closed, some rest) := by
  have comma : skipGaps (',' :: after) = ',' :: after := skipGaps_mark (by decide) after
  simp only [itemsAt, read, comma, skipped]
  split
  · contradiction
  · rename_i same
    exact absurd (List.cons.inj same).1 begins.2.1
  · rw [others]

private theorem itemsAt_text {l : Layout} {depth : Nat} {item : Json} {items : List Json}
    (each : ∀ v ∈ item :: items, ReadsBack l (depth + 1) v) (fuel : Nat) (rest : List Char)
    (enough : 2 * ((l.text (depth + 1) item).length + (l.itemsText depth items).length) < fuel) :
    itemsAt fuel (l.text (depth + 1) item ++ (l.itemsText depth items ++ rest)) =
      (item.tree :: itemTrees items, .closed, some rest) := by
  -- An item takes at least one character, so two units of fuel a character leave enough for the next.
  induction items generalizing item fuel with
  | nil =>
      obtain ⟨fuel, rfl⟩ : ∃ less, fuel = less + 1 := ⟨fuel - 1, by omega⟩
      have read := each item List.mem_cons_self fuel _ (by omega) (itemsText_ends l depth [] rest)
      apply itemsAt_last read
      rw [Layout.itemsText, List.append_assoc, skipGaps_gaps (l.line_gaps depth)]
      exact skipGaps_mark (by decide) rest
  | cons next items ih =>
      obtain ⟨fuel, rfl⟩ : ∃ less, fuel = less + 1 := ⟨fuel - 1, by omega⟩
      rw [Layout.itemsText, List.length_cons, List.length_append, List.length_append] at enough
      have read := each item List.mem_cons_self fuel _ (by omega) (itemsText_ends l depth (next :: items) rest)
      have later : ∀ v ∈ next :: items, ReadsBack l (depth + 1) v := fun v later =>
        each v (List.mem_cons_of_mem item later)
      have others := ih later fuel (by omega)
      obtain ⟨c, cs, is, begins⟩ := text_begins l (depth + 1) next
      rw [Layout.itemsText, List.cons_append, List.append_assoc, List.append_assoc] at read ⊢
      apply itemsAt_more read _ begins
      · rw [is, List.cons_append] at others
        exact others
      · rw [skipGaps_text l (depth + 1) next (l.line_gaps (depth + 1)), is, List.cons_append]

private theorem membersAt_last {fuel : Nat} {cs afterKey after rest : List Char} {name : String} {value : Doc}
    (named : stringValue cs = (.text name, some (':' :: afterKey))) (read : valueAt fuel afterKey = (value, some after))
    (closes : skipGaps after = '\x7d' :: rest) :
    membersAt (fuel + 1) ('"' :: cs) = ([(.ok name, value)], .closed, some rest) := by
  have colon : skipGaps (':' :: afterKey) = ':' :: afterKey := skipGaps_mark (by decide) afterKey
  simp only [membersAt, named, colon, read, closes, keyOf]

private theorem membersAt_more {fuel : Nat} {cs afterKey after next rest : List Char} {name : String} {value : Doc}
    {members : List (Except Break String × Doc)} (named : stringValue cs = (.text name, some (':' :: afterKey)))
    (read : valueAt fuel afterKey = (value, some (',' :: after))) (skipped : skipGaps after = '"' :: next)
    (others : membersAt fuel ('"' :: next) = (members, .closed, some rest)) :
    membersAt (fuel + 1) ('"' :: cs) = ((.ok name, value) :: members, .closed, some rest) := by
  have colon : skipGaps (':' :: afterKey) = ':' :: afterKey := skipGaps_mark (by decide) afterKey
  have comma : skipGaps (',' :: after) = ',' :: after := skipGaps_mark (by decide) after
  simp only [membersAt, named, colon, read, comma, skipped, keyOf]
  split
  · contradiction
  · rename_i same
    exact absurd (List.cons.inj same).1 (by decide)
  · rw [others]

theorem valueAt_gaps {gaps : List Char} (all : ∀ c ∈ gaps, isGap c = true) (fuel : Nat) (cs : List Char) :
    valueAt fuel (gaps ++ cs) = valueAt fuel cs := by
  cases fuel with
  | zero => rfl
  | succ fuel => rw [valueAt, valueAt, skipGaps_gaps all]

theorem quoted_append (s : String) (rest : List Char) :
    quoted s ++ rest = '"' :: (s.toList.flatMap escapedChar ++ '"' :: rest) := by
  simp [quoted]

private theorem membersAt_text {l : Layout} {depth : Nat} {key : String} {value : Json}
    {members : List (String × Json)} (each : ∀ m ∈ (key, value) :: members, ReadsBack l (depth + 1) m.2) (fuel : Nat)
    (rest : List Char)
    (enough : 2 * ((quoted key).length + (l.text (depth + 1) value).length + (l.membersText depth members).length) <
      fuel) :
    membersAt fuel
        (quoted key ++ ':' :: (l.colon ++ (l.text (depth + 1) value ++ (l.membersText depth members ++ rest)))) =
      ((.ok key, value.tree) :: memberTrees members, .closed, some rest) := by
  have here : ReadsBack l (depth + 1) value := each (key, value) List.mem_cons_self
  induction members generalizing key value fuel with
  | nil =>
      obtain ⟨fuel, rfl⟩ : ∃ less, fuel = less + 1 := ⟨fuel - 1, by omega⟩
      have read := here fuel _ (by omega) (membersText_ends l depth [] rest)
      rw [← valueAt_gaps l.colon_gaps] at read
      rw [quoted_append]
      apply membersAt_last (stringValue_spelled key _) read
      rw [Layout.membersText, List.append_assoc, skipGaps_gaps (l.line_gaps depth)]
      exact skipGaps_mark (by decide) rest
  | cons next members ih =>
      obtain ⟨fuel, rfl⟩ : ∃ less, fuel = less + 1 := ⟨fuel - 1, by omega⟩
      obtain ⟨nextKey, nextValue⟩ := next
      rw [Layout.membersText] at enough
      simp only [List.length_cons, List.length_append] at enough
      have later : ∀ m ∈ (nextKey, nextValue) :: members, ReadsBack l (depth + 1) m.2 := fun m later =>
        each m (List.mem_cons_of_mem _ later)
      have read := here fuel _ (by omega) (membersText_ends l depth ((nextKey, nextValue) :: members) rest)
      have others := ih later fuel (by omega) (later (nextKey, nextValue) List.mem_cons_self)
      rw [← valueAt_gaps l.colon_gaps] at read
      rw [Layout.membersText] at read ⊢
      simp only [List.cons_append, List.append_assoc, quoted_append] at read others ⊢
      apply membersAt_more (stringValue_spelled key _) read _ others
      rw [skipGaps_gaps (l.line_gaps (depth + 1))]
      exact skipGaps_mark (by decide) _

private theorem valueAt_list {fuel : Nat} {inner next rest : List Char} {c : Char} {items : List Doc}
    (skipped : skipGaps inner = c :: next) (begins : Begins c)
    (read : itemsAt fuel (c :: next) = (items, .closed, some rest)) :
    valueAt (fuel + 1) ('[' :: inner) = (.list items .closed, some rest) := by
  have bracket : skipGaps ('[' :: inner) = '[' :: inner := skipGaps_mark (by decide) inner
  simp only [valueAt, bracket, skipped]
  split
  · contradiction
  · rename_i same
    exact absurd (List.cons.inj same).1 begins.2.1
  · rw [read]

private theorem valueAt_object {fuel : Nat} {inner next rest : List Char}
    {members : List (Except Break String × Doc)} (skipped : skipGaps inner = '"' :: next)
    (read : membersAt fuel ('"' :: next) = (members, .closed, some rest)) :
    valueAt (fuel + 1) ('\x7b' :: inner) = (.object members .closed, some rest) := by
  have brace : skipGaps ('\x7b' :: inner) = '\x7b' :: inner := skipGaps_mark (by decide) inner
  simp only [valueAt, brace, skipped]
  split
  · contradiction
  · rename_i same
    exact absurd (List.cons.inj same).1 (by decide)
  · rw [read]

private theorem list_readsBack {l : Layout} {depth : Nat} {items : List Json}
    (each : ∀ v ∈ items, ReadsBack l (depth + 1) v) : ReadsBack l depth (.list items) := by
  intro fuel rest enough ends
  cases items with
  | nil =>
      have length : (l.text depth (.list [])).length = 2 := rfl
      obtain ⟨fuel, rfl⟩ : ∃ less, fuel = less + 1 := ⟨fuel - 1, by omega⟩
      rfl
  | cons item items =>
      rw [Layout.text, List.length_cons, List.length_append, List.length_append] at enough
      obtain ⟨fuel, rfl⟩ : ∃ less, fuel = less + 1 := ⟨fuel - 1, by omega⟩
      have read := itemsAt_text each fuel rest (by omega)
      have skipped := skipGaps_text l (depth + 1) item (l.line_gaps (depth + 1)) (l.itemsText depth items ++ rest)
      obtain ⟨c, cs, is, begins⟩ := text_begins l (depth + 1) item
      rw [is, List.cons_append] at read skipped
      rw [Layout.text, List.cons_append, List.append_assoc, List.append_assoc, is]
      exact valueAt_list skipped begins read

private theorem object_readsBack {l : Layout} {depth : Nat} {members : List (String × Json)}
    (each : ∀ m ∈ members, ReadsBack l (depth + 1) m.2) : ReadsBack l depth (.object members) := by
  intro fuel rest enough ends
  cases members with
  | nil =>
      have length : (l.text depth (.object [])).length = 2 := rfl
      obtain ⟨fuel, rfl⟩ : ∃ less, fuel = less + 1 := ⟨fuel - 1, by omega⟩
      rfl
  | cons member members =>
      obtain ⟨key, value⟩ := member
      rw [Layout.text] at enough ⊢
      simp only [List.length_cons, List.length_append] at enough
      obtain ⟨fuel, rfl⟩ : ∃ less, fuel = less + 1 := ⟨fuel - 1, by omega⟩
      have read := membersAt_text each fuel rest (by omega)
      simp only [List.cons_append, List.append_assoc, quoted_append] at read ⊢
      apply valueAt_object _ read
      rw [skipGaps_gaps (l.line_gaps (depth + 1))]
      exact skipGaps_mark (by decide) _

mutual

theorem readsBack (l : Layout) (depth : Nat) : (v : Json) → ReadsBack l depth v
  | .null => readsBack_of_spells null_spells
  | .bool b => readsBack_of_spells (bool_spells b)
  | .number n => readsBack_of_spells (number_spells n)
  | .single x => readsBack_of_spells (single_spells x)
  | .text s => readsBack_of_spells (quoted_spells s)
  | .list items => list_readsBack (items_readBack l (depth + 1) items)
  | .object members => object_readsBack (members_readBack l (depth + 1) members)

theorem items_readBack (l : Layout) (depth : Nat) : (items : List Json) → ∀ v ∈ items, ReadsBack l depth v
  | [] => nofun
  | item :: items => by
      have first := readsBack l depth item
      have others := items_readBack l depth items
      intro v member
      rcases List.mem_cons.mp member with rfl | later
      · exact first
      · exact others v later

theorem members_readBack (l : Layout) (depth : Nat) :
    (members : List (String × Json)) → ∀ m ∈ members, ReadsBack l depth m.2
  | [] => nofun
  | (key, value) :: members => by
      have first := readsBack l depth value
      have others := members_readBack l depth members
      intro m member
      rcases List.mem_cons.mp member with rfl | later
      · exact first
      · exact others m later

end

/-- A written value is read as its tree, and nothing is left over. -/
theorem parse_text (l : Layout) (depth : Nat) (v : Json) : Doc.parse (l.text depth v) = (v.tree, false) := by
  have read := readsBack l depth v (2 * (l.text depth v).length + 2) [] (by omega) trivial
  rw [List.append_nil] at read
  unfold Doc.parse
  rw [read]
  rfl

theorem parse_render (v : Json) : Doc.parse v.render.toList = (v.tree, false) := by
  unfold render
  rw [String.toList_ofList, compact_eq_text 0]
  exact parse_text .tight 0 v

theorem parse_renderPretty (v : Json) : Doc.parse v.renderPretty.toList = (v.tree, false) := by
  unfold renderPretty pretty
  rw [String.toList_ofList, prettyAt_eq_text]
  exact parse_text .indented 0 v

end Json

end Plotline
