import Plotline.Proofs.Json.Excerpt

/-!
How a text is followed, one step at a time, as far as it can be: what the reader finds at the front of a value, of the
items of a list and of the members of an object. What it takes for a value does not depend on what stands behind, nor on
fuel that is left over.
-/

namespace Plotline.Json

variable {cs rest : List Char} {doc : Doc}

/-! ### Steps -/

/-- How a value is read from the front of a text that can be followed to its end. -/
inductive ReadsValue (fuel : Nat) (cs rest : List Char) : Doc → Prop
  | emptyList {tail : List Char} (opens : skipGaps cs = '[' :: tail) (closes : skipGaps tail = ']' :: rest) :
      ReadsValue fuel cs rest (.list [] .closed)
  | list {c : Char} {tail next : List Char} {items : List Doc} {ending : ListEnd} (opens : skipGaps cs = '[' :: tail)
      (begins : skipGaps tail = c :: next) (goesOn : c ≠ ']')
      (read : itemsAt fuel (c :: next) = (items, ending, some rest)) : ReadsValue fuel cs rest (.list items ending)
  | emptyObject {tail : List Char} (opens : skipGaps cs = '\x7b' :: tail) (closes : skipGaps tail = '\x7d' :: rest) :
      ReadsValue fuel cs rest (.object [] .closed)
  | object {c : Char} {tail next : List Char} {members : List (Except Break String × Doc)} {ending : ObjectEnd}
      (opens : skipGaps cs = '\x7b' :: tail) (begins : skipGaps tail = c :: next) (goesOn : c ≠ '\x7d')
      (read : membersAt fuel (c :: next) = (members, ending, some rest)) :
      ReadsValue fuel cs rest (.object members ending)
  | scalar {c : Char} {tail : List Char} {doc : Doc} (begins : skipGaps cs = c :: tail) (noList : c ≠ '[')
      (noObject : c ≠ '\x7b') (read : scalarValue c tail = (doc, some rest)) : ReadsValue fuel cs rest doc

theorem valueAt_iff {fuel : Nat} :
    valueAt (fuel + 1) cs = (doc, some rest) ↔ ReadsValue fuel cs rest doc := by
  constructor
  · intro read
    rw [valueAt] at read
    split at read
    · cases read
    · rename_i opens
      split at read
      · cases read
      · rename_i closes
        cases read
        exact .emptyList opens closes
      · rename_i tail _ some goesOn
        obtain ⟨c, next, begins⟩ := List.exists_cons_of_ne_nil some
        rw [begins] at read goesOn
        dsimp only at read
        obtain ⟨rfl, after⟩ := Prod.mk.inj read
        exact .list opens begins (fun is => goesOn next (is ▸ rfl)) (by rw [← after])
    · rename_i opens
      split at read
      · cases read
      · rename_i closes
        cases read
        exact .emptyObject opens closes
      · rename_i tail _ some goesOn
        obtain ⟨c, next, begins⟩ := List.exists_cons_of_ne_nil some
        rw [begins] at read goesOn
        dsimp only at read
        obtain ⟨rfl, after⟩ := Prod.mk.inj read
        exact .object opens begins (fun is => goesOn next (is ▸ rfl)) (by rw [← after])
    · rename_i noList noObject begins
      exact .scalar begins noList noObject read
  · intro read
    cases read with
    | emptyList opens closes => simp only [valueAt, opens, closes]
    | list opens begins goesOn read =>
      simp only [valueAt, opens, begins]
      split
      · contradiction
      · rename_i same
        exact absurd (List.cons.inj same).1 goesOn
      · rw [read]
    | emptyObject opens closes => simp only [valueAt, opens, closes]
    | object opens begins goesOn read =>
      simp only [valueAt, opens, begins]
      split
      · contradiction
      · rename_i same
        exact absurd (List.cons.inj same).1 goesOn
      · rw [read]
    | scalar begins noList noObject read =>
      rw [valueAt, begins]
      split
      · contradiction
      · rename_i same
        exact absurd (List.cons.inj same).1 noList
      · rename_i same
        exact absurd (List.cons.inj same).1 noObject
      · rename_i same
        obtain ⟨rfl, rfl⟩ := List.cons.inj same
        exact read

/-- How the items of a list that can be followed to its end are read from the first one on. -/
inductive ReadsItems (fuel : Nat) (cs rest : List Char) : List Doc → ListEnd → Prop
  | last {item : Doc} {after : List Char} (read : valueAt fuel cs = (item, some after))
      (closes : skipGaps after = ']' :: rest) : ReadsItems fuel cs rest [item] .closed
  | more {c : Char} {item : Doc} {after tail next : List Char} {items : List Doc} {ending : ListEnd}
      (read : valueAt fuel cs = (item, some after)) (comma : skipGaps after = ',' :: tail)
      (begins : skipGaps tail = c :: next) (goesOn : c ≠ ']')
      (others : itemsAt fuel (c :: next) = (items, ending, some rest)) : ReadsItems fuel cs rest (item :: items) ending

theorem itemsAt_iff {fuel : Nat} {items : List Doc} {ending : ListEnd} :
    itemsAt (fuel + 1) cs = (items, ending, some rest) ↔ ReadsItems fuel cs rest items ending := by
  constructor
  · intro read
    rw [itemsAt] at read
    split at read
    · cases read
    · rename_i value
      split at read
      · cases read
      · rename_i closes
        cases read
        exact .last value closes
      · rename_i tail comma
        split at read
        · cases read
        · cases read
        · rename_i some goesOn
          obtain ⟨c, next, begins⟩ := List.exists_cons_of_ne_nil some
          rw [begins] at read goesOn
          dsimp only at read
          obtain ⟨rfl, ended⟩ := Prod.mk.inj read
          obtain ⟨rfl, after⟩ := Prod.mk.inj ended
          exact .more value comma begins (fun is => goesOn next (is ▸ rfl)) (by rw [← after])
      · cases read
  · intro read
    cases read with
    | last read closes => simp only [itemsAt, read, closes]
    | more read comma begins goesOn others =>
      simp only [itemsAt, read, comma, begins]
      split
      · contradiction
      · rename_i same
        exact absurd (List.cons.inj same).1 goesOn
      · rw [others]

private theorem keyOf_scan (key : Doc) (after : Option (List Char)) : keyOf (key, after) = keyOf (key, none) := by
  cases key <;> rfl

/-- How the members of an object that can be followed to its end are read from the first one on. -/
inductive ReadsMembers (fuel : Nat) (cs rest : List Char) : List (Except Break String × Doc) → ObjectEnd → Prop
  | last {tail afterKey value after : List Char} {key doc : Doc} (quote : cs = '"' :: tail)
      (named : stringValue tail = (key, some afterKey)) (colon : skipGaps afterKey = ':' :: value)
      (read : valueAt fuel value = (doc, some after)) (closes : skipGaps after = '\x7d' :: rest) :
      ReadsMembers fuel cs rest [(keyOf (key, none), doc)] .closed
  | more {c : Char} {tail afterKey value after behind next : List Char} {key doc : Doc}
      {members : List (Except Break String × Doc)} {ending : ObjectEnd} (quote : cs = '"' :: tail)
      (named : stringValue tail = (key, some afterKey)) (colon : skipGaps afterKey = ':' :: value)
      (read : valueAt fuel value = (doc, some after)) (comma : skipGaps after = ',' :: behind)
      (begins : skipGaps behind = c :: next) (goesOn : c ≠ '\x7d')
      (others : membersAt fuel (c :: next) = (members, ending, some rest)) :
      ReadsMembers fuel cs rest ((keyOf (key, none), doc) :: members) ending

theorem membersAt_iff {fuel : Nat} {members : List (Except Break String × Doc)} {ending : ObjectEnd} :
    membersAt (fuel + 1) cs = (members, ending, some rest) ↔ ReadsMembers fuel cs rest members ending := by
  constructor
  · intro read
    unfold membersAt at read
    split at read
    · rename_i tail
      dsimp only at read
      split at read
      · cases read
      · rename_i afterKey passed
        have named : stringValue tail = ((stringValue tail).1, some afterKey) := by rw [← passed]
        rw [named, keyOf_scan] at read
        split at read
        · rename_i value colon
          split at read
          · cases read
          · rename_i value
            split at read
            · cases read
            · rename_i closes
              cases read
              exact .last rfl named colon value closes
            · rename_i behind comma
              split at read
              · cases read
              · cases read
              · rename_i some goesOn
                obtain ⟨c, next, begins⟩ := List.exists_cons_of_ne_nil some
                rw [begins] at read goesOn
                obtain ⟨rfl, ended⟩ := Prod.mk.inj read
                obtain ⟨rfl, after⟩ := Prod.mk.inj ended
                exact .more rfl named colon value comma begins (fun is => goesOn next (is ▸ rfl)) (by rw [← after])
            · cases read
        · cases read
        · cases read
    · cases read
  · intro read
    cases read with
    | last quote named colon read closes =>
      subst quote
      simp only [membersAt, named, colon, read, closes, keyOf_scan]
    | more quote named colon read comma begins goesOn others =>
      subst quote
      simp only [membersAt, named, colon, read, comma, begins, keyOf_scan]
      split
      · contradiction
      · rename_i same
        exact absurd (List.cons.inj same).1 goesOn
      · rw [others]

/-! ### What is taken for a value -/

/-- Gaps in front of a part are passed over together with it. -/
theorem split_gaps {c : Char} {tail : List Char} (begins : skipGaps cs = c :: tail) :
    ∃ gaps, cs = gaps ++ c :: tail ∧ (∀ c ∈ gaps, isGap c = true) ∧ ∀ x, skipGaps (gaps ++ c :: x) = c :: x := by
  have blank : ∀ c ∈ cs.takeWhile isGap, isGap c = true := fun _ member => List.mem_takeWhile_imp member
  have first := List.head?_dropWhile_not isGap cs
  unfold skipGaps at begins
  rw [begins] at first
  refine ⟨cs.takeWhile isGap, ?_, blank, fun x => ?_⟩
  · rw [← begins, List.takeWhile_append_dropWhile]
  · rw [skipGaps_gaps blank, skipGaps_mark first]

/-- No numeral goes on with what follows a value within a list or an object. -/
theorem mark_ends {gaps : List Char} (blank : ∀ c ∈ gaps, isGap c = true) {c : Char}
    (mark : c = ',' ∨ c = ']' ∨ c = '\x7d') (rest : List Char) : Ends (gaps ++ c :: rest) := by
  have ends : Ends (c :: rest) := by
    rcases mark with rfl | rfl | rfl <;> exact ⟨rfl, by decide, by decide, by decide⟩
  cases gaps with
  | nil => exact ends
  | cons gap gaps => exact gap_ends (blank gap List.mem_cons_self) _

/-- What is read at some fuel is read with more, and whatever stands behind it. -/
private structure Excerpts (fuel : Nat) : Prop where
  value : ∀ {cs rest : List Char} {doc : Doc}, valueAt fuel cs = (doc, some rest) →
    ∃ own, cs = own ++ rest ∧ ∀ more, fuel ≤ more → Takes (valueAt more) own doc
  items : ∀ {cs rest : List Char} {items : List Doc} {ending : ListEnd}, itemsAt fuel cs = (items, ending, some rest) →
    ∃ c own, cs = c :: own ++ rest ∧
      ∀ more, fuel ≤ more → ∀ rest, itemsAt more (c :: own ++ rest) = (items, ending, some rest)
  members : ∀ {cs rest : List Char} {members : List (Except Break String × Doc)} {ending : ObjectEnd},
    membersAt fuel cs = (members, ending, some rest) →
      ∃ c own, cs = c :: own ++ rest ∧
        ∀ more, fuel ≤ more → ∀ rest, membersAt more (c :: own ++ rest) = (members, ending, some rest)

private theorem value_excerpt {fuel : Nat} (below : Excerpts fuel) (read : ReadsValue fuel cs rest doc) :
    ∃ own, cs = own ++ rest ∧ ∀ more, fuel ≤ more → ∀ rest, Ends rest → ReadsValue more (own ++ rest) rest doc := by
  cases read with
  | emptyList opens closes =>
    obtain ⟨gaps, rfl, -, skip⟩ := split_gaps opens
    obtain ⟨inner, rfl, -, skipInner⟩ := split_gaps closes
    refine ⟨gaps ++ '[' :: (inner ++ [']']), by simp, fun more _ rest _ => ?_⟩
    rw [List.append_assoc, List.cons_append, List.append_assoc]
    exact .emptyList (skip _) (skipInner rest)
  | list opens begins goesOn read =>
    obtain ⟨gaps, rfl, -, skip⟩ := split_gaps opens
    obtain ⟨inner, rfl, -, skipInner⟩ := split_gaps begins
    obtain ⟨c, own, is, reads⟩ := below.items read
    obtain ⟨rfl, rfl⟩ := List.cons.inj is.symm
    refine ⟨gaps ++ '[' :: (inner ++ c :: own), by simp, fun more enough rest _ => ?_⟩
    rw [List.append_assoc, List.cons_append, List.append_assoc]
    exact .list (skip _) (skipInner _) goesOn (reads more enough rest)
  | emptyObject opens closes =>
    obtain ⟨gaps, rfl, -, skip⟩ := split_gaps opens
    obtain ⟨inner, rfl, -, skipInner⟩ := split_gaps closes
    refine ⟨gaps ++ '\x7b' :: (inner ++ ['\x7d']), by simp, fun more _ rest _ => ?_⟩
    rw [List.append_assoc, List.cons_append, List.append_assoc]
    exact .emptyObject (skip _) (skipInner rest)
  | object opens begins goesOn read =>
    obtain ⟨gaps, rfl, -, skip⟩ := split_gaps opens
    obtain ⟨inner, rfl, -, skipInner⟩ := split_gaps begins
    obtain ⟨c, own, is, reads⟩ := below.members read
    obtain ⟨rfl, rfl⟩ := List.cons.inj is.symm
    refine ⟨gaps ++ '\x7b' :: (inner ++ c :: own), by simp, fun more enough rest _ => ?_⟩
    rw [List.append_assoc, List.cons_append, List.append_assoc]
    exact .object (skip _) (skipInner _) goesOn (reads more enough rest)
  | scalar begins noList noObject read =>
    rename_i c tail
    obtain ⟨gaps, rfl, -, skip⟩ := split_gaps begins
    obtain ⟨own, rfl, takes⟩ := scalarValue_excerpt read
    refine ⟨gaps ++ c :: own, by simp, fun more _ rest ends => ?_⟩
    rw [List.append_assoc]
    exact .scalar (skip _) noList noObject (takes rest ends)

private theorem items_excerpt {fuel : Nat} {items : List Doc} {ending : ListEnd} (below : Excerpts fuel)
    (read : ReadsItems fuel cs rest items ending) :
    ∃ own, own ≠ [] ∧ cs = own ++ rest ∧
      ∀ more, fuel ≤ more → ∀ rest, ReadsItems more (own ++ rest) rest items ending := by
  cases read with
  | last read closes =>
    obtain ⟨first, rfl, takes⟩ := below.value read
    obtain ⟨gaps, rfl, blank, skip⟩ := split_gaps closes
    refine ⟨first ++ (gaps ++ [']']), by simp, by simp, fun more enough rest => ?_⟩
    rw [List.append_assoc, List.append_assoc]
    exact .last (takes more enough _ (mark_ends blank (.inr (.inl rfl)) rest)) (skip rest)
  | more read comma begins goesOn others =>
    obtain ⟨first, rfl, takes⟩ := below.value read
    obtain ⟨gaps, rfl, blank, skip⟩ := split_gaps comma
    obtain ⟨inner, rfl, -, skipInner⟩ := split_gaps begins
    obtain ⟨c, own, is, reads⟩ := below.items others
    obtain ⟨rfl, rfl⟩ := List.cons.inj is.symm
    refine ⟨first ++ (gaps ++ ',' :: (inner ++ c :: own)), by simp, by simp, fun more enough rest => ?_⟩
    rw [List.append_assoc, List.append_assoc, List.cons_append, List.append_assoc]
    have value := takes more enough _ (mark_ends blank (.inl rfl) (inner ++ (c :: own ++ rest)))
    exact .more value (skip _) (skipInner _) goesOn (reads more enough rest)

private theorem members_excerpt {fuel : Nat} {members : List (Except Break String × Doc)} {ending : ObjectEnd}
    (below : Excerpts fuel) (read : ReadsMembers fuel cs rest members ending) :
    ∃ own, own ≠ [] ∧ cs = own ++ rest ∧
      ∀ more, fuel ≤ more → ∀ rest, ReadsMembers more (own ++ rest) rest members ending := by
  cases read with
  | last quote named colon read closes =>
    obtain ⟨key, rfl, names⟩ := stringValue_excerpt named
    obtain ⟨before, rfl, -, skip⟩ := split_gaps colon
    obtain ⟨value, rfl, takes⟩ := below.value read
    obtain ⟨gaps, rfl, blank, skipInner⟩ := split_gaps closes
    refine ⟨'"' :: (key ++ (before ++ ':' :: (value ++ (gaps ++ ['\x7d'])))), nofun, by simp [quote],
      fun more enough rest => ?_⟩
    simp only [List.cons_append, List.append_assoc]
    exact .last rfl (names _) (skip _) (takes more enough _ (mark_ends blank (.inr (.inr rfl)) rest)) (skipInner rest)
  | more quote named colon read comma begins goesOn others =>
    obtain ⟨key, rfl, names⟩ := stringValue_excerpt named
    obtain ⟨before, rfl, -, skip⟩ := split_gaps colon
    obtain ⟨value, rfl, takes⟩ := below.value read
    obtain ⟨gaps, rfl, blank, skipInner⟩ := split_gaps comma
    obtain ⟨inner, rfl, -, skipNext⟩ := split_gaps begins
    obtain ⟨c, own, is, reads⟩ := below.members others
    obtain ⟨rfl, rfl⟩ := List.cons.inj is.symm
    refine ⟨'"' :: (key ++ (before ++ ':' :: (value ++ (gaps ++ ',' :: (inner ++ c :: own))))), nofun,
      by simp [quote], fun more enough rest => ?_⟩
    simp only [List.cons_append, List.append_assoc]
    have value := takes more enough _ (mark_ends blank (.inl rfl) (inner ++ (c :: own ++ rest)))
    exact .more rfl (names _) (skip _) value (skipInner _) (skipNext _) goesOn (reads more enough rest)

private theorem excerpts (fuel : Nat) : Excerpts fuel := by
  -- The three readers call each other with one less, so what is said of them is proved together.
  induction fuel with
  | zero => exact ⟨nofun, nofun, nofun⟩
  | succ fuel ih =>
    have further {more : Nat} (enough : fuel + 1 ≤ more) : ∃ less, more = less + 1 ∧ fuel ≤ less :=
      ⟨more - 1, by omega, by omega⟩
    constructor
    · intro cs rest doc read
      obtain ⟨own, is, reads⟩ := value_excerpt ih (valueAt_iff.mp read)
      refine ⟨own, is, fun more enough rest ends => ?_⟩
      obtain ⟨less, rfl, still⟩ := further enough
      exact valueAt_iff.mpr (reads less still rest ends)
    · intro cs rest items ending read
      obtain ⟨own, some, is, reads⟩ := items_excerpt ih (itemsAt_iff.mp read)
      obtain ⟨c, own, rfl⟩ := List.exists_cons_of_ne_nil some
      refine ⟨c, own, is, fun more enough rest => ?_⟩
      obtain ⟨less, rfl, still⟩ := further enough
      exact itemsAt_iff.mpr (reads less still rest)
    · intro cs rest members ending read
      obtain ⟨own, some, is, reads⟩ := members_excerpt ih (membersAt_iff.mp read)
      obtain ⟨c, own, rfl⟩ := List.exists_cons_of_ne_nil some
      refine ⟨c, own, is, fun more enough rest => ?_⟩
      obtain ⟨less, rfl, still⟩ := further enough
      exact membersAt_iff.mpr (reads less still rest)

theorem valueAt_excerpt {fuel : Nat} (read : valueAt fuel cs = (doc, some rest)) :
    ∃ own, cs = own ++ rest ∧ ∀ more, fuel ≤ more → Takes (valueAt more) own doc :=
  (excerpts fuel).value read

end Plotline.Json
