import Plotline.Json.Decoder

/-!
Where the values in a decoded record come from. Each is read by the decoder of its field, or it is the value that stands
for the field where it is missing, whether the record was written as an object or as a list. Numbers come from numbers
that the tree holds.
-/

namespace Plotline

theorem Except.bind_eq_ok {ε α β : Type} {x : Except ε α} {f : α → Except ε β} {b : β} :
    (x >>= f) = .ok b ↔ ∃ a, x = .ok a ∧ f a = .ok b := by
  cases x <;> simp [bind, Except.bind]

theorem Except.map_eq_ok {ε α β : Type} {x : Except ε α} {f : α → β} {b : β} :
    x.map f = .ok b ↔ ∃ a, x = .ok a ∧ f a = b := by
  cases x <;> simp [Except.map]

/-- The number occurs in the tree. -/
inductive Doc.Holds (n : Number) : Doc → Prop
  | here : Holds n (.number n)
  | item {docs : List Doc} {ending : ListEnd} {doc : Doc} (member : doc ∈ docs) (holds : Holds n doc) :
      Holds n (.list docs ending)
  | value {members : List (Except Break String × Doc)} {ending : ObjectEnd} {key : Except Break String} {doc : Doc}
      (member : (key, doc) ∈ members) (holds : Holds n doc) : Holds n (.object members ending)

def Doc.Numbers (P : Number → Prop) (doc : Doc) : Prop := ∀ n, doc.Holds n → P n

namespace Doc.Numbers

variable {P : Number → Prop}

theorem item {docs : List Doc} {ending : ListEnd} (numbers : Numbers P (.list docs ending)) :
    ∀ doc ∈ docs, doc.Numbers P :=
  fun _ member n holds => numbers n (.item member holds)

theorem value {members : List (Except Break String × Doc)} {ending : ObjectEnd}
    (numbers : Numbers P (.object members ending)) : ∀ member ∈ members, member.2.Numbers P :=
  fun _ member n holds => numbers n (.value member holds)

theorem list {docs : List Doc} {ending : ListEnd} (each : ∀ doc ∈ docs, doc.Numbers P) :
    Numbers P (.list docs ending) := by
  intro n holds
  cases holds with
  | item member holds => exact each _ member n holds

theorem object {members : List (Except Break String × Doc)} {ending : ObjectEnd}
    (each : ∀ member ∈ members, member.2.Numbers P) : Numbers P (.object members ending) := by
  intro n holds
  cases holds with
  | value member holds => exact each _ member n holds

end Doc.Numbers

namespace Decoder

variable {α β : Type} {P : Number → Prop}

theorem mismatch_ne_ok {expected : String} {doc : Doc} {value : α} : mismatch expected doc ≠ .ok value := by
  unfold mismatch
  cases doc.found <;> exact nofun

/-- The value can be read by the decoder from a tree with numbers of this kind. -/
def Gives (P : Number → Prop) (d : Decoder α) (value : α) : Prop := ∃ s doc, doc.Numbers P ∧ d s doc = .ok value

theorem gives_of_read {d : Decoder α} {text : String} {value : α} (made : d.read text = .ok value)
    (numbers : (Doc.parse text.toList).1.Numbers P) : d.Gives P value := by
  unfold Decoder.read readChars at made
  generalize Doc.parse text.toList = parsed at made numbers
  obtain ⟨doc, more⟩ := parsed
  obtain ⟨a, read, made⟩ := Except.bind_eq_ok.mp made
  cases more with
  | true => cases made
  | false =>
      cases made
      exact ⟨.ofText, doc, numbers, read⟩

theorem gives_of_map {f : α → β} {d : Decoder α} {value : β} (gives : (Decoder.map f d).Gives P value) :
    ∃ a, d.Gives P a ∧ f a = value := by
  obtain ⟨s, doc, numbers, made⟩ := gives
  obtain ⟨a, read, same⟩ := Except.map_eq_ok.mp made
  exact ⟨a, ⟨s, doc, numbers, read⟩, same⟩

theorem gives_of_single {x : Single} (gives : single.Gives P x) : ∃ n, P n ∧ n.toSingle = x := by
  obtain ⟨s, doc, numbers, made⟩ := gives
  cases doc with
  | number n =>
      cases made
      exact ⟨n, numbers n .here, rfl⟩
  | _ =>
      unfold single at made
      exact False.elim (mismatch_ne_ok made)

theorem gives_of_natural {limit n : Nat} {expected : String} (gives : (natural limit expected).Gives P n) :
    n < limit := by
  obtain ⟨s, doc, -, made⟩ := gives
  unfold natural at made
  split at made
  · split at made
    · rename_i below
      cases made
      exact below
    · cases made
  · cases made
  · exact False.elim (mismatch_ne_ok made)

theorem gives_of_integer32 {n : Int} (gives : integer32.Gives P n) : -2147483648 ≤ n ∧ n < 2147483648 := by
  obtain ⟨s, doc, -, made⟩ := gives
  unfold integer32 at made
  split at made
  · split at made
    · cases made
      omega
    · cases made
  · split at made
    · cases made
      omega
    · cases made
  · exact False.elim (mismatch_ne_ok made)

theorem gives_of_optional {d : Decoder α} {value : Option α} (gives : (optional d).Gives P value) :
    ∀ a ∈ value, d.Gives P a := by
  obtain ⟨s, doc, numbers, made⟩ := gives
  unfold optional at made
  split at made
  · cases made
    exact nofun
  · obtain ⟨a, read, same⟩ := Except.map_eq_ok.mp made
    cases same
    rintro _ ⟨⟩
    exact ⟨s, doc, numbers, read⟩

private theorem items_give {d : Decoder α} {s : Setting} (docs : List Doc) {values : List α}
    (made : items d s docs = .ok values) (numbers : ∀ doc ∈ docs, doc.Numbers P) : ∀ value ∈ values, d.Gives P value := by
  induction docs generalizing values with
  | nil =>
      cases made
      exact nofun
  | cons doc docs ih =>
      unfold items at made
      obtain ⟨first, read, made⟩ := Except.bind_eq_ok.mp made
      obtain ⟨rest, others, made⟩ := Except.bind_eq_ok.mp made
      cases made
      intro value member
      rcases List.mem_cons.mp member with rfl | later
      · exact ⟨s, doc, numbers doc List.mem_cons_self, read⟩
      · exact ih others (fun doc later => numbers doc (List.mem_cons_of_mem _ later)) value later

theorem gives_of_list {d : Decoder α} {values : List α} (gives : (Decoder.list d).Gives P values) :
    ∀ value ∈ values, d.Gives P value := by
  obtain ⟨s, doc, numbers, made⟩ := gives
  cases doc with
  | list docs ending =>
      obtain ⟨inner, -, made⟩ := Except.bind_eq_ok.mp made
      obtain ⟨read, items, made⟩ := Except.bind_eq_ok.mp made
      obtain ⟨-, -, made⟩ := Except.bind_eq_ok.mp made
      cases made
      exact items_give docs items numbers.item
  | _ =>
      unfold list at made
      exact False.elim (mismatch_ne_ok made)

/-! ### Fields -/

def RecordField.Gives (P : Number → Prop) (field : RecordField α) (value : α) : Prop :=
  field.read.Gives P value ∨ field.absent = some value ∨ field.beyond = some value

theorem RecordField.required_gives {name : String} {d : Decoder α} {value : α} (gives : (required name d).Gives P value) :
    d.Gives P value := by
  rcases gives with read | absent | beyond
  · exact read
  · cases absent
  · cases beyond

theorem RecordField.default_gives {name : String} {d : Decoder α} {standard value : α}
    (gives : (withDefault name d standard).Gives P value) : d.Gives P value ∨ value = standard := by
  rcases gives with read | absent | beyond
  · exact .inl read
  · cases absent
    exact .inr rfl
  · cases beyond
    exact .inr rfl

/-- A list that may be missing is empty there, so its items are read in any case. -/
theorem RecordField.list_gives {name : String} {d : Decoder α} {values : List α}
    (gives : (withDefault name (list d) []).Gives P values) : ∀ value ∈ values, d.Gives P value := by
  rcases gives with read | absent | beyond
  · exact gives_of_list read
  · cases absent
    exact nofun
  · cases beyond
    exact nofun

namespace Fields

def Gives (P : Number → Prop) : {ts : List Type} → Fields ts → Values ts → Prop
  | _, .nil, _ => True
  | _, .cons field fields, (value, values) => field.Gives P value ∧ fields.Gives P values

/-- Whatever is in a slot was read for its field. -/
def Fills (P : Number → Prop) : {ts : List Type} → Fields ts → Slots ts → Prop
  | _, .nil, _ => True
  | _, .cons field fields, (slot, slots) =>
    (∀ value, slot = some value → field.read.Gives P value) ∧ fields.Fills P slots

private theorem empty_fills : {ts : List Type} → (fields : Fields ts) → fields.Fills P fields.empty
  | _, .nil => trivial
  | _, .cons _ fields => ⟨nofun, fields.empty_fills⟩

private theorem put_fills {s : Setting} {key : String} {doc : Doc} (numbers : doc.Numbers P) :
    {ts : List Type} → (fields : Fields ts) → {slots slots' : Slots ts} →
      fields.put s key doc slots = some (.ok slots') → fields.Fills P slots → fields.Fills P slots'
  | _, .nil, _, _, made, _ => nomatch made
  | _, .cons field fields, (slot, slots), (slot', slots'), made, fills => by
      unfold put at made
      split at made
      · cases slot with
        | some value => cases Option.some.inj made
        | none =>
            obtain ⟨value, read, same⟩ := Except.map_eq_ok.mp (Option.some.inj made)
            cases same
            refine ⟨?_, fills.2⟩
            intro other is
            cases is
            exact ⟨s, doc, numbers, read⟩
      · obtain ⟨result, later, same⟩ := Option.map_eq_some_iff.mp made
        obtain ⟨rest, isRest, same⟩ := Except.map_eq_ok.mp same
        cases same
        rw [isRest] at later
        exact ⟨fills.1, put_fills numbers fields later fills.2⟩

private theorem ofMembers_fills {s : Setting} {ts : List Type} (fields : Fields ts)
    (members : List (Except Break String × Doc)) {slots slots' : Slots ts}
    (made : fields.ofMembers s members slots = .ok slots') (numbers : ∀ member ∈ members, member.2.Numbers P)
    (fills : fields.Fills P slots) : fields.Fills P slots' := by
  induction members generalizing slots with
  | nil =>
      cases made
      exact fills
  | cons member members ih =>
      obtain ⟨key, doc⟩ := member
      have here : doc.Numbers P := numbers (key, doc) List.mem_cons_self
      have later : ∀ member ∈ members, member.2.Numbers P := fun member later =>
        numbers member (List.mem_cons_of_mem _ later)
      cases key with
      | error fault => cases made
      | ok key =>
          unfold ofMembers at made
          split at made
          · rename_i result placed
            obtain ⟨middle, isMiddle, made⟩ := Except.bind_eq_ok.mp made
            rw [isMiddle] at placed
            exact ih made later (put_fills here fields placed fills)
          · obtain ⟨-, -, made⟩ := Except.bind_eq_ok.mp made
            exact ih made later fills

private theorem close_gives : {ts : List Type} → (fields : Fields ts) → {slots : Slots ts} → {values : Values ts} →
    fields.close slots = .ok values → fields.Fills P slots → fields.Gives P values
  | _, .nil, _, _, _, _ => trivial
  | _, .cons field fields, (slot, slots), (value, values), made, fills => by
      unfold close at made
      split at made
      · cases made
      · rename_i found given
        obtain ⟨rest, isRest, made⟩ := Except.bind_eq_ok.mp made
        cases made
        refine ⟨?_, close_gives fields isRest fills.2⟩
        cases slot with
        | some read => exact Or.inl (fills.1 _ given)
        | none => exact Or.inr (Or.inl given)

private theorem ofItems_gives {s : Setting} {expected : String} {ending : ListEnd} : {ts : List Type} →
    (fields : Fields ts) → {index : Nat} → {docs rest : List Doc} → {values : Values ts} →
      fields.ofItems s expected ending index docs = .ok (values, rest) → (∀ doc ∈ docs, doc.Numbers P) →
        fields.Gives P values
  | _, .nil, _, _, _, _, _, _ => trivial
  | _, .cons field fields, index, [], _, (value, values), made, numbers => by
      unfold ofItems at made
      obtain ⟨-, -, made⟩ := Except.bind_eq_ok.mp made
      split at made
      · cases made
      · rename_i found given
        obtain ⟨⟨others, left⟩, isOthers, made⟩ := Except.bind_eq_ok.mp made
        cases made
        exact ⟨Or.inr (Or.inr given), ofItems_gives fields isOthers numbers⟩
  | _, .cons field fields, index, doc :: docs, _, (value, values), made, numbers => by
      unfold ofItems at made
      obtain ⟨first, read, made⟩ := Except.bind_eq_ok.mp made
      obtain ⟨⟨others, left⟩, isOthers, made⟩ := Except.bind_eq_ok.mp made
      cases made
      have later : ∀ doc ∈ docs, doc.Numbers P := fun doc later => numbers doc (List.mem_cons_of_mem _ later)
      exact ⟨Or.inl ⟨s, doc, numbers doc List.mem_cons_self, read⟩, ofItems_gives fields isOthers later⟩

end Fields

theorem gives_of_record {title : String} {ts : List Type} {fields : Fields ts} {build : Values ts → α} {value : α}
    (gives : (record title fields build).Gives P value) : ∃ values, fields.Gives P values ∧ build values = value := by
  obtain ⟨s, doc, numbers, made⟩ := gives
  cases doc with
  | object members ending =>
      obtain ⟨inner, -, made⟩ := Except.bind_eq_ok.mp made
      obtain ⟨slots, read, made⟩ := Except.bind_eq_ok.mp made
      obtain ⟨-, -, made⟩ := Except.bind_eq_ok.mp made
      obtain ⟨values, closed, made⟩ := Except.bind_eq_ok.mp made
      cases made
      have filled := fields.ofMembers_fills members read numbers.value fields.empty_fills
      exact ⟨values, fields.close_gives closed filled, rfl⟩
  | list docs ending =>
      obtain ⟨inner, -, made⟩ := Except.bind_eq_ok.mp made
      obtain ⟨⟨values, left⟩, read, made⟩ := Except.bind_eq_ok.mp made
      obtain ⟨-, -, made⟩ := Except.bind_eq_ok.mp made
      cases made
      exact ⟨values, fields.ofItems_gives read numbers.item, rfl⟩
  | _ =>
      unfold record at made
      exact False.elim (mismatch_ne_ok made)

/-! ### Tagged values -/

theorem gives_of_bare {name : String} {value other : α} (gives : (bare name value).read.Gives P other) :
    other = value := by
  obtain ⟨s, doc, -, made⟩ := gives
  unfold bare at made
  dsimp only at made
  split at made
  · obtain ⟨-, -, made⟩ := Except.bind_eq_ok.mp made
    cases made
    rfl
  · cases made
    rfl

namespace Tagged

variable {t : Tagged α}

/-- A tag names one of the variants, or stands for what the others are taken for. -/
def Has (t : Tagged α) (variant : Variant α) : Prop :=
  variant ∈ t.variants ∨ ∃ name, ∃ value ∈ t.other, variant = bare name value

private theorem has_of_variantOf {s : Setting} {doc : Doc} {variant : Variant α}
    (made : t.variantOf s doc = .ok variant) : t.Has variant := by
  unfold variantOf at made
  split at made
  · rename_i name
    split at made
    · rename_i found
      cases made
      exact .inl (List.mem_of_find?_eq_some found)
    · rename_i value _ other
      cases made
      exact .inr ⟨name, value, other, rfl⟩
    · cases made
  · split at made
    · rename_i found
      cases made
      exact .inl (List.mem_of_getElem? found)
    · rename_i value _ other
      cases made
      exact .inr ⟨"", value, other, rfl⟩
    · cases made
  · exact False.elim (mismatch_ne_ok made)

private theorem ofMembers_spec {s : Setting} (members : List (Except Break String × Doc))
    {before after : Option (Variant α)} {others : List (Except Break String × Doc)}
    (made : t.ofMembers s members before = .ok (after, others)) (known : ∀ variant ∈ before, t.Has variant) :
    (∀ variant ∈ after, t.Has variant) ∧ ∀ member ∈ others, member ∈ members := by
  induction members generalizing before others with
  | nil =>
      cases made
      exact ⟨known, nofun⟩
  | cons member members ih =>
      obtain ⟨key, doc⟩ := member
      cases key with
      | error fault => cases made
      | ok key =>
          unfold ofMembers at made
          split at made
          · cases before with
            | some variant => cases made
            | none =>
                obtain ⟨variant, named, made⟩ := Except.bind_eq_ok.mp made
                obtain ⟨has, among⟩ := ih made (by rintro _ ⟨⟩; exact has_of_variantOf named)
                exact ⟨has, fun member later => List.mem_cons_of_mem _ (among member later)⟩
          · obtain ⟨-, -, made⟩ := Except.bind_eq_ok.mp made
            obtain ⟨⟨variant, rest⟩, step, made⟩ := Except.bind_eq_ok.mp made
            cases made
            obtain ⟨has, among⟩ := ih step known
            refine ⟨has, ?_⟩
            intro member isMember
            rcases List.mem_cons.mp isMember with rfl | later
            · exact List.mem_cons_self
            · exact List.mem_cons_of_mem _ (among member later)

theorem gives_of_decoder {value : α} (gives : t.decoder.Gives P value) :
    ∃ variant, t.Has variant ∧ variant.read.Gives P value := by
  obtain ⟨s, doc, numbers, made⟩ := gives
  unfold decoder at made
  split at made
  · obtain ⟨inner, -, made⟩ := Except.bind_eq_ok.mp made
    obtain ⟨⟨found, others⟩, parted, made⟩ := Except.bind_eq_ok.mp made
    obtain ⟨-, -, made⟩ := Except.bind_eq_ok.mp made
    obtain ⟨has, among⟩ := ofMembers_spec _ parted nofun
    cases found with
    | none => cases made
    | some variant =>
        have rest : (Doc.object others .closed).Numbers P := .object fun member later =>
          numbers.value member (among member later)
        exact ⟨variant, has variant rfl, .setAside, _, rest, made⟩
  · obtain ⟨-, -, made⟩ := Except.bind_eq_ok.mp made
    obtain ⟨-, -, made⟩ := Except.bind_eq_ok.mp made
    cases made
  · rename_i doc docs ending
    obtain ⟨inner, -, made⟩ := Except.bind_eq_ok.mp made
    obtain ⟨variant, named, made⟩ := Except.bind_eq_ok.mp made
    obtain ⟨-, -, made⟩ := Except.bind_eq_ok.mp made
    obtain ⟨-, -, made⟩ := Except.bind_eq_ok.mp made
    have rest : (Doc.list docs .closed).Numbers P := .list fun doc later =>
      numbers.item doc (List.mem_cons_of_mem _ later)
    exact ⟨variant, has_of_variantOf named, .setAside, _, rest, made⟩
  · exact False.elim (mismatch_ne_ok made)

theorem gives_of_closed {value : α} (closed : t.other = none) (gives : t.decoder.Gives P value) :
    ∃ variant ∈ t.variants, variant.read.Gives P value := by
  obtain ⟨variant, listed | ⟨name, other, isOther, -⟩, gives⟩ := gives_of_decoder gives
  · exact ⟨variant, listed, gives⟩
  · rw [closed] at isOther
    cases isOther

end Tagged

end Decoder

end Plotline
