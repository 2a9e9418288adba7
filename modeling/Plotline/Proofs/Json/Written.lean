import Plotline.Json.Decoder
import Plotline.Proofs.Json.Layout

/-!
Decoders on the trees of written values. A `Decoder.Reads` says that a decoder makes a given value out of a written one,
wherever the written one stands in a text; the lemmas build it up along the shapes in which values are written.
-/

namespace Plotline

namespace Setting

/-- Lists and objects may be opened to the given depth. -/
def Allows (levels : Nat) : Setting → Prop
  | text room => levels ≤ room
  | _ => True

variable {levels more : Nat} {s : Setting}

theorem Allows.enter (allows : s.Allows (levels + 1)) : ∃ inner, s.enter = .ok inner ∧ inner.Allows levels := by
  cases s with
  | text room =>
      cases room with
      | zero => exact absurd allows (Nat.not_succ_le_zero levels)
      | succ room => exact ⟨.text room, rfl, Nat.le_of_succ_le_succ allows⟩
  | setAside => exact ⟨.setAside, rfl, trivial⟩
  | held => exact ⟨.held, rfl, trivial⟩

theorem Allows.mono (allows : s.Allows more) (fewer : levels ≤ more) : s.Allows levels := by
  cases s with
  | text room => exact Nat.le_trans fewer allows
  | setAside => trivial
  | held => trivial

end Setting

namespace Decoder

variable {α β : Type}

/-- Where `levels` more levels are free, the written value can be set aside and the decoder reads it as the value. -/
structure Reads (d : Decoder α) (levels : Nat) (v : Json) (value : α) : Prop where
  takes : ∀ room, levels ≤ room → v.tree.taken? room = none
  reads : ∀ s : Setting, s.Allows levels → d s v.tree = .ok value

variable {d : Decoder α} {levels : Nat} {v : Json} {value : α}

theorem Reads.mono {more : Nat} (reads : d.Reads levels v value) (fewer : levels ≤ more) : d.Reads more v value where
  takes room free := reads.takes room (Nat.le_trans fewer free)
  reads s allows := reads.reads s (allows.mono fewer)

theorem text_reads (s : String) : text.Reads 0 (.text s) s := ⟨fun _ _ => rfl, fun _ _ => rfl⟩

theorem boolean_reads (b : Bool) : boolean.Reads 0 (.bool b) b := ⟨fun _ _ => rfl, fun _ _ => rfl⟩

theorem natural_reads {limit n : Nat} (expected : String) (fits : n < limit) (word : limit ≤ UInt64.size) :
    (natural limit expected).Reads 0 (.natural n) n := by
  have size : UInt64.size = 18446744073709551616 := rfl
  have tree : (Json.natural n).tree = .number (.natural n) := Json.tree_number (by omega) (by omega)
  constructor
  · intro room _
    rw [tree]
    rfl
  · intro s _
    rw [tree]
    exact if_pos fits

theorem integer32_reads {n : Int} (least : -2147483648 ≤ n) (most : n < 2147483648) :
    integer32.Reads 0 (.number n) n := by
  have tree : (Json.number n).tree = .number (.ofInt n) := Json.tree_number (by omega) (by omega)
  constructor
  · intro room _
    rw [tree]
    rfl
  · intro s _
    rw [tree]
    cases n with
    | ofNat n =>
        have below : n < 2147483648 := Int.ofNat_lt.mp most
        exact if_pos below
    | negSucc n =>
        have within : n + 1 ≤ 2147483648 := by omega
        exact if_pos within

theorem single_reads {x : Single} (restored : x.Restored) : single.Reads 0 (.single x) x := by
  obtain ⟨n, tree, same⟩ := restored
  constructor
  · intro room _
    rw [Json.tree, tree]
    rfl
  · intro s _
    rw [Json.tree, tree, single, same]

theorem Reads.map {f : α → β} (reads : d.Reads levels v value) : (Decoder.map f d).Reads levels v (f value) where
  takes := reads.takes
  reads s allows := by
    unfold Decoder.map
    rw [reads.reads s allows]
    rfl

theorem Reads.optional (reads : d.Reads levels v value) (given : v.tree ≠ .null) :
    (optional d).Reads levels v (some value) where
  takes := reads.takes
  reads s allows := by
    have read := reads.reads s allows
    unfold Decoder.optional
    split
    · contradiction
    · rw [read]
      rfl

/-! ### Lists -/

variable {f : α → Json} {values : List α}

private theorem items_read (each : ∀ value ∈ values, d.Reads levels (f value) value) {s : Setting}
    (allows : s.Allows levels) : items d s (Json.itemTrees (values.map f)) = .ok values := by
  induction values with
  | nil => rfl
  | cons value values ih =>
      have first := (each value List.mem_cons_self).reads s allows
      have rest := ih fun other later => each other (List.mem_cons_of_mem value later)
      rw [List.map_cons, Json.itemTrees, items, first, rest]
      rfl

theorem list_reads (each : ∀ value ∈ values, d.Reads levels (f value) value) :
    (list d).Reads (levels + 1) (.list (values.map f)) values where
  takes room free := by
    obtain ⟨room, rfl⟩ : ∃ less, room = less + 1 := ⟨room - 1, by omega⟩
    rw [Json.tree, Doc.taken?, Doc.takenItems?_trees]
    · rfl
    · intro v member
      obtain ⟨value, isValue, rfl⟩ := List.mem_map.mp member
      exact (each value isValue).takes room (by omega)
  reads s allows := by
    obtain ⟨inner, entered, free⟩ := allows.enter
    rw [Json.tree, list, entered]
    dsimp only [bind, Except.bind]
    rw [items_read each free]
    rfl

/-! ### Records -/

namespace Fields

def names : {ts : List Type} → Fields ts → List String
  | _, .nil => []
  | _, .cons field fields => field.name :: fields.names

/-- The members hold the values of the fields in their order, a field being left out only where its value stands for
it. -/
inductive Written (levels : Nat) : {ts : List Type} → Fields ts → List (String × Json) → Values ts → Prop
  | nil : Written levels .nil [] ()
  | given {t : Type} {ts : List Type} {field : RecordField t} {fields : Fields ts} {v : Json} {value : t}
      {members : List (String × Json)} {values : Values ts} (reads : field.read.Reads levels v value)
      (rest : Written levels fields members values) :
      Written levels (.cons field fields) ((field.name, v) :: members) (value, values)
  | left {t : Type} {ts : List Type} {field : RecordField t} {fields : Fields ts} {value : t}
      {members : List (String × Json)} {values : Values ts} (absent : field.absent = some value)
      (rest : Written levels fields members values) : Written levels (.cons field fields) members (value, values)

variable {ts : List Type} {fields : Fields ts} {members : List (String × Json)} {row : Values ts}

theorem Written.takes (written : Written levels fields members row) {room : Nat} (free : levels ≤ room) :
    ∀ member ∈ members, member.2.tree.taken? room = none := by
  induction written with
  | nil => exact nofun
  | given reads rest ih =>
      intro member isMember
      rcases List.mem_cons.mp isMember with rfl | later
      · exact reads.takes room free
      · exact ih member later
  | left absent rest ih => exact ih

theorem Written.named (written : Written levels fields members row) : ∀ member ∈ members, member.1 ∈ fields.names := by
  induction written with
  | nil => exact nofun
  | given reads rest ih =>
      intro member isMember
      rcases List.mem_cons.mp isMember with rfl | later
      · exact List.mem_cons_self
      · exact List.mem_cons_of_mem _ (ih member later)
  | left absent rest ih =>
      intro member isMember
      exact List.mem_cons_of_mem _ (ih member isMember)

private theorem put_other {t : Type} {field : RecordField t} {s : Setting} {key : String} {doc : Doc} {slot : Option t}
    {slots : Slots ts} (other : key ≠ field.name) :
    put s key doc (.cons field fields) (slot, slots) =
      (fields.put s key doc slots).map fun result => result.map fun slots => (slot, slots) :=
  if_neg other

theorem Written.unnamed (written : Written levels fields members row) {name : String} (other : name ∉ fields.names) :
    ∀ member ∈ members, member.1 ≠ name := by
  intro member isMember same
  rw [← same] at other
  exact other (written.named member isMember)

/-- Members of other names leave the slot of the first field as it is. -/
private theorem ofMembers_others {t : Type} {field : RecordField t} {s : Setting} {slot : Option t} {slots : Slots ts}
    (others : ∀ member ∈ members, member.1 ≠ field.name) :
    ofMembers s (.cons field fields) (Json.memberTrees members) (slot, slots) =
      (fields.ofMembers s (Json.memberTrees members) slots).map fun slots => (slot, slots) := by
  induction members generalizing slots with
  | nil => rfl
  | cons member members ih =>
      obtain ⟨key, v⟩ := member
      have other : key ≠ field.name := others (key, v) List.mem_cons_self
      have rest : ∀ member ∈ members, member.1 ≠ field.name := fun member later =>
        others member (List.mem_cons_of_mem _ later)
      rw [Json.memberTrees, ofMembers, ofMembers, put_other other]
      cases fields.put s key v.tree slots with
      | none =>
          dsimp only [Option.map_none]
          cases check v.tree.passed? with
          | error fault => rfl
          | ok _ => exact ih rest
      | some result =>
          cases result with
          | error fault => rfl
          | ok filled => exact ih rest

theorem Written.read (written : Written levels fields members row) (distinct : fields.names.Nodup) {s : Setting}
    (allows : s.Allows levels) :
    ∃ slots, fields.ofMembers s (Json.memberTrees members) fields.empty = .ok slots ∧ fields.close slots = .ok row := by
  -- Each member fills its own slot, which the members after it leave alone: their names differ from its name.
  induction written with
  | nil => exact ⟨(), rfl, rfl⟩
  | given reads rest ih =>
      rename_i field fields v value members values
      obtain ⟨fresh, distinct⟩ := List.nodup_cons.mp distinct
      obtain ⟨slots, filled, closed⟩ := ih distinct
      refine ⟨(some value, slots), ?_, ?_⟩
      · rw [Json.memberTrees, ofMembers, empty, put, if_pos rfl, reads.reads s allows]
        dsimp only [Except.map, bind, Except.bind]
        rw [ofMembers_others (rest.unnamed fresh), filled]
        rfl
      · rw [close, closed]
        rfl
  | left absent rest ih =>
      rename_i field fields value members values
      obtain ⟨fresh, distinct⟩ := List.nodup_cons.mp distinct
      obtain ⟨slots, filled, closed⟩ := ih distinct
      refine ⟨(none, slots), ?_, ?_⟩
      · rw [empty, ofMembers_others (rest.unnamed fresh), filled]
        rfl
      · rw [close, Option.none_or, absent, closed]
        rfl

end Fields

variable {ts : List Type} {fields : Fields ts} {members : List (String × Json)} {row : Values ts}

private theorem object_takes {room : Nat} (each : ∀ member ∈ members, member.2.tree.taken? room = none) :
    (Json.object members).tree.taken? (room + 1) = none := by
  rw [Json.tree, Doc.taken?, Doc.takenMembers?_trees each]
  rfl

theorem record_reads (title : String) (build : Values ts → α) (written : fields.Written levels members row)
    (distinct : fields.names.Nodup) : (record title fields build).Reads (levels + 1) (.object members) (build row) where
  takes room free := by
    obtain ⟨room, rfl⟩ : ∃ less, room = less + 1 := ⟨room - 1, by omega⟩
    exact object_takes (written.takes (Nat.le_of_succ_le_succ free))
  reads s allows := by
    obtain ⟨inner, entered, free⟩ := allows.enter
    obtain ⟨slots, filled, closed⟩ := written.read distinct free
    rw [Json.tree, record, entered]
    dsimp only [bind, Except.bind]
    rw [filled]
    dsimp only [check, ObjectEnd.taken?]
    rw [closed]
    rfl

/-! ### Tagged values -/

namespace Tagged

variable {t : Tagged α} {variant : Variant α} {name : String}

private theorem members_taken {room : Nat} (taken : (Json.object members).tree.taken? (room + 1) = none) :
    ∀ member ∈ members, member.2.tree.taken? room = none := by
  rw [Json.tree, Doc.taken?, Option.or_eq_none_iff] at taken
  have all := taken.1
  clear taken
  induction members with
  | nil => exact fun _ isMember => absurd isMember List.not_mem_nil
  | cons member members ih =>
      rw [Json.memberTrees, Doc.takenMembers?, Option.or_eq_none_iff] at all
      intro other isMember
      rcases List.mem_cons.mp isMember with rfl | later
      · exact all.1
      · exact ih all.2 other later

/-- Members beside the tag are set aside as they are. -/
private theorem ofMembers_others {s : Setting} (found : Option (Variant α))
    (others : ∀ member ∈ members, member.1 ≠ t.tag) (free : ∀ member ∈ members, s.room member.2.tree = none) :
    t.ofMembers s (Json.memberTrees members) found = .ok (found, Json.memberTrees members) := by
  induction members with
  | nil => rfl
  | cons member members ih =>
      obtain ⟨key, v⟩ := member
      have other : key ≠ t.tag := others (key, v) List.mem_cons_self
      have room : s.room v.tree = none := free (key, v) List.mem_cons_self
      have rest := ih (fun member later => others member (List.mem_cons_of_mem _ later))
        (fun member later => free member (List.mem_cons_of_mem _ later))
      have step : t.ofMembers s ((.ok key, v.tree) :: Json.memberTrees members) found = _ := if_neg other
      rw [Json.memberTrees, step, room, rest]
      rfl

private theorem ofMembers_tag {s : Setting} {doc : Doc} {docs : List (Except Break String × Doc)} :
    t.ofMembers s ((.ok t.tag, doc) :: docs) none = (t.variantOf s doc >>= fun variant => t.ofMembers s docs (some variant)) :=
  if_pos rfl

theorem decoder_reads (names : ∀ s, t.variantOf s (.text name) = .ok variant)
    (reads : variant.read.Reads (levels + 1) (.object members) value) (others : ∀ member ∈ members, member.1 ≠ t.tag) :
    t.decoder.Reads (levels + 1) (.object ((t.tag, .text name) :: members)) value where
  takes room free := by
    obtain ⟨room, rfl⟩ : ∃ less, room = less + 1 := ⟨room - 1, by omega⟩
    apply object_takes
    intro member isMember
    rcases List.mem_cons.mp isMember with rfl | later
    · rfl
    · exact members_taken (reads.takes (room + 1) free) member later
  reads s allows := by
    obtain ⟨inner, entered, free⟩ := allows.enter
    have rooms : ∀ member ∈ members, inner.room member.2.tree = none := by
      intro member isMember
      cases inner with
      | text room => exact members_taken (reads.takes (room + 1) (Nat.succ_le_succ free)) member isMember
      | setAside => rfl
      | held => rfl
    have split : t.ofMembers inner (Json.memberTrees ((t.tag, .text name) :: members)) none =
        .ok (some variant, Json.memberTrees members) := by
      have tag := names inner
      have rest := ofMembers_others (some variant) others rooms
      rw [Json.memberTrees, ofMembers_tag]
      rw [Json.tree, tag]
      exact rest
    rw [Json.tree, decoder, entered]
    dsimp only [bind, Except.bind]
    rw [split]
    exact reads.reads .setAside trivial

theorem fielded_reads (t : Tagged α) (name : String) {owner title : String} {build : Values ts → α}
    (names : ∀ s, t.variantOf s (.text name) = .ok (fielded owner title name fields build))
    (written : fields.Written levels members row) (distinct : (t.tag :: fields.names).Nodup) :
    t.decoder.Reads (levels + 1) (.object ((t.tag, .text name) :: members)) (build row) := by
  obtain ⟨untagged, distinct⟩ := List.nodup_cons.mp distinct
  exact decoder_reads names (record_reads _ build written distinct) (written.unnamed untagged)

theorem bare_reads (names : ∀ s, t.variantOf s (.text name) = .ok (bare name value)) :
    t.decoder.Reads 1 (.object [(t.tag, .text name)]) value := by
  apply decoder_reads names _ fun _ none => absurd none List.not_mem_nil
  constructor
  · intro room free
    obtain ⟨room, rfl⟩ : ∃ less, room = less + 1 := ⟨room - 1, by omega⟩
    exact object_takes nofun
  · exact fun _ _ => rfl

theorem spread_reads (title : String) (reads : t.decoder.Reads (levels + 1) (.object members) value) :
    (t.spread title).Reads (levels + 1) (.object members) value where
  takes := reads.takes
  reads s allows := by
    obtain ⟨inner, entered, free⟩ := allows.enter
    have read := reads.reads .setAside trivial
    rw [Json.tree, spread, entered]
    dsimp only [bind, Except.bind]
    cases inner with
    | text room =>
        have taken := members_taken (reads.takes (room + 1) (Nat.succ_le_succ free))
        dsimp only
        rw [Doc.takenMembers?_trees taken]
        exact read
    | setAside => exact read
    | held => exact read

end Tagged

/-! ### Whole texts -/

theorem Reads.ofText (reads : d.Reads levels v value) (shallow : levels ≤ 127) : d .ofText v.tree = .ok value :=
  reads.reads .ofText shallow

theorem read_render (d : Decoder α) (v : Json) : d.read v.render = d .ofText v.tree := by
  unfold Decoder.read readChars
  rw [Json.parse_render]
  exact bind_pure (d .ofText v.tree)

theorem read_renderPretty (d : Decoder α) (v : Json) : d.read v.renderPretty = d .ofText v.tree := by
  unfold Decoder.read readChars
  rw [Json.parse_renderPretty]
  exact bind_pure (d .ofText v.tree)

end Decoder

end Plotline
