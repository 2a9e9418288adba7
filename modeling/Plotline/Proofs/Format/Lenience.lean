import Plotline.Format.Program
import Plotline.Proofs.Json.Depth
import Plotline.Proofs.Json.Embedding
import Plotline.Proofs.Json.Record
import Plotline.Proofs.Json.Written

/-!
Entries that cannot be understood keep their place. A list of entries is read as the instructions of a program just if
each entry is `null` or would be read as an instruction if it stood alone, and the instructions are those, one for each
entry and in their order; so a label stands where the entry stands that is one.
-/

namespace Plotline

open Decoder

/-! ### Lists of values -/

namespace Decoder

variable {α : Type} {d : Decoder α} {s : Setting}

theorem items_eq_ok {docs : List Doc} {values : List α} :
    items d s docs = .ok values ↔ List.Forall₂ (fun doc value => d s doc = .ok value) docs values := by
  induction docs generalizing values with
  | nil =>
    rw [items, List.forall₂_nil_left_iff]
    exact ⟨fun made => (Except.ok.inj made).symm, fun is => is ▸ rfl⟩
  | cons doc docs ih =>
    rw [items, List.forall₂_cons_left_iff, Except.bind_eq_ok]
    constructor
    · rintro ⟨first, read, made⟩
      obtain ⟨rest, others, made⟩ := Except.bind_eq_ok.mp made
      cases made
      exact ⟨first, rest, read, ih.mp others, rfl⟩
    · rintro ⟨first, rest, read, others, rfl⟩
      exact ⟨first, read, Except.bind_eq_ok.mpr ⟨rest, ih.mpr others, rfl⟩⟩

theorem Fields.ofMembers_append {ts : List Type} (fields : Fields ts) (before after : List (Except Break String × Doc))
    (slots : Slots ts) :
    fields.ofMembers s (before ++ after) slots = fields.ofMembers s before slots >>= fields.ofMembers s after := by
  induction before generalizing slots with
  | nil => rfl
  | cons member before ih =>
    obtain ⟨key, doc⟩ := member
    cases key with
    | error fault => rfl
    | ok key =>
      rw [List.cons_append, ofMembers, ofMembers]
      cases fields.put s key doc slots with
      | none =>
        simp only [ih, bind_assoc]
      | some result => simp only [ih, bind_assoc]

end Decoder

namespace Instruction

/-- The names under which instructions are known. -/
def names : List String := shape.variants.map (·.name)

end Instruction

namespace Program

private def fields : Fields [Archetype, List Instruction] :=
  .cons (withDefault "archetype" Archetype.decoder .generic)
    (.cons (withDefault "instructions" (list entryDecoder) []) .nil)

variable {s : Setting} {members before after : List (Except Break String × Doc)}

/-- Members of other names are read without regard to the instructions. -/
private theorem ofMembers_others (others : ∀ member ∈ members, member.1 ≠ .ok "instructions")
    (archetype : Option Archetype) (instructions : Option (List Instruction)) :
    fields.ofMembers s members (archetype, instructions, ()) =
      (fields.ofMembers s members (archetype, none, ())).map fun slots => (slots.1, instructions, ()) := by
  induction members generalizing archetype with
  | nil => rfl
  | cons member members ih =>
    obtain ⟨key, doc⟩ := member
    obtain ⟨other, later⟩ := List.forall_mem_cons.mp others
    cases key with
    | error fault => rfl
    | ok key =>
      have noList : key ≠ "instructions" := fun is => other (congrArg Except.ok is)
      rw [Fields.ofMembers, Fields.ofMembers]
      by_cases named : key = "archetype"
      · cases archetype with
        | some given =>
          have put (x : Option (List Instruction)) :
              fields.put s key doc (some given, x, ()) = some (misfit (.duplicateField key)) := if_pos named
          rw [put, put]
          rfl
        | none =>
          have put (x : Option (List Instruction)) : fields.put s key doc (none, x, ()) =
              some ((Archetype.decoder s doc).map fun value => (some value, x, ())) := if_pos named
          rw [put, put]
          cases Archetype.decoder s doc with
          | error fault => rfl
          | ok value => exact ih later (some value)
      · have put (x : Option (List Instruction)) : fields.put s key doc (archetype, x, ()) = none := by
          simp only [fields, Fields.put, withDefault, if_neg named, if_neg noList, Option.map_none]
        rw [put, put]
        dsimp only
        cases check doc.passed? with
        | error fault => rfl
        | ok _ => exact ih later archetype

private theorem put_instructions (doc : Doc) (archetype : Option Archetype) :
    fields.put s "instructions" doc (archetype, none, ()) =
      some ((list entryDecoder s doc).map fun instructions => (archetype, some instructions, ())) := by
  show some (((list entryDecoder s doc).map fun instructions => (some instructions, ())).map (archetype, ·)) = some _
  cases list entryDecoder s doc <;> rfl

private def ofSlots (slots : Slots [Archetype, List Instruction]) : Program :=
  { archetype := slots.1.getD .generic, instructions := slots.2.1.getD [] }

private theorem decoder_of_members (room : Nat) (members : List (Except Break String × Doc)) :
    decoder (.text (room + 1)) (.object members .closed) =
      (fields.ofMembers (.text room) members (none, none, ())).map ofSlots := by
  have decoded : decoder (.text (room + 1)) (.object members .closed) =
      fields.ofMembers (.text room) members (none, none, ()) >>= fun slots => check ObjectEnd.closed.taken? >>= fun _ =>
        fields.close slots >>= fun values => .ok { archetype := values.1, instructions := values.2.1 } := rfl
  rw [decoded]
  cases fields.ofMembers (.text room) members (none, none, ()) with
  | error fault => rfl
  | ok slots =>
    obtain ⟨archetype, instructions, -⟩ := slots
    cases archetype <;> cases instructions <;> rfl

/-- The instructions of an object are those of its list, wherever it stands among other members. -/
theorem decoder_object {room : Nat} {archetype : Archetype}
    (others : ∀ member ∈ before ++ after, member.1 ≠ .ok "instructions")
    (rest : decoder (.text (room + 1)) (.object (before ++ after) .closed) = .ok { archetype }) (doc : Doc) :
    decoder (.text (room + 1)) (.object (before ++ (.ok "instructions", doc) :: after) .closed) =
      (list entryDecoder (.text room) doc).map fun instructions => { archetype, instructions } := by
  have first : ∀ member ∈ before, member.1 ≠ .ok "instructions" := fun member here =>
    others member (List.mem_append_left after here)
  have last : ∀ member ∈ after, member.1 ≠ .ok "instructions" := fun member here =>
    others member (List.mem_append_right before here)
  rw [decoder_of_members, Fields.ofMembers_append] at rest ⊢
  rw [ofMembers_others first] at rest ⊢
  cases readFirst : fields.ofMembers (.text room) before (none, none, ()) with
  | error fault =>
    rw [readFirst] at rest
    cases rest
  | ok slots =>
    rw [readFirst] at rest
    obtain ⟨found, _, _⟩ := slots
    have ends : (fields.ofMembers (.text room) after (found, none, ())).map ofSlots = .ok { archetype } := rest
    rw [ofMembers_others last] at ends
    obtain ⟨_, read, ends⟩ := Except.map_eq_ok.mp ends
    obtain ⟨⟨given, _, _⟩, readLast, rfl⟩ := Except.map_eq_ok.mp read
    have is : given.getD .generic = archetype := congrArg Program.archetype ends
    show (fields.ofMembers (.text room) ((.ok "instructions", doc) :: after) (found, none, ())).map ofSlots = _
    rw [Fields.ofMembers, put_instructions]
    cases list entryDecoder (.text room) doc with
    | error fault => rfl
    | ok instructions =>
      show (fields.ofMembers (.text room) after (found, some instructions, ())).map ofSlots = _
      rw [ofMembers_others last, readLast, ← is]
      rfl

/-- A program may also be written as the list of its fields. -/
theorem decoder_list {room : Nat} {first : Doc} {archetype : Archetype}
    (rest : Archetype.decoder (.text room) first = .ok archetype) (doc : Doc) :
    decoder (.text (room + 1)) (.list [first, doc] .closed) =
      (list entryDecoder (.text room) doc).map fun instructions => { archetype, instructions } := by
  simp only [decoder, record, Setting.enter, Fields.ofItems, withDefault, bind, Except.bind, rest]
  cases list entryDecoder (.text room) doc <;> rfl

/-- The text is a program whose instructions are the list of the entries. -/
inductive Lists (text : List Char) (entries : List Doc) (archetype : Archetype) : Prop
  | object {before after : List (Except Break String × Doc)}
      (parsed : Doc.parse text =
        (.object (before ++ (.ok "instructions", .list entries .closed) :: after) .closed, false))
      (others : ∀ member ∈ before ++ after, member.1 ≠ .ok "instructions")
      (rest : decoder .ofText (.object (before ++ after) .closed) = .ok { archetype })
  | list {first : Doc} (parsed : Doc.parse text = (.list [first, .list entries .closed] .closed, false))
      (rest : Archetype.decoder (.text 126) first = .ok archetype)

variable {text : List Char} {entries : List Doc} {archetype : Archetype}

theorem readChars_of_lists (lists : Lists text entries archetype) :
    decoder.readChars text =
      (items entryDecoder (.text 125) entries).map fun instructions => { archetype, instructions } := by
  have listed : list entryDecoder (.text 126) (.list entries .closed) = items entryDecoder (.text 125) entries := by
    show (items entryDecoder (.text 125) entries >>= fun values =>
      check ListEnd.closed.taken? >>= fun _ => .ok values) = _
    cases items entryDecoder (.text 125) entries <;> rfl
  have whole {doc : Doc} (parsed : Doc.parse text = (doc, false)) : decoder.readChars text = decoder .ofText doc := by
    unfold Decoder.readChars
    rw [parsed]
    exact bind_pure (decoder .ofText doc)
  rw [← listed]
  cases lists with
  | object parsed others rest => exact (whole parsed).trans (decoder_object others rest _)
  | list parsed rest => exact (whole parsed).trans (decoder_list rest _)

/-- An entry within a program is read as it would be alone, except that `null` stands for an unknown instruction. -/
theorem entryDecoder_of_ne_null {entry : Doc} (given : entry ≠ .null) (shallow : entry.depth ≤ 125) :
    entryDecoder (.text 125) entry = Instruction.decoder .ofText entry := by
  have same : Instruction.decoder (.text 125) entry = Instruction.decoder .ofText entry :=
    Tagged.decoder_of_depth shallow (Nat.le_trans shallow (by decide))
  unfold entryDecoder Decoder.map Decoder.optional
  rw [← same]
  split
  · contradiction
  · generalize Instruction.decoder (.text 125) _ = read
    cases read <;> rfl

end Program

namespace Instruction

variable {members before after : List (Except Break String × Doc)}

private theorem variantOf_new {name : String} (new : name ∉ names) (s : Setting) :
    shape.variantOf s (.text name) = .ok (bare name .unknown) := by
  have absent : shape.variants.find? (·.name == name) = none := by
    rw [List.find?_eq_none]
    intro variant member same
    exact new (List.mem_map.mpr ⟨variant, member, beq_iff_eq.mp same⟩)
  simp only [Tagged.variantOf, absent]
  rfl

/-- Members beside the type are set aside as they are. -/
private theorem ofMembers_untagged {room : Nat} {variant : Option (Variant Instruction)}
    (others : ∀ member ∈ members, member.1 ≠ .ok "type") (taken : Doc.takenMembers? room members = none)
    {more rest : List (Except Break String × Doc)} {found : Option (Variant Instruction)}
    (further : shape.ofMembers (.text room) more variant = .ok (found, rest)) :
    shape.ofMembers (.text room) (members ++ more) variant = .ok (found, members ++ rest) := by
  induction members with
  | nil => exact further
  | cons member members ih =>
    obtain ⟨key, doc⟩ := member
    obtain ⟨other, later⟩ := List.forall_mem_cons.mp others
    cases key with
    | error fault => cases taken
    | ok key =>
      rw [Doc.takenMembers?, Option.or_eq_none_iff] at taken
      have step : shape.ofMembers (.text room) ((.ok key, doc) :: (members ++ more)) variant = _ :=
        if_neg fun is => other (congrArg Except.ok is)
      rw [List.cons_append, step, ih later taken.2]
      show (check (doc.taken? room) >>= _) = _
      rw [taken.1]
      rfl

private theorem takenMembers?_append {room : Nat} (taken : Doc.takenMembers? room (before ++ after) = none) :
    Doc.takenMembers? room before = none ∧ Doc.takenMembers? room after = none := by
  induction before with
  | nil => exact ⟨rfl, taken⟩
  | cons member before ih =>
    obtain ⟨key, doc⟩ := member
    cases key with
    | error fault => cases taken
    | ok key =>
      rw [List.cons_append, Doc.takenMembers?, Option.or_eq_none_iff] at taken
      obtain ⟨rest, last⟩ := ih taken.2
      exact ⟨by rw [Doc.takenMembers?, taken.1, rest]; rfl, last⟩

/-- An object whose type is not known is an unknown instruction, whatever else it holds. -/
theorem decoder_of_unknown {name : String} (new : name ∉ names)
    (others : ∀ member ∈ before ++ after, member.1 ≠ .ok "type")
    (taken : Doc.taken? 127 (.object (before ++ (.ok "type", .text name) :: after) .closed) = none) :
    decoder .ofText (.object (before ++ (.ok "type", .text name) :: after) .closed) = .ok .unknown := by
  have first : ∀ member ∈ before, member.1 ≠ .ok "type" := fun member here =>
    others member (List.mem_append_left after here)
  have last : ∀ member ∈ after, member.1 ≠ .ok "type" := fun member here =>
    others member (List.mem_append_right before here)
  rw [Doc.taken?, Option.or_eq_none_iff] at taken
  obtain ⟨takenFirst, takenLast⟩ := takenMembers?_append taken.1
  have nothing : shape.ofMembers (.text 126) [] (some (bare name .unknown)) = .ok (some (bare name .unknown), []) := rfl
  have rest := ofMembers_untagged last takenLast nothing
  rw [List.append_nil] at rest
  have tagged : shape.ofMembers (.text 126) ((.ok "type", .text name) :: after) none =
      .ok (some (bare name .unknown), after) := by
    have step : shape.ofMembers (.text 126) ((.ok "type", .text name) :: after) none =
        (shape.variantOf (.text 126) (.text name) >>= fun variant =>
          shape.ofMembers (.text 126) after (some variant)) :=
      if_pos rfl
    rw [step, variantOf_new new]
    exact rest
  have parted := ofMembers_untagged first takenFirst tagged
  rw [decoder, Tagged.decoder, Setting.ofText, Setting.enter]
  dsimp only [bind, Except.bind]
  rw [parted]
  rfl

end Instruction

namespace Program

/-- What the text of an entry stands for: it is `null`, or it is an instruction when it is read alone. -/
def Stands (text : List Char) (instruction : Instruction) : Prop :=
  (Doc.parse text).1 = .null ∧ instruction = .unknown ∨ Instruction.decoder.readChars text = .ok instruction

variable {text : List Char} {texts : List (List Char)} {entries : List Doc} {archetype : Archetype}
  {instruction : Instruction}

private theorem readChars_of_null (null : (Doc.parse text).1 = .null) :
    Instruction.decoder.readChars text ≠ .ok instruction := by
  intro made
  unfold Decoder.readChars at made
  generalize Doc.parse text = parsed at null made
  obtain ⟨doc, more⟩ := parsed
  obtain rfl : doc = .null := null
  obtain ⟨value, read, -⟩ := Except.bind_eq_ok.mp made
  cases read

theorem entryDecoder_eq_ok {entry : Doc} (stands : Json.Stands text entry) (shallow : entry.depth ≤ 125) :
    entryDecoder (.text 125) entry = .ok instruction ↔ Stands text instruction := by
  have parsed := stands.parse
  have whole : Instruction.decoder.readChars text = Instruction.decoder .ofText entry := by
    unfold Decoder.readChars
    rw [parsed]
    exact bind_pure (Instruction.decoder .ofText entry)
  by_cases null : entry = .null
  · subst null
    have here : (Doc.parse text).1 = .null := congrArg Prod.fst parsed
    constructor
    · intro made
      exact .inl ⟨here, (Except.ok.inj made).symm⟩
    · rintro (⟨-, rfl⟩ | made)
      · rfl
      · exact absurd made (readChars_of_null here)
  · rw [entryDecoder_of_ne_null null shallow, ← whole]
    have other : (Doc.parse text).1 ≠ .null := fun is => null ((congrArg Prod.fst parsed).symm.trans is)
    exact ⟨.inr, fun stands => stands.resolve_left fun is => other is.1⟩

theorem stands_label {label : LabelName} (stands : Stands text instruction) :
    instruction = .label label ↔ Instruction.decoder.readChars text = .ok (.label label) := by
  rcases stands with ⟨null, rfl⟩ | made
  · exact iff_of_false nofun (readChars_of_null null)
  · rw [made, Except.ok.injEq]

/-- A label stands where the entry stands that is this label. -/
theorem findIdx?_of_stand {instructions : List Instruction} (stand : List.Forall₂ Stands texts instructions)
    (label : LabelName) : instructions.findIdx? (· = .label label) =
      texts.findIdx? fun text => Instruction.decoder.readChars text = .ok (.label label) := by
  induction stand with
  | nil => rfl
  | cons stands _ ih => rw [List.findIdx?_cons, List.findIdx?_cons, ih, decide_eq_decide.mpr (stands_label stands)]

theorem readChars_eq_ok (stand : List.Forall₂ Json.Stands texts entries)
    (shallow : ∀ entry ∈ entries, entry.depth ≤ 125) (lists : Lists text entries archetype) (p : Program) :
    decoder.readChars text = .ok p ↔ p.archetype = archetype ∧ List.Forall₂ Stands texts p.instructions := by
  have each (instructions : List Instruction) :
      items entryDecoder (.text 125) entries = .ok instructions ↔ List.Forall₂ Stands texts instructions := by
    rw [items_eq_ok]
    clear lists
    induction stand generalizing instructions with
    | nil => rw [List.forall₂_nil_left_iff, List.forall₂_nil_left_iff]
    | cons stands _ ih =>
      obtain ⟨here, later⟩ := List.forall_mem_cons.mp shallow
      simp only [List.forall₂_cons_left_iff, entryDecoder_eq_ok stands here, ih later]
  rw [readChars_of_lists lists, Except.map_eq_ok]
  constructor
  · rintro ⟨instructions, made, rfl⟩
    exact ⟨rfl, (each instructions).mp made⟩
  · rintro ⟨rfl, stand⟩
    exact ⟨p.instructions, (each p.instructions).mpr stand, rfl⟩

private theorem exists_forall₂ {α β : Type} {R : α → β → Prop} {xs : List α} :
    (∃ ys, List.Forall₂ R xs ys) ↔ ∀ x ∈ xs, ∃ y, R x y := by
  induction xs with
  | nil => exact iff_of_true ⟨[], .nil⟩ nofun
  | cons x xs ih =>
    rw [List.forall_mem_cons, ← ih]
    constructor
    · rintro ⟨ys, both⟩
      obtain ⟨y, rest, first, others, rfl⟩ := List.forall₂_cons_left_iff.mp both
      exact ⟨⟨y, first⟩, rest, others⟩
    · rintro ⟨⟨y, first⟩, ys, others⟩
      exact ⟨y :: ys, .cons first others⟩

/-- Entries that stand in texts of their own are read as the instructions of a program just if each of them is `null` or
can be read alone. What is read is one instruction for each entry, in their order, so no label changes its place. -/
theorem instructions_stand (stand : List.Forall₂ Json.Stands texts entries)
    (shallow : ∀ entry ∈ entries, entry.depth ≤ 125) :
    Lists (Json.memberText "instructions" (Json.listText texts)) entries .generic ∧
      (∀ text archetype, Lists text entries archetype →
        ((∃ p, decoder.readChars text = .ok p) ↔ ∀ entry ∈ texts, ∃ instruction, Stands entry instruction) ∧
          ∀ p, decoder.readChars text = .ok p ↔ p.archetype = archetype ∧ List.Forall₂ Stands texts p.instructions) ∧
      (∀ p : Program, List.Forall₂ Stands texts p.instructions → ∀ label, p.position? label =
        texts.findIdx? fun text => Instruction.decoder.readChars text = .ok (.label label)) ∧
      ∀ text before after name,
        Doc.parse text = (.object (before ++ (.ok "type", .text name) :: after) .closed, false) →
          (∀ member ∈ before ++ after, member.1 ≠ .ok "type") → name ∉ Instruction.names →
            Doc.taken? 127 (.object (before ++ (.ok "type", .text name) :: after) .closed) = none →
              Stands text .unknown := by
  have plain : Doc.parse (Json.memberText "instructions" (Json.listText texts)) =
      (.object [(.ok "instructions", .list entries .closed)] .closed, false) :=
    (Json.memberText_stands "instructions" (Json.listText_stands stand)).parse
  refine ⟨@Lists.object _ _ _ [] [] plain nofun rfl, fun text archetype lists => ?_,
    fun p stand => findIdx?_of_stand stand, fun text before after name parsed others new taken => .inr ?_⟩
  · have read := readChars_eq_ok stand shallow lists
    refine ⟨⟨fun ⟨p, made⟩ => exists_forall₂.mp ⟨_, ((read p).mp made).2⟩, fun each => ?_⟩, read⟩
    obtain ⟨instructions, stand⟩ := exists_forall₂.mpr each
    exact ⟨{ archetype, instructions }, (read _).mpr ⟨rfl, stand⟩⟩
  · unfold Decoder.readChars
    rw [parsed]
    show (Instruction.decoder .ofText _ >>= _) = _
    rw [Instruction.decoder_of_unknown new others taken]
    rfl

/-- One entry is `null`, and of another the type is not known. -/
def draft : List Json :=
  [.tagged "type" "jump" [("label", .text "gate")], .null,
    .object [("to", .object [("x", .natural 3)]), ("type", .text "teleport")],
    .object [("name", .text "gate"), ("note", .null), ("type", .text "label")]]

def draftTexts : List (List Char) := draft.map fun v => v.render.toList

theorem draft_stands : List.Forall₂ Json.Stands draftTexts (draft.map Json.tree) ∧
    (∀ entry ∈ draft.map Json.tree, entry.depth ≤ 125) ∧
    ∃ p, decoder.readChars (Json.memberText "instructions" (Json.listText draftTexts)) = .ok p ∧
      p.instructions = [.jump ⟨"gate"⟩, .unknown, .unknown, .label ⟨"gate"⟩] ∧ p.position? ⟨"gate"⟩ = some 3 := by
  have stand : List.Forall₂ Json.Stands draftTexts (draft.map Json.tree) := by
    rw [draftTexts, List.forall₂_map_left_iff, List.forall₂_map_right_iff, List.forall₂_same]
    exact fun v _ => Json.render_stands v
  have shallow : ∀ entry ∈ draft.map Json.tree, entry.depth ≤ 125 := by decide
  refine ⟨stand, shallow, ?_⟩
  obtain ⟨plain, reads, -, unknown⟩ := instructions_stand stand shallow
  have alone {v : Json} {i : Instruction} (made : Instruction.decoder .ofText v.tree = .ok i) :
      Stands v.render.toList i :=
    .inr ((read_render Instruction.decoder v).trans made)
  have null : (Doc.parse (Json.render .null).toList).1 = .null := congrArg Prod.fst (Json.parse_render .null)
  have third : Stands (draft[2].render.toList) .unknown :=
    unknown _ [_] [] "teleport" (Json.parse_render draft[2]) (by decide) (by decide) rfl
  have entries : List.Forall₂ Stands draftTexts [.jump ⟨"gate"⟩, .unknown, .unknown, .label ⟨"gate"⟩] :=
    .cons (alone rfl) (.cons (.inl ⟨null, rfl⟩) (.cons third (.cons (alone rfl) .nil)))
  let p : Program := { instructions := [.jump ⟨"gate"⟩, .unknown, .unknown, .label ⟨"gate"⟩] }
  exact ⟨p, ((reads _ _ plain).2 p).mpr ⟨rfl, entries⟩, rfl, by decide⟩

end Program

end Plotline
