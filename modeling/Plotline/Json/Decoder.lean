import Plotline.Json.Reader

/-!
Reading a tree as a value of a given type. A `Decoder` walks the tree in the order of the text and stops at
the first fault. A record may be written as an object or as the list of its fields; a value with a tag as an
object that holds the tag, or as a list that starts with it; a choice as its bare name.
-/

namespace Plotline

/-- Where the tree comes from: a text, in which `room` more lists and objects may be opened, the members of
a tagged object set aside until the tag was known, or a value held in memory. -/
inductive Setting
  | text (room : Nat)
  | setAside
  | held
  deriving DecidableEq, Repr

abbrev Decoder (α : Type) := Setting → Doc → Except ReadError α

namespace Setting

/-- A text nests 127 levels deep at most. -/
def ofText : Setting := .text 127

def enter : Setting → Except ReadError Setting
  | .text 0 => .error (.notJson .tooDeep)
  | .text (room + 1) => .ok (.text room)
  | other => .ok other

/-- How many levels a value that is set aside may still have. -/
def room (s : Setting) (doc : Doc) : Option SyntaxFault :=
  match s with
  | .text room => doc.taken? room
  | _ => none

end Setting

namespace Decoder

variable {α β : Type}

def fail (fault : SyntaxFault) : Except ReadError α := .error (.notJson fault)

def misfit (fault : DataFault) : Except ReadError α := .error (.misfit fault)

/-- Nothing, or the fault. -/
def check : Option SyntaxFault → Except ReadError Unit
  | none => .ok ()
  | some fault => fail fault

def mismatch (expected : String) (doc : Doc) : Except ReadError α :=
  match doc.found with
  | .ok found => misfit (.invalidType found expected)
  | .error fault => fail fault

def text : Decoder String
  | _, .text s => .ok s
  | _, doc => mismatch "a string" doc

def boolean : Decoder Bool
  | _, .bool b => .ok b
  | _, doc => mismatch "a boolean" doc

/-- A natural number below `limit`. -/
def natural (limit : Nat) (expected : String) : Decoder Nat
  | _, .number (.natural n) =>
    if n < limit then .ok n else misfit (.invalidValue (.integer n) expected)
  | _, .number (.negative n) => misfit (.invalidValue (.integer (-n)) expected)
  | _, doc => mismatch expected doc

def word32 : Decoder Nat := natural UInt32.size "u32"

def size : Decoder Nat := natural UInt64.size "usize"

/-- A whole number from `-2 ^ 31` to below `2 ^ 31`. -/
def integer32 : Decoder Int
  | _, .number (.natural n) =>
    if n < 2147483648 then .ok n else misfit (.invalidValue (.integer n) "i32")
  | _, .number (.negative n) =>
    if n ≤ 2147483648 then .ok (-n) else misfit (.invalidValue (.integer (-n)) "i32")
  | _, doc => mismatch "i32" doc

def single : Decoder Single
  | _, .number n => .ok n.toSingle
  | _, doc => mismatch "f32" doc

def map (f : α → β) (d : Decoder α) : Decoder β := fun s doc => (d s doc).map f

def optional (d : Decoder α) : Decoder (Option α)
  | _, .null => .ok none
  | s, doc => (d s doc).map some

def items (d : Decoder α) (s : Setting) : List Doc → Except ReadError (List α)
  | [] => .ok []
  | doc :: docs => do
    let first ← d s doc
    let rest ← items d s docs
    return first :: rest

def list (d : Decoder α) : Decoder (List α)
  | s, .list docs ending => do
    let inner ← s.enter
    let values ← items d inner docs
    check ending.taken?
    return values
  | _, doc => mismatch "a sequence" doc

/-- What a named choice carries. -/
inductive Body (α : Type)
  | unit (value : α)
  | wrapped (decoder : Decoder α)

def bodyOf (choices : List (String × Body α)) (name : String) : Except ReadError (Body α) :=
  match choices.lookup name with
  | some body => .ok body
  | none => misfit (.unknownVariant name (choices.map Prod.fst))

/-- What a choice carries where an object names it. -/
def chosen (choices : List (String × Body α)) (s : Setting) (name : String) (doc : Doc) :
    Except ReadError α := do
  match ← bodyOf choices name with
  | .unit value =>
    match doc with
    | .null => return value
    | _ => mismatch "unit" doc
  | .wrapped d => d s doc

/-- The end of an object that holds a single choice. -/
def closeChoice (others : List (Except Break String × Doc)) (ending : ObjectEnd) :
    Except ReadError Unit :=
  match others, ending with
  | [], .closed => .ok ()
  | [], .cut => fail .endInObject
  | _, _ => fail .expectedValue

/-- One of the named choices, written as its name or as an object with the name as its only key. In a text
anything else counts as a fault of the text; a value that is held already is then only of the wrong type. -/
def choice (choices : List (String × Body α)) : Decoder α
  | _, .text name => do
    match ← bodyOf choices name with
    | .unit value => return value
    | .wrapped _ => misfit (.invalidType .unitVariant "newtype variant")
  | .text room, .object ((key, doc) :: others) ending => do
    let inner ← Setting.enter (.text room)
    match key with
    | .error fault => fail fault.taken
    | .ok name =>
      let value ← chosen choices inner name doc
      closeChoice others ending
      return value
  | .text room, .object [] ending => do
    let _ ← Setting.enter (.text room)
    match ending with
    | .closed => fail .expectedValue
    | .cut => fail .endInObject
    | _ => fail .keyNotText
  | .text _, .broken .other _ => fail .expectedValue
  | .text _, .broken _ fault => fail fault.taken
  | .text _, _ => fail .expectedValue
  | s, .object [(.ok name, doc)] _ => chosen choices s name doc
  | _, .object _ _ => misfit (.invalidValue .map "map with a single key")
  | _, doc => mismatch "string or map" doc

/-- One of the named choices, none of which carries anything. -/
def name (choices : List (String × α)) : Decoder α :=
  choice (choices.map fun (key, value) => (key, .unit value))

/-- A field of a record: how its value is read, and which value stands for it where an object lacks it and
where a list ends before it. -/
structure RecordField (α : Type) where
  name : String
  read : Decoder α
  absent : Option α
  beyond : Option α

def required (name : String) (read : Decoder α) : RecordField α := ⟨name, read, none, none⟩

def withDefault (name : String) (read : Decoder α) (value : α) : RecordField α :=
  ⟨name, read, some value, some value⟩

/-- An optional field that a list has to spell out. -/
def spelledOut (name : String) (read : Decoder α) : RecordField (Option α) :=
  ⟨name, optional read, some none, none⟩

inductive Fields : List Type → Type 1
  | nil : Fields []
  | cons {t : Type} {ts : List Type} (field : RecordField t) (fields : Fields ts) : Fields (t :: ts)

abbrev Values : List Type → Type
  | [] => Unit
  | t :: ts => t × Values ts

abbrev Slots : List Type → Type
  | [] => Unit
  | t :: ts => Option t × Slots ts

namespace Fields

def empty : {ts : List Type} → Fields ts → Slots ts
  | _, .nil => ()
  | _, .cons _ fields => (none, fields.empty)

def count : {ts : List Type} → Fields ts → Nat
  | _, .nil => 0
  | _, .cons _ fields => fields.count + 1

/-- Puts the value under `key` into its slot; `none` if no field has that name. -/
def put (s : Setting) (key : String) (doc : Doc) :
    {ts : List Type} → Fields ts → Slots ts → Option (Except ReadError (Slots ts))
  | _, .nil, _ => none
  | _, .cons field fields, (slot, slots) =>
    if key = field.name then
      some <|
        match slot with
        | some _ => misfit (.duplicateField key)
        | none => (field.read s doc).map fun value => (some value, slots)
    else (fields.put s key doc slots).map fun result => result.map fun slots => (slot, slots)

def ofMembers (s : Setting) {ts : List Type} (fields : Fields ts) :
    List (Except Break String × Doc) → Slots ts → Except ReadError (Slots ts)
  | [], slots => .ok slots
  | (.error fault, _) :: _, _ => fail fault.taken
  | (.ok key, doc) :: members, slots =>
    match fields.put s key doc slots with
    | some result => do ofMembers s fields members (← result)
    | none => do
      check doc.passed?
      ofMembers s fields members slots

/-- Every slot has to be filled or to have a value of its own. -/
def close : {ts : List Type} → Fields ts → Slots ts → Except ReadError (Values ts)
  | _, .nil, _ => .ok ()
  | _, .cons field fields, (slot, slots) => do
    match slot.or field.absent with
    | none => misfit (.missingField field.name)
    | some value => return (value, ← fields.close slots)

/-- The fields in order from a list, and the items that are left over. -/
def ofItems (s : Setting) (expected : String) (ending : ListEnd) :
    {ts : List Type} → Fields ts → Nat → List Doc → Except ReadError (Values ts × List Doc)
  | _, .nil, _, docs => .ok ((), docs)
  | _, .cons field fields, index, [] => do
    check ending.taken?
    match field.beyond with
    | none => misfit (.invalidLength index expected)
    | some value =>
      let (values, rest) ← fields.ofItems s expected ending (index + 1) []
      return ((value, values), rest)
  | _, .cons field fields, index, doc :: docs => do
    let value ← field.read s doc
    let (values, rest) ← fields.ofItems s expected ending (index + 1) docs
    return ((value, values), rest)

end Fields

def counted (n : Nat) : String := s!"{n} element" ++ (if n = 1 then "" else "s")

/-- The end of a list of which `used` items were asked for. -/
def closeList (s : Setting) (used : Nat) (left : List Doc) (ending : ListEnd) : Except ReadError Unit :=
  match s with
  | .text _ => if left.isEmpty then check ending.ended? else fail .trailingCharacters
  | .setAside =>
    if left.isEmpty then .ok ()
    else misfit (.invalidLength (used + left.length) (counted used ++ " in sequence"))
  | .held =>
    if left.isEmpty then .ok () else misfit (.invalidLength (used + left.length) "fewer elements in array")

def record (title : String) {ts : List Type} (fields : Fields ts) (build : Values ts → α) : Decoder α
  | s, .object members ending => do
    let inner ← s.enter
    let slots ← fields.ofMembers inner members fields.empty
    check ending.taken?
    return build (← fields.close slots)
  | s, .list docs ending => do
    let inner ← s.enter
    let (values, left) ← fields.ofItems inner (title ++ " with " ++ counted fields.count) ending 0 docs
    closeList s fields.count left ending
    return build values
  | _, doc => mismatch title doc

/-- What an object or a list holds beside its tag decides how a variant is read. -/
structure Variant (α : Type) where
  name : String
  read : Decoder α

def bare (name : String) (value : α) : Variant α :=
  ⟨name, fun s doc =>
    match doc with
    | .list docs ending => do
      closeList s 0 docs ending
      return value
    | _ => .ok value⟩

/-- A variant with fields; `owner` is the name of the type it belongs to. -/
def fielded (owner title name : String) {ts : List Type} (fields : Fields ts) (build : Values ts → α) :
    Variant α :=
  ⟨name, record ("struct variant " ++ owner ++ "::" ++ title) fields build⟩

/-- A type of which every value names its variant under the key `tag`. -/
structure Tagged (α : Type) where
  owner : String
  tag : String
  variants : List (Variant α)
  /-- What a name outside the list stands for. -/
  other : Option α := none

namespace Tagged

/-- The variant that a tag names; a tag set aside may also be the number of the variant. -/
def variantOf (t : Tagged α) (s : Setting) (doc : Doc) : Except ReadError (Variant α) :=
  match s, doc with
  | _, .text name =>
    match t.variants.find? (·.name == name), t.other with
    | some variant, _ => .ok variant
    | none, some value => .ok (bare name value)
    | none, none => misfit (.unknownVariant name (t.variants.map (·.name)))
  | .setAside, .number (.natural n) =>
    match t.variants[n]?, t.other with
    | some variant, _ => .ok variant
    | none, some value => .ok (bare "" value)
    | none, none => misfit (.invalidValue (.integer n) s!"variant index 0 <= i < {t.variants.length}")
  | _, doc => mismatch "variant identifier" doc

/-- Splits the members of an object into the tag and the others, which are set aside. -/
def ofMembers (t : Tagged α) (s : Setting) :
    List (Except Break String × Doc) → Option (Variant α) →
      Except ReadError (Option (Variant α) × List (Except Break String × Doc))
  | [], variant => .ok (variant, [])
  | (.error fault, _) :: _, _ => fail fault.taken
  | (.ok key, doc) :: members, variant =>
    if key = t.tag then
      match variant with
      | some _ => misfit (.duplicateField key)
      | none => do
        let variant ← t.variantOf s doc
        t.ofMembers s members (some variant)
    else do
      check (s.room doc)
      let (variant, others) ← t.ofMembers s members variant
      return (variant, (.ok key, doc) :: others)

def decoder (t : Tagged α) : Decoder α
  | s, .object members ending => do
    let inner ← s.enter
    let (variant, others) ← t.ofMembers inner members none
    check ending.taken?
    match variant with
    | none => misfit (.missingField t.tag)
    | some variant => variant.read .setAside (.object others .closed)
  | s, .list [] ending => do
    let _ ← s.enter
    check ending.taken?
    misfit (.missingField t.tag)
  | s, .list (doc :: docs) ending => do
    let inner ← s.enter
    let variant ← t.variantOf inner doc
    check (docs.findSome? inner.room)
    check ending.taken?
    variant.read .setAside (.list docs .closed)
  | _, doc => mismatch ("internally tagged enum " ++ t.owner) doc

/-- A tagged value among the members of a record that has no other fields. All members are set aside first. -/
def spread (t : Tagged α) (title : String) : Decoder α
  | s, .object members ending => do
    let inner ← s.enter
    match inner with
    | .text room => check (Doc.takenMembers? room members)
    | _ => .ok ()
    check ending.taken?
    t.decoder .setAside (.object members .closed)
  | _, doc => mismatch title doc

end Tagged

end Decoder

/-- Reads a whole text with a decoder; nothing but gaps may follow the value. -/
def Decoder.readChars {α : Type} (d : Decoder α) (text : List Char) : Except ReadError α := do
  let (doc, more) := Doc.parse text
  let value ← d .ofText doc
  if more then Decoder.fail .trailingCharacters else return value

def Decoder.read {α : Type} (d : Decoder α) (text : String) : Except ReadError α := d.readChars text.toList

end Plotline
