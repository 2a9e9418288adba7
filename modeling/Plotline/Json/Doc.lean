import Plotline.Json.Fault
import Plotline.Json.Value
import Plotline.Number.Numeral

/-!
A JSON text as a tree. Reading a text never fails: where it is broken the tree holds the fault, and whoever
walks the tree in the order of the text meets the first fault that matters to it. A walk that only passes
over a value is more forgiving than one that takes the value up, so a broken leaf keeps a fault for each.
-/

namespace Plotline

/-- What stands at the place of a broken value. -/
inductive Opening
  | nothing
  | quote
  /-- The colon before the value is missing. -/
  | noColon
  | other
  deriving DecidableEq, Repr

/-- The fault that taking the value up meets, and the fault that passing over it meets, if any. -/
structure Break where
  taken : SyntaxFault
  passed : Option SyntaxFault
  deriving DecidableEq, Repr

/-- How a list ends. -/
inductive ListEnd
  | closed
  | cut
  | cutAfterComma
  | trailingComma
  | noComma
  deriving DecidableEq, Repr

/-- How an object ends; `badKey` means that something else stands at the place of a key. -/
inductive ObjectEnd
  | closed
  | cut
  | cutAfterComma
  | trailingComma
  | noComma
  | badKey
  deriving DecidableEq, Repr

inductive Doc
  | null
  | bool (b : Bool)
  | number (n : Number)
  | text (s : String)
  | list (items : List Doc) (ending : ListEnd)
  | object (members : List (Except Break String × Doc)) (ending : ObjectEnd)
  | broken (opening : Opening) (fault : Break)

namespace ListEnd

/-- The fault met when one more item is asked for. -/
def taken? : ListEnd → Option SyntaxFault
  | closed => none
  | cut => some .endInList
  | cutAfterComma => some .endInValue
  | trailingComma => some .trailingComma
  | noComma => some .expectedListMark

def passed? : ListEnd → Option SyntaxFault
  | closed => none
  | cut => some .endInList
  | cutAfterComma => some .endInValue
  | trailingComma => some .expectedValue
  | noComma => some .expectedListMark

/-- The fault met when the list has to end here. -/
def ended? : ListEnd → Option SyntaxFault
  | closed => none
  | cut => some .endInList
  | trailingComma => some .trailingComma
  | cutAfterComma | noComma => some .trailingCharacters

end ListEnd

namespace ObjectEnd

def taken? : ObjectEnd → Option SyntaxFault
  | closed => none
  | cut => some .endInObject
  | cutAfterComma => some .endInValue
  | trailingComma => some .trailingComma
  | noComma => some .expectedObjectMark
  | badKey => some .keyNotText

def passed? : ObjectEnd → Option SyntaxFault
  | closed => none
  | cut | cutAfterComma => some .endInObject
  | trailingComma | badKey => some .keyNotText
  | noComma => some .expectedObjectMark

end ObjectEnd

namespace Doc

mutual

/-- The first fault met by passing over the value. -/
def passed? : Doc → Option SyntaxFault
  | .list items ending => (passedItems? items).or ending.passed?
  | .object members ending => (passedMembers? members).or ending.passed?
  | .broken _ fault => fault.passed
  | _ => none

def passedItems? : List Doc → Option SyntaxFault
  | [] => none
  | item :: items => (passed? item).or (passedItems? items)

def passedMembers? : List (Except Break String × Doc) → Option SyntaxFault
  | [] => none
  | (.ok _, value) :: members => (passed? value).or (passedMembers? members)
  | (.error fault, value) :: members => (fault.passed.or (passed? value)).or (passedMembers? members)

end

mutual

/-- The first fault met by taking the whole value up, with `room` more levels of lists and objects. -/
def taken? (room : Nat) : Doc → Option SyntaxFault
  | .list items ending =>
    match room with
    | 0 => some .tooDeep
    | room + 1 => (takenItems? room items).or ending.taken?
  | .object members ending =>
    match room with
    | 0 => some .tooDeep
    | room + 1 => (takenMembers? room members).or ending.taken?
  | .broken _ fault => some fault.taken
  | _ => none

def takenItems? (room : Nat) : List Doc → Option SyntaxFault
  | [] => none
  | item :: items => (taken? room item).or (takenItems? room items)

def takenMembers? (room : Nat) : List (Except Break String × Doc) → Option SyntaxFault
  | [] => none
  | (.ok _, value) :: members => (taken? room value).or (takenMembers? room members)
  | (.error fault, _) :: _ => some fault.taken

end

/-- Puts a member into members sorted by key, in place of one that has its key. -/
def putSorted (key : String) (value : Doc) :
    List (Except Break String × Doc) → List (Except Break String × Doc)
  | [] => [(.ok key, value)]
  | (.ok k, v) :: members =>
    if key = k then (.ok k, value) :: members
    else if key < k then (.ok key, value) :: (.ok k, v) :: members
    else (.ok k, v) :: putSorted key value members
  | (.error fault, v) :: members => (.error fault, v) :: putSorted key value members

mutual

/-- The value as it is held in memory: members sorted by key, the last of those with equal keys. -/
def held : Doc → Doc
  | .list items ending => .list (heldItems items) ending
  | .object members ending => .object (heldMembers members []) ending
  | doc => doc

def heldItems : List Doc → List Doc
  | [] => []
  | item :: items => held item :: heldItems items

def heldMembers : List (Except Break String × Doc) → List (Except Break String × Doc) →
    List (Except Break String × Doc)
  | [], sorted => sorted
  | (.ok key, value) :: members, sorted => heldMembers members (putSorted key (held value) sorted)
  | (.error _, _) :: members, sorted => heldMembers members sorted

end

/-- The value as it is found where another one was expected, or the fault that comes first. -/
def found : Doc → Except SyntaxFault Found
  | .null => .ok .null
  | .bool b => .ok (.boolean b)
  | .number (.natural n) => .ok (.integer n)
  | .number (.negative n) => .ok (.integer (-n))
  | .number (.real x) => .ok (.real x)
  | .text s => .ok (.text s)
  | .list _ _ => .ok .sequence
  | .object _ _ => .ok .map
  | .broken _ fault => .error fault.taken

end Doc

end Plotline
