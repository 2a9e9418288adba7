import Plotline.Json.Doc

/-!
Reading a JSON text into its tree. The reader goes on as far as the text can be followed; what remains
unread after the value is only asked whether it is blank.
-/

namespace Plotline

namespace Json

def isGap (c : Char) : Bool := c == ' ' || c == '\n' || c == '\t' || c == '\r'

def skipGaps (cs : List Char) : List Char := cs.dropWhile isGap

/-- A string after its opening quote: the text if it can be taken up, and what follows if it can be passed. -/
structure StringScan where
  taken : Except SyntaxFault (List Char)
  rest : Except SyntaxFault (List Char)

namespace StringScan

def fail (fault : SyntaxFault) : StringScan := ⟨.error fault, .error fault⟩

def cons (c : Char) (scan : StringScan) : StringScan := { scan with taken := scan.taken.map (c :: ·) }

/-- The string can be passed over but not taken up. -/
def spoil (fault : SyntaxFault) (scan : StringScan) : StringScan := { scan with taken := .error fault }

end StringScan

def hexValue? (c : Char) : Option Nat :=
  if c.isDigit then some (c.toNat - 48)
  else if 'a' ≤ c && c ≤ 'f' then some (c.toNat - 87)
  else if 'A' ≤ c && c ≤ 'F' then some (c.toNat - 55)
  else none

/-- The unit spelled by four hexadecimal digits. -/
def unit? (a b c d : Char) : Option Nat := do
  let a ← hexValue? a
  let b ← hexValue? b
  let c ← hexValue? c
  let d ← hexValue? d
  return ((a * 16 + b) * 16 + c) * 16 + d

def isLeading (unit : Nat) : Bool := 0xd800 ≤ unit && unit ≤ 0xdbff

def isTrailing (unit : Nat) : Bool := 0xdc00 ≤ unit && unit ≤ 0xdfff

/-- Fewer than four characters follow: they are read if they fill four bytes, and are no digits then. -/
def shortUnit (cs : List Char) : SyntaxFault :=
  if 4 ≤ (String.ofList cs).utf8ByteSize then .invalidEscape else .endInText

def simpleEscape? (c : Char) : Option Char :=
  if c = '"' || c = '\\' || c = '/' then some c
  else if c = 'b' then some (Char.ofNat 8)
  else if c = 'f' then some (Char.ofNat 12)
  else if c = 'n' then some '\n'
  else if c = 'r' then some '\r'
  else if c = 't' then some '\t'
  else none

/-- What follows a leading unit: the unit that completes the pair, six characters long. -/
def pairedUnit : List Char → Except SyntaxFault Nat
  | [] => .error .endInText
  | ['\\'] => .error .endInText
  | '\\' :: 'u' :: a :: b :: c :: d :: _ =>
    match unit? a b c d with
    | none => .error .invalidEscape
    | some unit => if isTrailing unit then .ok unit else .error .loneSurrogate
  | '\\' :: 'u' :: short => .error (shortUnit short)
  | _ => .error .unfinishedPair

/-- The string from here on, the next `skip` characters apart, which are already read. -/
def scanString : Nat → List Char → StringScan
  | _, [] => .fail .endInText
  | skip + 1, _ :: rest => scanString skip rest
  | 0, '"' :: rest => ⟨.ok [], .ok rest⟩
  | 0, '\\' :: 'u' :: a :: b :: c :: d :: rest =>
    match unit? a b c d with
    | none => .fail .invalidEscape
    | some unit =>
      if isTrailing unit then (scanString 0 rest).spoil .loneSurrogate
      else if isLeading unit then
        match pairedUnit rest with
        | .ok second =>
          (scanString 6 rest).cons (Char.ofNat (0x10000 + (unit - 0xd800) * 0x400 + (second - 0xdc00)))
        | .error fault => (scanString 0 rest).spoil fault
      else (scanString 0 rest).cons (Char.ofNat unit)
  | 0, '\\' :: 'u' :: short => .fail (shortUnit short)
  | 0, '\\' :: c :: rest =>
    match simpleEscape? c with
    | some e => (scanString 0 rest).cons e
    | none => .fail .invalidEscape
  | 0, ['\\'] => .fail .endInText
  | 0, c :: rest => if c.toNat < 0x20 then .fail .controlCharacter else (scanString 0 rest).cons c

/-- A value of the tree and what follows it, if the text can be followed that far. -/
abbrev Scan := Doc × Option (List Char)

def Scan.fail (opening : Opening) (fault : SyntaxFault) : Scan := (.broken opening ⟨fault, some fault⟩, none)

def stringValue (cs : List Char) : Scan :=
  let scan := scanString 0 cs
  match scan.taken, scan.rest with
  | .ok s, .ok rest => (.text (String.ofList s), some rest)
  | .ok _, .error fault => .fail .quote fault
  | .error fault, .ok rest => (.broken .quote ⟨fault, none⟩, some rest)
  | .error fault, .error passed => (.broken .quote ⟨fault, some passed⟩, none)

/-- A word whose first letter has been seen. -/
def word (value : Doc) : List Char → List Char → Scan
  | [], rest => (value, some rest)
  | _ :: _, [] => .fail .other .endInValue
  | w :: ws, c :: cs => if c = w then word value ws cs else .fail .other .expectedWord

def digitsOf (cs : List Char) : List Nat := (cs.takeWhile Char.isDigit).map fun c => c.toNat - 48

/-- A digit is missing here; the end of the text counts as such only for who takes the numeral up. -/
def missingDigit (cs : List Char) : Scan :=
  (.broken .other ⟨if cs.isEmpty then .endInValue else .invalidNumeral, some .invalidNumeral⟩, none)

def finishNumeral (n : Numeral) (rest : List Char) : Scan :=
  match n.value with
  | some value => (.number value, some rest)
  | none => (.broken .other ⟨.numeralOutOfRange, none⟩, some rest)

def exponentPart (n : Numeral) (cs : List Char) : Scan :=
  match cs with
  | c :: cs =>
    if c = 'e' || c = 'E' then
      let (positive, cs) :=
        match cs with
        | '+' :: rest => (true, rest)
        | '-' :: rest => (false, rest)
        | other => (true, other)
      match digitsOf cs with
      | [] => missingDigit cs
      | digits => finishNumeral { n with exponent := some (positive, digits) } (cs.dropWhile Char.isDigit)
    else finishNumeral n (c :: cs)
  | [] => finishNumeral n []

def fractionPart (n : Numeral) (cs : List Char) : Scan :=
  match cs with
  | '.' :: cs =>
    match digitsOf cs with
    | [] => missingDigit cs
    | digits => exponentPart { n with fraction := some digits } (cs.dropWhile Char.isDigit)
  | other => exponentPart n other

/-- A numeral after its sign: a leading zero stands alone. -/
def numeralValue (negative : Bool) (cs : List Char) : Scan :=
  match digitsOf cs with
  | [] => missingDigit cs
  | 0 :: _ :: _ => .fail .other .invalidNumeral
  | digits => fractionPart { negative, whole := digits } (cs.dropWhile Char.isDigit)

def scalarValue (c : Char) (cs : List Char) : Scan :=
  if c = '"' then stringValue cs
  else if c = 'n' then word .null ['u', 'l', 'l'] cs
  else if c = 't' then word (.bool true) ['r', 'u', 'e'] cs
  else if c = 'f' then word (.bool false) ['a', 'l', 's', 'e'] cs
  else if c = '-' then numeralValue true cs
  else if c.isDigit then numeralValue false (c :: cs)
  else .fail .other .expectedValue

def keyOf : Scan → Except Break String
  | (.text s, _) => .ok s
  | (.broken _ fault, _) => .error fault
  | _ => .error ⟨.keyNotText, some .keyNotText⟩

mutual

/-- Every level of nesting and every item takes one unit of `fuel`; a text never needs more units than it
has characters. -/
def valueAt (fuel : Nat) (cs : List Char) : Scan :=
  match fuel with
  | 0 => .fail .nothing .endInValue
  | fuel + 1 =>
    match skipGaps cs with
    | [] => .fail .nothing .endInValue
    | '[' :: rest =>
      match skipGaps rest with
      | [] => (.list [] .cut, none)
      | ']' :: after => (.list [] .closed, some after)
      | first =>
        let (items, ending, after) := itemsAt fuel first
        (.list items ending, after)
    | '\x7b' :: rest =>
      match skipGaps rest with
      | [] => (.object [] .cut, none)
      | '\x7d' :: after => (.object [] .closed, some after)
      | first =>
        let (members, ending, after) := membersAt fuel first
        (.object members ending, after)
    | c :: rest => scalarValue c rest

/-- The items of a list from the first character of one of them. -/
def itemsAt (fuel : Nat) (cs : List Char) : List Doc × ListEnd × Option (List Char) :=
  match fuel with
  | 0 => ([], .cut, none)
  | fuel + 1 =>
    match valueAt fuel cs with
    | (item, none) => ([item], .cut, none)
    | (item, some after) =>
      match skipGaps after with
      | [] => ([item], .cut, none)
      | ']' :: rest => ([item], .closed, some rest)
      | ',' :: rest =>
        match skipGaps rest with
        | [] => ([item], .cutAfterComma, none)
        | ']' :: _ => ([item], .trailingComma, none)
        | next =>
          let (items, ending, after) := itemsAt fuel next
          (item :: items, ending, after)
      | _ => ([item], .noComma, none)

/-- The members of an object from the first character of one of them. -/
def membersAt (fuel : Nat) (cs : List Char) :
    List (Except Break String × Doc) × ObjectEnd × Option (List Char) :=
  match fuel with
  | 0 => ([], .cut, none)
  | fuel + 1 =>
    match cs with
    | '"' :: cs =>
      let scan := stringValue cs
      match scan.2 with
      | none => ([(keyOf scan, .null)], .cut, none)
      | some afterKey =>
        match skipGaps afterKey with
        | ':' :: rest =>
          match valueAt fuel rest with
          | (value, none) => ([(keyOf scan, value)], .cut, none)
          | (value, some after) =>
            match skipGaps after with
            | [] => ([(keyOf scan, value)], .cut, none)
            | '\x7d' :: rest => ([(keyOf scan, value)], .closed, some rest)
            | ',' :: rest =>
              match skipGaps rest with
              | [] => ([(keyOf scan, value)], .cutAfterComma, none)
              | '\x7d' :: _ => ([(keyOf scan, value)], .trailingComma, none)
              | next =>
                let (members, ending, after) := membersAt fuel next
                ((keyOf scan, value) :: members, ending, after)
            | _ => ([(keyOf scan, value)], .noComma, none)
        | [] => ([(keyOf scan, (Scan.fail .noColon .endInObject).1)], .cut, none)
        | _ => ([(keyOf scan, (Scan.fail .noColon .expectedColon).1)], .cut, none)
    | _ => ([], .badKey, none)

end

end Json

namespace Doc

/-- The tree of a text, and whether anything but gaps follows the value. -/
def parse (text : List Char) : Doc × Bool :=
  match Json.valueAt (2 * text.length + 2) text with
  | (doc, none) => (doc, false)
  | (doc, some rest) => (doc, !(Json.skipGaps rest).isEmpty)

end Doc

end Plotline
