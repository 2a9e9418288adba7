import Plotline.Number.Real

/-!
JSON values as they are written, with their two spellings: `Json.compact` leaves out every blank,
`Json.pretty` puts each member on its own line. The members of an object keep their order.
-/

namespace Plotline

inductive Json
  | null
  | bool (b : Bool)
  | number (n : Int)
  | single (x : Single)
  | text (s : String)
  | list (items : List Json)
  | object (members : List (String × Json))

namespace Json

def natural (n : Nat) : Json := .number n

def controlEscape (c : Char) : List Char :=
  ['\\', 'u', '0', '0', Nat.digitChar (c.toNat / 16), Nat.digitChar (c.toNat % 16)]

/-- The spelling of one character inside a string: only quote, backslash and controls are escaped. -/
def escapedChar (c : Char) : List Char :=
  if c = '"' then ['\\', '"']
  else if c = '\\' then ['\\', '\\']
  else if c = '\n' then ['\\', 'n']
  else if c = '\r' then ['\\', 'r']
  else if c = '\t' then ['\\', 't']
  else if c.toNat = 8 then ['\\', 'b']
  else if c.toNat = 12 then ['\\', 'f']
  else if c.toNat < 0x20 then controlEscape c
  else [c]

def quoted (s : String) : List Char := '"' :: s.toList.flatMap escapedChar ++ ['"']

def numeral (n : Int) : List Char :=
  match n with
  | .ofNat n => Nat.toDigits 10 n
  | .negSucc n => '-' :: Nat.toDigits 10 (n + 1)

/-- An infinite number has no numeral and is written `null`. -/
def singleNumeral (x : Single) : List Char := (x.stored?.getD "null").toList

def scalar : Json → List Char
  | .null => ['n', 'u', 'l', 'l']
  | .bool true => ['t', 'r', 'u', 'e']
  | .bool false => ['f', 'a', 'l', 's', 'e']
  | .number n => numeral n
  | .single x => singleNumeral x
  | .text s => quoted s
  | .list _ => ['[', ']']
  | .object _ => ['\x7b', '\x7d']

mutual

def compact : Json → List Char
  | .list (item :: items) => '[' :: compact item ++ compactItems items
  | .object ((key, value) :: members) => '\x7b' :: quoted key ++ ':' :: compact value ++ compactMembers members
  | v => scalar v

def compactItems : List Json → List Char
  | [] => [']']
  | item :: items => ',' :: compact item ++ compactItems items

def compactMembers : List (String × Json) → List Char
  | [] => ['\x7d']
  | (key, value) :: members => ',' :: quoted key ++ ':' :: compact value ++ compactMembers members

end

/-- A new line at the given depth, two spaces to a level. -/
def newLine (depth : Nat) : List Char := '\n' :: List.replicate (2 * depth) ' '

mutual

def prettyAt (depth : Nat) : Json → List Char
  | .list (item :: items) =>
    '[' :: newLine (depth + 1) ++ prettyAt (depth + 1) item ++ prettyItems depth items
  | .object ((key, value) :: members) =>
    '\x7b' :: newLine (depth + 1) ++ quoted key ++ ':' :: ' ' :: prettyAt (depth + 1) value
      ++ prettyMembers depth members
  | v => scalar v

def prettyItems (depth : Nat) : List Json → List Char
  | [] => newLine depth ++ [']']
  | item :: items =>
    ',' :: newLine (depth + 1) ++ prettyAt (depth + 1) item ++ prettyItems depth items

def prettyMembers (depth : Nat) : List (String × Json) → List Char
  | [] => newLine depth ++ ['\x7d']
  | (key, value) :: members =>
    ',' :: newLine (depth + 1) ++ quoted key ++ ':' :: ' ' :: prettyAt (depth + 1) value
      ++ prettyMembers depth members

end

def pretty (v : Json) : List Char := prettyAt 0 v

def render (v : Json) : String := String.ofList (compact v)

def renderPretty (v : Json) : String := String.ofList (pretty v)

end Json

end Plotline
