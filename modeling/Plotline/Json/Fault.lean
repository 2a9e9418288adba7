import Plotline.Number.Real
import Plotline.Text.Quoted

/-!
Why a text is not the value it should be: a `SyntaxFault` says where the text stops being JSON, a `DataFault`
says how well-formed JSON misses the shape that was asked for.
-/

namespace Plotline

inductive SyntaxFault
  | endInValue
  | endInText
  | endInList
  | endInObject
  | expectedValue
  | expectedWord
  | expectedListMark
  | expectedObjectMark
  | expectedColon
  | invalidEscape
  | invalidNumeral
  | numeralOutOfRange
  | controlCharacter
  | keyNotText
  | loneSurrogate
  | unfinishedPair
  | trailingComma
  | trailingCharacters
  | tooDeep
  deriving DecidableEq, Repr

namespace SyntaxFault

/-- The text ended before the value did. -/
def isEnd : SyntaxFault → Bool
  | endInValue | endInText | endInList | endInObject => true
  | _ => false

def message : SyntaxFault → String
  | endInValue => "EOF while parsing a value"
  | endInText => "EOF while parsing a string"
  | endInList => "EOF while parsing a list"
  | endInObject => "EOF while parsing an object"
  | expectedValue => "expected value"
  | expectedWord => "expected ident"
  | expectedListMark => "expected `,` or `]`"
  | expectedObjectMark => "expected `,` or `\x7d`"
  | expectedColon => "expected `:`"
  | invalidEscape => "invalid escape"
  | invalidNumeral => "invalid number"
  | numeralOutOfRange => "number out of range"
  | controlCharacter => "control character (\\u0000-\\u001F) found while parsing a string"
  | keyNotText => "key must be a string"
  | loneSurrogate => "lone leading surrogate in hex escape"
  | unfinishedPair => "unexpected end of hex escape"
  | trailingComma => "trailing comma"
  | trailingCharacters => "trailing characters"
  | tooDeep => "recursion limit exceeded"

end SyntaxFault

inductive Found
  | null
  | boolean (b : Bool)
  | integer (n : Int)
  | real (x : Double)
  | text (s : String)
  | sequence
  | map
  | unitVariant
  deriving DecidableEq, Repr

namespace Found

def message : Found → String
  | null => "null"
  | boolean b => s!"boolean `{b}`"
  | integer n => s!"integer `{n}`"
  | real x => "floating point `" ++ x.render ++ "`"
  | text s => "string " ++ Text.quoted s
  | sequence => "sequence"
  | map => "map"
  | unitVariant => "unit variant"

end Found

inductive DataFault
  | invalidType (found : Found) (expected : String)
  | invalidValue (found : Found) (expected : String)
  | invalidLength (length : Nat) (expected : String)
  | unknownVariant (name : String) (known : List String)
  | missingField (name : String)
  | duplicateField (name : String)
  | invalidStatus (number : Nat)
  deriving DecidableEq, Repr

namespace DataFault

private def marked (name : String) : String := "`" ++ name ++ "`"

/-- Two names are joined by a word, more are counted off. -/
private def oneOf : List String → String
  | [] => "there are no variants"
  | [name] => "expected " ++ marked name
  | [first, second] => "expected " ++ marked first ++ " or " ++ marked second
  | names => "expected one of " ++ String.intercalate ", " (names.map marked)

def message : DataFault → String
  | invalidType found expected => "invalid type: " ++ found.message ++ ", expected " ++ expected
  | invalidValue found expected => "invalid value: " ++ found.message ++ ", expected " ++ expected
  | invalidLength length expected => s!"invalid length {length}, expected " ++ expected
  | unknownVariant name known => "unknown variant " ++ marked name ++ ", " ++ oneOf known
  | missingField name => "missing field " ++ marked name
  | duplicateField name => "duplicate field " ++ marked name
  | invalidStatus number => s!"invalid node status {number}"

end DataFault

inductive ReadError
  | notJson (fault : SyntaxFault)
  | misfit (fault : DataFault)
  deriving DecidableEq, Repr

namespace ReadError

def message : ReadError → String
  | notJson fault => fault.message
  | misfit fault => fault.message

end ReadError

end Plotline
