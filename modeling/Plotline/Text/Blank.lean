/-!
Blank characters, and the plain operations on text that need them: trimming, splitting at the first blank,
reading a number, filling up to a width.
-/

namespace Plotline

/-- The characters with the property White_Space, more than the ASCII blanks of `Char.isWhitespace`. -/
def isBlank (c : Char) : Bool :=
  let code := c.toNat
  (9 ≤ code && code ≤ 13) || code == 0x20 || code == 0x85 || code == 0xa0 || code == 0x1680
    || (0x2000 ≤ code && code ≤ 0x200a) || code == 0x2028 || code == 0x2029 || code == 0x202f
    || code == 0x205f || code == 0x3000

namespace Text

def trim (s : String) : String :=
  String.ofList (((s.toList.dropWhile isBlank).reverse.dropWhile isBlank).reverse)

def splitAtBlank? (s : String) : Option (String × String) :=
  match s.toList.span (!isBlank ·) with
  | (_, []) => none
  | (before, _ :: after) => some (String.ofList before, String.ofList after)

def digitsValue? : Nat → List Char → Option Nat
  | n, [] => some n
  | n, c :: cs => if c.isDigit then digitsValue? (n * 10 + (c.toNat - 48)) cs else none

/-- Decimal digits after an optional plus sign, for a number below `limit`. -/
def readNatural? (limit : Nat) (s : String) : Option Nat :=
  let digits :=
    match s.toList with
    | '+' :: rest => rest
    | other => other
  if digits.isEmpty then none
  else (digitsValue? 0 digits).filter (· < limit)

/-- The text followed by as many spaces as are missing from `width` characters. -/
def padRight (width : Nat) (s : String) : String :=
  s ++ String.ofList (List.replicate (width - s.length) ' ')

/-- The parts between occurrences of `mark`, at least one. -/
def splitAt (mark : Char) (cs : List Char) : List (List Char) :=
  cs.foldr
    (fun c parts =>
      if c = mark then [] :: parts
      else
        match parts with
        | [] => [[c]]
        | part :: rest => (c :: part) :: rest)
    [[]]

private def dropReturn (cs : List Char) : List Char :=
  match cs.reverse with
  | '\r' :: rest => rest.reverse
  | _ => cs

/-- The lines of a text; the last one counts only if something stands on it. -/
def lines (s : String) : List String :=
  let parts := splitAt '\n' s.toList
  let kept := if parts.getLast? = some [] then parts.dropLast else parts
  kept.map fun line => String.ofList (dropReturn line)

end Text

end Plotline
