import Plotline.Number.Real

/-!
The value of a written numeral. Digits are gathered into a word of 64 bits; those that no longer fit only
move the point. A numeral with a point or an exponent, and one too large for a word, is a `Double`: the
gathered word, rounded, times or over a rounded power of ten.
-/

namespace Plotline

inductive Number
  | natural (n : Nat)
  /-- The number `-n`. -/
  | negative (n : Nat)
  | real (x : Double)
  deriving DecidableEq, Repr

namespace Number

def toSingle : Number → Single
  | natural n => Single.ofNat n
  | negative n => Single.ofMagnitude true (Precision.single.nearest n 1)
  | real x => Single.ofDouble x

end Number

/-- The parts of a numeral as they are written: digits as numbers, the exponent with its sign. -/
structure Numeral where
  negative : Bool := false
  whole : List Nat
  fraction : Option (List Nat) := none
  exponent : Option (Bool × List Nat) := none
  deriving DecidableEq, Repr

namespace Numeral

def wordLimit : Nat := UInt64.size

/-- The leading digits that fit a word, gathered onto `start`, and the digits that do not. -/
def gather (start : Nat) : List Nat → Nat × List Nat
  | [] => (start, [])
  | d :: ds => if start * 10 + d < wordLimit then gather (start * 10 + d) ds else (start, d :: ds)

def powerOfTen (n : Nat) : Dyadic := (Double.ofNat? (Nat.pow 10 n)).getD ⟨0, 0⟩

def times (x y : Dyadic) : Option Dyadic :=
  Precision.double.nearest (x.numerator * y.numerator) (x.denominator * y.denominator)

def quotient (x y : Dyadic) : Dyadic :=
  (Precision.double.nearest (x.numerator * y.denominator) (x.denominator * y.numerator)).getD ⟨0, 0⟩

/-- Division by a power of ten too large for one step goes by steps of `10 ^ 308` until nothing is left. -/
def shrink (x : Dyadic) (n : Nat) : Dyadic :=
  if n ≤ 308 then quotient x (powerOfTen n)
  else if x.significand = 0 then x
  else shrink (quotient x (powerOfTen 308)) (n - 308)
termination_by n

/-- The word times a power of ten, `none` when that is too large. -/
def scale (word : Nat) (exponent : Int) : Option Dyadic := do
  let x ← Double.ofNat? word
  if exponent < 0 then some (shrink x exponent.natAbs)
  else if exponent ≤ 308 then times x (powerOfTen exponent.toNat)
  else if x.significand = 0 then some x
  else none

/-- Exponents are held in a signed word of 32 bits and stop at its ends. -/
def clampExponent (e : Int) : Int := max (-2147483648) (min 2147483647 e)

def exponentLimit : Nat := 2147483648

def withExponent (negative : Bool) (word : Nat) (start : Int) : Option (Bool × List Nat) → Option Number
  | none => (scale word start).map fun m => .real ⟨negative, m⟩
  | some (positive, digits) =>
    let e := digits.foldl (fun n d => n * 10 + d) 0
    if exponentLimit ≤ e then
      if word ≠ 0 ∧ positive then none else some (.real ⟨negative, ⟨0, 0⟩⟩)
    else
      let moved := if positive then start + e else start - e
      (scale word (clampExponent moved)).map fun m => .real ⟨negative, m⟩

def value (n : Numeral) : Option Number :=
  let (word, beyond) := gather 0 n.whole
  match beyond, n.fraction, n.exponent with
  | [], none, none =>
    if !n.negative then some (.natural word)
    else if word = 0 ∨ Nat.pow 2 63 < word then
      (Double.ofNat? word).map fun m => .real ⟨true, m⟩
    else some (.negative word)
  | _, fraction, exponent =>
    let (word, unused) := gather word (fraction.getD [])
    let taken := (fraction.getD []).length - unused.length
    withExponent n.negative word ((beyond.length : Int) - taken) exponent

end Numeral

end Plotline
