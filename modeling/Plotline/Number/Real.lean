import Plotline.Number.Shortest

/-!
The two kinds of real number a story meets: `Single`, which it stores, and `Double`, in which a numeral is
read before it is narrowed.
-/

namespace Plotline

structure Double where
  negative : Bool
  magnitude : Dyadic
  deriving DecidableEq, Repr

namespace Double

def ofNat? (n : Nat) : Option Dyadic := Precision.double.nearest n 1

/-- Points from `0.00001` up to below `1e+16`. -/
def style : DecimalStyle := ⟨-5, 15, true, .toEven⟩

def render (x : Double) : String :=
  (if x.negative then "-" else "") ++ style.render (.shortest style.tie .double x.magnitude)

end Double

/-- A number of 24 bits in its interchange form: sign, eight bits of exponent, 23 of fraction. -/
structure Single where
  bits : UInt32
  deriving DecidableEq, Repr

/-- What a `Single` stands for, its sign apart. -/
inductive Single.Form
  | finite (magnitude : Dyadic)
  | infinite
  | undefined
  deriving DecidableEq, Repr

namespace Single

def negative (x : Single) : Bool := Nat.pow 2 31 ≤ x.bits.toNat

def form (x : Single) : Form :=
  let exponent : Nat := x.bits.toNat / Nat.pow 2 23 % Nat.pow 2 8
  let fraction : Nat := x.bits.toNat % Nat.pow 2 23
  if exponent = 255 then if fraction = 0 then .infinite else .undefined
  else if exponent = 0 then .finite ⟨fraction, -149⟩
  else .finite ⟨Nat.pow 2 23 + fraction, (exponent : Int) - 150⟩

/-- The number with the given sign and rounded magnitude, `none` standing for an infinite one. -/
def ofMagnitude (negative : Bool) (magnitude : Option Dyadic) : Single :=
  let sign := if negative then Nat.pow 2 31 else 0
  let size :=
    match magnitude with
    | some m => (m.exponent + 149).toNat * Nat.pow 2 23 + m.significand
    | none => 255 * Nat.pow 2 23
  ⟨UInt32.ofNat (sign + size)⟩

def ofNat (n : Nat) : Single := ofMagnitude false (Precision.single.nearest n 1)

def ofDouble (x : Double) : Single :=
  ofMagnitude x.negative (Precision.single.nearest x.magnitude.numerator x.magnitude.denominator)

def isFinite (x : Single) : Bool :=
  match x.form with
  | .finite _ => true
  | _ => false

/-- Stored numbers are written with a point from `0.000001` up to below `1e+13`. -/
def storedStyle : DecimalStyle := ⟨-6, 12, true, .toEven⟩

/-- Displayed numbers are written with a point from `0.0001` up to below `1e16`. -/
def displayStyle : DecimalStyle := ⟨-4, 15, false, .up⟩

def signText (x : Single) : String := if x.negative then "-" else ""

/-- The stored text of a finite number; no text stands for the others. -/
def stored? (x : Single) : Option String :=
  match x.form with
  | .finite m => some (signText x ++ storedStyle.render (.shortest storedStyle.tie .single m))
  | _ => none

def display (x : Single) : String :=
  match x.form with
  | .finite m => signText x ++ displayStyle.render (.shortest displayStyle.tie .single m)
  | .infinite => signText x ++ "inf"
  | .undefined => "NaN"

end Single

end Plotline
