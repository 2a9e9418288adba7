import Plotline.Number.Dyadic

/-!
The shortest decimal that reads back as a given binary fraction. Of the decimals with the fewest digits
inside the rounding interval the nearest one is taken; an exact tie is a matter of style.
-/

namespace Plotline

structure Decimal where
  digits : Nat
  exponent : Int
  deriving DecidableEq, Repr

/-- Where an exact tie between two shortest decimals goes. -/
inductive DecimalTie
  | toEven
  | up
  deriving DecidableEq, Repr

/-- The numbers that round to `centre / unit` lie between `low / unit` and `high / unit`. -/
structure RoundingInterval where
  low : Nat
  centre : Nat
  high : Nat
  unit : Nat
  closed : Bool

namespace RoundingInterval

/-- Half a unit in the last place to both sides, a quarter below a power of two. -/
def of (p : Precision) (x : Dyadic) : RoundingInterval :=
  let step := Nat.pow 2 x.exponent.toNat
  let centre := 4 * x.significand * step
  let below := if x.significand = Nat.pow 2 (p.bits - 1) ∧ p.least < x.exponent then step else 2 * step
  { low := centre - below
    centre
    high := centre + 2 * step
    unit := 4 * x.denominator
    closed := x.significand % 2 = 0 }

def contains (i : RoundingInterval) (d : Decimal) : Bool :=
  let scaled := d.digits * Nat.pow 10 d.exponent.toNat * i.unit
  let low := i.low * Nat.pow 10 (-d.exponent).toNat
  let high := i.high * Nat.pow 10 (-d.exponent).toNat
  if i.closed then low ≤ scaled && scaled ≤ high else low < scaled && scaled < high

/-- The number of decimal places before the point that the centre needs, negative below one tenth. -/
def magnitude (i : RoundingInterval) : Int :=
  let whole := i.centre / i.unit
  if whole = 0 then
    -(((List.range 400).find? fun zeros => i.unit ≤ i.centre * Nat.pow 10 (zeros + 1)).getD 0 : Nat)
  else (Nat.toDigits 10 whole).length

/-- The neighbours of the centre among the multiples of `10 ^ exponent`, the chosen one of those inside. -/
def onGrid (i : RoundingInterval) (tie : DecimalTie) (exponent : Int) : Option Decimal :=
  let n := i.centre * Nat.pow 10 (-exponent).toNat
  let d := i.unit * Nat.pow 10 exponent.toNat
  let lower : Decimal := ⟨n / d, exponent⟩
  let upper : Decimal := ⟨n / d + 1, exponent⟩
  let twice := 2 * (n % d)
  let upperNearer :=
    d < twice || (twice = d && (match tie with | .up => true | .toEven => lower.digits % 2 = 1))
  match i.contains lower, i.contains upper with
  | true, true => some (if upperNearer then upper else lower)
  | true, false => some lower
  | false, true => some upper
  | false, false => none

end RoundingInterval

namespace Decimal

def dropZeros : Nat → Decimal → Decimal
  | 0, d => d
  | fuel + 1, d => if d.digits % 10 = 0 then dropZeros fuel ⟨d.digits / 10, d.exponent + 1⟩ else d

/-- Seventeen digits tell any two numbers of at most 53 bits apart. -/
def shortest (tie : DecimalTie) (p : Precision) (x : Dyadic) : Decimal :=
  if x.significand = 0 then ⟨0, 0⟩
  else
    let interval := RoundingInterval.of p x
    let top := interval.magnitude
    let found := (List.range 17).findSome? fun (more : Nat) => interval.onGrid tie (top - 1 - more)
    dropZeros 20 (found.getD ⟨x.numerator / x.denominator, 0⟩)

end Decimal

/-- How a decimal is spelled: with a point while its leading digit stands between the places `lowest` and
`highest`, with an exponent otherwise. -/
structure DecimalStyle where
  lowest : Int
  highest : Int
  plusSign : Bool
  tie : DecimalTie

namespace DecimalStyle

def zeros (n : Nat) : String := String.ofList (List.replicate n '0')

def render (style : DecimalStyle) (d : Decimal) : String :=
  let digits := Nat.toDigits 10 d.digits
  let place : Int := if d.digits = 0 then 0 else d.exponent + digits.length - 1
  if style.lowest ≤ place ∧ place ≤ style.highest then
    if place < 0 then "0." ++ zeros (-place - 1).toNat ++ String.ofList digits
    else
      let whole := place.toNat + 1
      if digits.length ≤ whole then String.ofList digits ++ zeros (whole - digits.length) ++ ".0"
      else String.ofList (digits.take whole) ++ "." ++ String.ofList (digits.drop whole)
  else
    let sign := if place < 0 then "-" else if style.plusSign then "+" else ""
    let fraction := digits.drop 1
    String.ofList (digits.take 1) ++ (if fraction.isEmpty then "" else "." ++ String.ofList fraction)
      ++ "e" ++ sign ++ toString place.natAbs

end DecimalStyle

end Plotline
