/-!
Binary fractions and their rounding. A `Precision` fixes how many bits a significand may have and how far
its exponent may go; `Precision.nearest` is the rounding of a quotient to it, a tie going to the even
significand.
-/

namespace Plotline

structure Dyadic where
  significand : Nat
  exponent : Int
  deriving DecidableEq, Repr

namespace Dyadic

def ofNat (n : Nat) : Dyadic := ⟨n, 0⟩

/-- The number is `numerator / denominator`. -/
def numerator (x : Dyadic) : Nat := x.significand * Nat.pow 2 x.exponent.toNat

def denominator (x : Dyadic) : Nat := Nat.pow 2 (-x.exponent).toNat

end Dyadic

/-- The quotient rounded to the nearest natural number, a half going to the even neighbour. -/
def roundedQuotient (numerator denominator : Nat) : Nat :=
  let quotient := numerator / denominator
  let twice := 2 * (numerator % denominator)
  if denominator < twice ∨ (twice = denominator ∧ quotient % 2 = 1) then quotient + 1 else quotient

/-- Significands have at most `bits` bits; exponents lie between `least` and `most`. -/
structure Precision where
  bits : Nat
  least : Int
  most : Int

namespace Precision

/-- Numbers of 24 bits, as small as `2 ^ -149`. -/
def single : Precision := ⟨24, -149, 104⟩

/-- Numbers of 53 bits, as small as `2 ^ -1074`. -/
def double : Precision := ⟨53, -1074, 971⟩

/-- `n / (d * 2 ^ e)` as a pair of natural numbers. -/
def rescaled (n d : Nat) (e : Int) : Nat × Nat :=
  (n * Nat.pow 2 (-e).toNat, d * Nat.pow 2 e.toNat)

/-- The exponent at which the quotient has exactly `bits` bits before the point, unless that is below `least`. -/
def placeOf (p : Precision) (n d : Nat) : Int :=
  let guess := max p.least ((n.log2 : Int) - (d.log2 : Int) - (p.bits : Int) + 1)
  let scaled := rescaled n d guess
  if scaled.1 / scaled.2 < Nat.pow 2 (p.bits - 1) then max p.least (guess - 1) else guess

/-- The representable number nearest to `n / d`, or `none` when that lies beyond the largest one. -/
def nearest (p : Precision) (n d : Nat) : Option Dyadic :=
  if n = 0 then some ⟨0, p.least⟩
  else
    let place := p.placeOf n d
    let scaled := rescaled n d place
    let significand := roundedQuotient scaled.1 scaled.2
    let rounded : Dyadic :=
      if significand = Nat.pow 2 p.bits then ⟨Nat.pow 2 (p.bits - 1), place + 1⟩ else ⟨significand, place⟩
    if p.most < rounded.exponent then none else some rounded

end Precision

end Plotline
