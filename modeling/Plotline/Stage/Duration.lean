import Plotline.Number.Real

/-!
Time, counted in nanoseconds.
-/

namespace Plotline

abbrev Duration := Nat

namespace Duration

def nanosPerSecond : Nat := 1000000000

/-- Lengths of time have fewer than `2 ^ 64` seconds. -/
def limit : Nat := UInt64.size * nanosPerSecond

/-- The nearest nanosecond, a half going to the even one. What is no length of time counts as none: a
negative number, an infinite one, and one of too many seconds. -/
def ofSeconds (seconds : Single) : Duration :=
  match seconds.form with
  | .finite m =>
    let nanos := roundedQuotient (m.numerator * nanosPerSecond) m.denominator
    if seconds.negative || limit ≤ nanos then 0 else nanos
  | _ => 0

end Duration

inductive Completion
  | immediate
  | after (duration : Duration)
  deriving DecidableEq, Repr

def Completion.ofSeconds (seconds : Single) : Completion :=
  if Duration.ofSeconds seconds = 0 then .immediate else .after (Duration.ofSeconds seconds)

end Plotline
