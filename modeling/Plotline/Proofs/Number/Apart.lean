import Mathlib.Algebra.Order.Field.Power
import Mathlib.Tactic.FieldSimp
import Mathlib.Tactic.Linarith
import Mathlib.Tactic.LinearCombination
import Mathlib.Tactic.Positivity
import Mathlib.Tactic.Ring
import Mathlib.RingTheory.Coprime.Lemmas
import Plotline.Proofs.Number.Dyadic

/-!
How close a decimal of few digits comes to the middle between two neighbouring binary fractions. Multiples of a power of
ten and of a power of two come close only at ratios that approximate the ratio of the powers; a pair of neighbouring
fractions around that ratio leaves no others with denominators as small. The pair is found by a search of which nothing
is known; what it has found is checked for each exponent.
-/

namespace Plotline

/-- Two fractions, a lower and an upper one. -/
structure Bracket where
  low : ℕ × ℕ
  high : ℕ × ℕ

namespace Bracket

/-- Of `w` units `x` and `n` units `y`, the difference is as small a part as rounding twice to 53 bits may lose. -/
def Close (x y w n : ℕ) : Prop := Int.natAbs (w * x - n * y) * 2 ^ 51 ≤ w * x

/-- At the fraction the units agree, or they do not come close, or its denominator is one of those that are left out. -/
def Settled (x y : ℕ) (spared : ℕ → Prop) (fraction : ℕ × ℕ) : Prop :=
  fraction.1 * x = fraction.2 * y ∨ ¬ Close x y fraction.1 fraction.2 ∨ (2 ^ 25 < 2 * fraction.2 ∧ spared fraction.2)

/-- The fractions are neighbours with large denominators, lie to both sides of `y / x`, and are settled. -/
structure Certifies (b : Bracket) (x y : ℕ) (spared : ℕ → Prop) : Prop where
  unit : 0 < x
  neighbours : b.high.1 * b.low.2 = b.low.1 * b.high.2 + 1
  below : b.low.1 * x ≤ b.low.2 * y
  above : b.high.2 * y ≤ b.high.1 * x
  wide : 2 ^ 25 < b.low.2 + b.high.2
  lowSmall : b.low.1 < 2 ^ 25
  highSmall : b.high.1 < 2 ^ 25
  lowSettled : Settled x y spared b.low
  highSettled : Settled x y spared b.high

variable {b : Bracket} {x y w n : ℕ} {spared : ℕ → Prop}

/-- No fraction with a smaller denominator lies strictly between the two. -/
private theorem not_between (certifies : b.Certifies x y spared) (few : n ≤ 2 ^ 25) :
    w * b.low.2 ≤ b.low.1 * n ∨ b.high.1 * n ≤ w * b.high.2 := by
  by_contra between
  rw [not_or, not_le, not_le] at between
  obtain ⟨above, below⟩ := between
  have wide := certifies.wide
  have neighbours : (b.high.1 : ℤ) * b.low.2 = b.low.1 * b.high.2 + 1 := by exact_mod_cast certifies.neighbours
  have above : (b.low.1 : ℤ) * n + 1 ≤ w * b.low.2 := by exact_mod_cast above
  have below : (w : ℤ) * b.high.2 + 1 ≤ b.high.1 * n := by exact_mod_cast below
  -- Between neighbours a denominator is a sum of positive multiples of both of theirs.
  have total : (b.high.2 : ℤ) * (w * b.low.2 - b.low.1 * n) + b.low.2 * (b.high.1 * n - w * b.high.2) = n := by
    linear_combination (n : ℤ) * neighbours
  have first : (b.high.2 : ℤ) * 1 ≤ b.high.2 * (w * b.low.2 - b.low.1 * n) :=
    mul_le_mul_of_nonneg_left (by linarith) (by positivity)
  have second : (b.low.2 : ℤ) * 1 ≤ b.low.2 * (b.high.1 * n - w * b.high.2) :=
    mul_le_mul_of_nonneg_left (by linarith) (by positivity)
  omega

private theorem large_of_gap {q : ℕ} (unit : 0 < x) (gap : x ≤ q * Int.natAbs (w * x - n * y)) (close : Close x y w n) :
    2 ^ 51 ≤ w * q := by
  apply Nat.le_of_mul_le_mul_left _ unit
  calc x * 2 ^ 51 ≤ q * Int.natAbs (w * x - n * y) * 2 ^ 51 := Nat.mul_le_mul_right _ gap
    _ = q * (Int.natAbs (w * x - n * y) * 2 ^ 51) := by ring
    _ ≤ q * (w * x) := Nat.mul_le_mul_left q close
    _ = x * (w * q) := by ring

/-- Below the lower fraction the units do not come close. -/
private theorem at_low (certifies : b.Certifies x y spared) (few : n ≤ 2 ^ 25) (low : w * b.low.2 ≤ b.low.1 * n)
    (close : Close x y w n) : w * b.low.2 = b.low.1 * n := by
  by_contra other
  have less : (w : ℤ) * b.low.2 + 1 ≤ b.low.1 * n := by exact_mod_cast lt_of_le_of_ne low other
  have below : (b.low.1 : ℤ) * x ≤ b.low.2 * y := by exact_mod_cast certifies.below
  have gap : (x : ℤ) ≤ b.low.2 * (n * y - w * x) := by nlinarith
  have size : (n : ℤ) * y - w * x ≤ Int.natAbs (w * x - n * y) := by omega
  have gap : (x : ℤ) ≤ b.low.2 * Int.natAbs (w * x - n * y) :=
    gap.trans (mul_le_mul_of_nonneg_left size (by positivity))
  have large := large_of_gap certifies.unit (by exact_mod_cast gap) close
  have small : b.low.1 * n ≤ 2 ^ 25 * 2 ^ 25 := Nat.mul_le_mul certifies.lowSmall.le few
  omega

/-- Nor above the upper one. -/
private theorem at_high (certifies : b.Certifies x y spared) (few : n ≤ 2 ^ 25)
    (high : b.high.1 * n ≤ w * b.high.2) (close : Close x y w n) : w * b.high.2 = b.high.1 * n := by
  by_contra other
  have more : (b.high.1 : ℤ) * n + 1 ≤ w * b.high.2 := by exact_mod_cast lt_of_le_of_ne high (Ne.symm other)
  have above : (b.high.2 : ℤ) * y ≤ b.high.1 * x := by exact_mod_cast certifies.above
  have gap : (x : ℤ) ≤ b.high.2 * (w * x - n * y) := by nlinarith
  have size : (w : ℤ) * x - n * y ≤ Int.natAbs (w * x - n * y) := by omega
  have gap : (x : ℤ) ≤ b.high.2 * Int.natAbs (w * x - n * y) :=
    gap.trans (mul_le_mul_of_nonneg_left size (by positivity))
  have large := large_of_gap certifies.unit (by exact_mod_cast gap) close
  -- Above the ratio only `n` is known to be small; as the units come close, `w` is not much larger.
  have half : w * x ≤ 2 * (n * y) := by
    have close : Int.natAbs (w * x - n * y) * 2 ^ 51 ≤ w * x := close
    have size : (w : ℤ) * x - n * y ≤ Int.natAbs (w * x - n * y) := size
    omega
  have small : w * b.high.2 ≤ 2 * (n * b.high.1) := by
    apply Nat.le_of_mul_le_mul_left _ certifies.unit
    calc x * (w * b.high.2) = w * x * b.high.2 := by ring
      _ ≤ 2 * (n * y) * b.high.2 := Nat.mul_le_mul_right _ half
      _ = 2 * n * (b.high.2 * y) := by ring
      _ ≤ 2 * n * (b.high.1 * x) := Nat.mul_le_mul_left _ certifies.above
      _ = x * (2 * (n * b.high.1)) := by ring
  have few : n * b.high.1 ≤ 2 ^ 25 * (2 ^ 25 - 1) := Nat.mul_le_mul few (Nat.le_sub_one_of_lt certifies.highSmall)
  omega

/-- At a settled fraction the units agree if they come close, unless their number is left out. -/
private theorem eq_of_settled {p q : ℕ} (settled : Settled x y spared (p, q)) (coprime : p.Coprime q) (positive : 0 < n)
    (few : n ≤ 2 ^ 25) (same : w * q = p * n) (close : Close x y w n) : w * x = n * y ∨ spared n := by
  have unit : 0 < q := by
    rcases Nat.eq_zero_or_pos q with rfl | unit
    · rw [(Nat.coprime_zero_right p).mp coprime] at same
      omega
    · exact unit
  rcases settled with agree | apart | ⟨large, left⟩
  · apply Or.inl
    apply Nat.eq_of_mul_eq_mul_right unit
    calc w * x * q = w * q * x := by ring
      _ = n * (p * x) := by rw [same]; ring
      _ = n * y * q := by rw [agree]; ring
  · apply absurd _ apart
    have ratio : (n : ℤ) * (p * x - q * y) = q * (w * x - n * y) := by
      have same : (w : ℤ) * q = p * n := by exact_mod_cast same
      linear_combination -(x : ℤ) * same
    have sizes := congrArg Int.natAbs ratio
    rw [Int.natAbs_mul, Int.natAbs_mul, Int.natAbs_natCast, Int.natAbs_natCast] at sizes
    apply Nat.le_of_mul_le_mul_left _ positive
    calc n * (Int.natAbs (p * x - q * y) * 2 ^ 51) = q * (Int.natAbs (w * x - n * y) * 2 ^ 51) := by
          rw [← mul_assoc, sizes, mul_assoc]
      _ ≤ q * (w * x) := Nat.mul_le_mul_left q close
      _ = w * q * x := by ring
      _ = n * (p * x) := by rw [same]; ring
  · obtain ⟨times, rfl⟩ : q ∣ n := coprime.symm.dvd_of_dvd_mul_left ⟨w, by rw [← same, mul_comm]⟩
    -- A multiple of a denominator that large has no room below the bound.
    have once : times = 1 := by
      have above : 0 < times := Nat.pos_of_mul_pos_left positive
      by_contra other
      have twice : q * 2 ≤ q * times := Nat.mul_le_mul_left q (by omega)
      omega
    rw [once, mul_one]
    exact .inr left

/-- Where the units come close they agree, unless their number is one of those that are left out. -/
theorem Certifies.eq_or_spared (certifies : b.Certifies x y spared) (positive : 0 < n) (few : n ≤ 2 ^ 25)
    (close : Close x y w n) : w * x = n * y ∨ spared n := by
  have neighbours : (b.high.1 : ℤ) * b.low.2 = b.low.1 * b.high.2 + 1 := by exact_mod_cast certifies.neighbours
  rcases not_between certifies few (w := w) with low | high
  · have coprime : b.low.1.Coprime b.low.2 :=
      Nat.isCoprime_iff_coprime.mp ⟨-b.high.2, b.high.1, by linear_combination neighbours⟩
    exact eq_of_settled certifies.lowSettled coprime positive few (at_low certifies few low close) close
  · have coprime : b.high.1.Coprime b.high.2 :=
      Nat.isCoprime_iff_coprime.mp ⟨b.low.2, -b.low.1, by linear_combination neighbours⟩
    exact eq_of_settled certifies.highSettled coprime positive few (at_high certifies few high close) close

/-! ### The search -/

/-- Moves one fraction towards the other, as often as it stays on its side and its denominator in bounds. -/
def advance (near far : ℕ × ℕ) (nearGap farGap : ℕ) : ℕ × ℕ :=
  let room := (2 ^ 25 - near.2) / far.2
  let steps := if farGap = 0 then room else min room (nearGap / farGap)
  (near.1 + steps * far.1, near.2 + steps * far.2)

def search (x y : ℕ) : ℕ → Bracket → Bracket
  | 0, b => b
  | fuel + 1, b =>
    let low := advance b.low b.high (b.low.2 * y - b.low.1 * x) (b.high.1 * x - b.high.2 * y)
    let high := advance b.high low (b.high.1 * x - b.high.2 * y) (low.2 * y - low.1 * x)
    search x y fuel ⟨low, high⟩

instance [DecidablePred spared] (fraction : ℕ × ℕ) : Decidable (Settled x y spared fraction) :=
  inferInstanceAs (Decidable (_ = _ ∨ ¬ (_ ≤ _) ∨ (_ < _ ∧ spared fraction.2)))

instance [DecidablePred spared] : Decidable (b.Certifies x y spared) :=
  decidable_of_iff
    (0 < x ∧ b.high.1 * b.low.2 = b.low.1 * b.high.2 + 1 ∧ b.low.1 * x ≤ b.low.2 * y ∧ b.high.2 * y ≤ b.high.1 * x ∧
      2 ^ 25 < b.low.2 + b.high.2 ∧ b.low.1 < 2 ^ 25 ∧ b.high.1 < 2 ^ 25 ∧ Settled x y spared b.low ∧
        Settled x y spared b.high)
    ⟨fun ⟨unit, neighbours, below, above, wide, lowSmall, highSmall, lowSettled, highSettled⟩ =>
        ⟨unit, neighbours, below, above, wide, lowSmall, highSmall, lowSettled, highSettled⟩,
      fun c => ⟨c.unit, c.neighbours, c.below, c.above, c.wide, c.lowSmall, c.highSmall, c.lowSettled, c.highSettled⟩⟩

end Bracket

namespace Middle

/-- The finest grid on which a decimal can be chosen far from the binary fraction it stands for. -/
def finest (e : ℤ) : ℤ := -(-e * 30103 / 100000)

/-- A step of the grid, and half a unit of the binary fractions, in a common unit. -/
def step (e : ℤ) : ℕ := Nat.pow 10 (finest e).toNat * Nat.pow 2 (1 - e).toNat

def halfUnit (e : ℤ) : ℕ := Nat.pow 2 (e - 1).toNat * Nat.pow 10 (-finest e).toNat

/-- Even multiples of half a unit are no middles, and at one odd multiple there is a decimal too close to it. -/
def Spared (e : ℤ) (n : ℕ) : Prop := n % 2 = 0 ∨ (e = -107 ∧ n = 22841339)

instance (e : ℤ) : DecidablePred (Spared e) := fun n => inferInstanceAs (Decidable (n % 2 = 0 ∨ (e = -107 ∧ n = 22841339)))

/-- A finer grid is finer than the unit, and on this one no decimal of few digits is too close to a middle. -/
def Checked (e : ℤ) : Prop :=
  Nat.pow 10 (finest e - 1).toNat * Nat.pow 2 (-e).toNat * 2 ^ 26 <
      67108863 * (Nat.pow 2 e.toNat * Nat.pow 10 (1 - finest e).toNat) ∧
    (Bracket.search (step e) (halfUnit e) 24 ⟨(0, 1), (1, 1)⟩).Certifies (step e) (halfUnit e) (Spared e)

instance (e : ℤ) : Decidable (Checked e) := inferInstanceAs (Decidable (_ ∧ _))

theorem all_checked : ∀ i < 254, Checked ((i : ℕ) - 149) := by decide +kernel

private theorem checked {e : ℤ} (least : -149 ≤ e) (most : e ≤ 104) : Checked e := by
  have checked := all_checked (e + 149).toNat (by omega)
  have same : ((e + 149).toNat : ℤ) - 149 = e := by omega
  rwa [same] at checked

/-- The common unit of a step and of half a unit. -/
private def part (e : ℤ) : ℕ := Nat.pow 2 (1 - e).toNat * Nat.pow 10 (-finest e).toNat

private theorem part_pos (e : ℤ) : (0 : ℚ) < part e := by
  have positive : 0 < part e := Nat.mul_pos (Nat.pow_pos (by decide)) (Nat.pow_pos (by decide))
  exact_mod_cast positive

private theorem step_div_part (e : ℤ) : (step e : ℚ) / part e = 10 ^ finest e := by
  unfold step part
  rw [zpow_eq_pow_div_pow, Nat.pow_eq, Nat.pow_eq, Nat.pow_eq]
  push_cast
  field_simp

private theorem halfUnit_div_part (e : ℤ) : (halfUnit e : ℚ) / part e = 2 ^ (e - 1) := by
  unfold halfUnit part
  rw [zpow_eq_pow_div_pow, neg_sub, Nat.pow_eq, Nat.pow_eq, Nat.pow_eq]
  push_cast
  field_simp

private theorem finest_le {e k : ℤ} (checked : Checked e) (coarse : (1 - 1 / 2 ^ 26) * 2 ^ e ≤ (10 : ℚ) ^ k) :
    finest e ≤ k := by
  by_contra finer
  have less := checked.1
  have finer : (10 : ℚ) ^ k ≤ 10 ^ (finest e - 1) := zpow_le_zpow_right₀ (by norm_num) (by omega)
  have least := coarse.trans finer
  rw [zpow_eq_pow_div_pow 2, zpow_eq_pow_div_pow 10, neg_sub, mul_div_assoc', div_le_div_iff₀ (by positivity) (by positivity)]
    at least
  rw [Nat.pow_eq, Nat.pow_eq, Nat.pow_eq, Nat.pow_eq] at less
  have less : (10 : ℚ) ^ (finest e - 1).toNat * 2 ^ (-e).toNat * 2 ^ 26 <
      67108863 * (2 ^ e.toNat * 10 ^ (1 - finest e).toNat) := by
    exact_mod_cast less
  linarith

/-- A decimal on a grid about as coarse as the binary fractions is no closer to a middle between two of them than two
roundings may move it, unless it is the middle; with one exception. -/
theorem apart {e k : ℤ} (least : -149 ≤ e) (most : e ≤ 104) (coarse : (1 - 1 / 2 ^ 26) * 2 ^ e ≤ (10 : ℚ) ^ k)
    {w n : ℕ} (odd : n % 2 = 1) (few : n ≤ 2 ^ 25)
    (close : |(w : ℚ) * 10 ^ k - n * 2 ^ (e - 1)| ≤ w * 10 ^ k / 2 ^ 51) :
    (w : ℚ) * 10 ^ k = n * 2 ^ (e - 1) ∨ (e = -107 ∧ n = 22841339) := by
  have checked := checked least most
  obtain ⟨more, split⟩ := Int.eq_ofNat_of_zero_le (sub_nonneg.mpr (finest_le checked coarse))
  have size := part_pos e
  have onGrid : (w : ℚ) * 10 ^ k = ((w * 10 ^ more : ℕ) * step e) / part e := by
    have exponent : k = more + finest e := by omega
    rw [mul_div_assoc, step_div_part, exponent, zpow_add₀ (by norm_num), zpow_natCast]
    push_cast
    ring
  have middle : (n : ℚ) * 2 ^ (e - 1) = (n * halfUnit e) / part e := by
    rw [mul_div_assoc, halfUnit_div_part]
  rw [onGrid, middle] at close ⊢
  have close : Bracket.Close (step e) (halfUnit e) (w * 10 ^ more) n := by
    rw [← sub_div, abs_div, abs_of_pos size, div_right_comm, div_le_div_iff_of_pos_right size,
      le_div_iff₀ (by positivity)] at close
    have cast : ((Int.natAbs ((w * 10 ^ more : ℕ) * step e - n * halfUnit e) : ℕ) : ℚ) =
        |(w * 10 ^ more : ℕ) * (step e : ℚ) - n * halfUnit e| := by
      rw [Nat.cast_natAbs]
      push_cast
      rfl
    rw [← cast] at close
    unfold Bracket.Close
    exact_mod_cast close
  rcases checked.2.eq_or_spared (by omega) few close with same | even | exception
  · left
    have same : ((w * 10 ^ more : ℕ) : ℚ) * step e = n * halfUnit e := by exact_mod_cast same
    rw [same]
  · omega
  · exact .inr exception

end Middle

end Plotline
