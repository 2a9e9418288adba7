import Plotline.Number.Shortest
import Plotline.Proofs.Number.Dyadic

/-!
What is known of the shortest decimal of a binary fraction: it is nearest to the fraction, it has few digits, and its
last digit is coarse enough for the fraction to lie within half of it.
-/

namespace Plotline

namespace Decimal

def value (d : Decimal) : ℚ := d.digits * 10 ^ d.exponent

theorem value_eq_div (d : Decimal) :
    d.value = d.digits * 10 ^ d.exponent.toNat / 10 ^ (-d.exponent).toNat := by
  unfold value
  rw [zpow_eq_pow_div_pow]
  ring

/-- Zeros at the end move into the exponent. -/
theorem dropZeros_spec (fuel : ℕ) (d : Decimal) :
    ∃ j : ℕ, d.digits = (dropZeros fuel d).digits * 10 ^ j ∧ (dropZeros fuel d).exponent = d.exponent + j := by
  induction fuel generalizing d with
  | zero => exact ⟨0, by rw [dropZeros, pow_zero, mul_one], by rw [dropZeros, Nat.cast_zero, add_zero]⟩
  | succ fuel ih =>
      unfold dropZeros
      split
      · rename_i zero
        obtain ⟨j, digits, exponent⟩ := ih ⟨d.digits / 10, d.exponent + 1⟩
        refine ⟨j + 1, ?_, ?_⟩
        · rw [pow_succ, ← mul_assoc, ← digits]
          exact (Nat.div_mul_cancel (Nat.dvd_of_mod_eq_zero zero)).symm
        · rw [exponent]
          push_cast
          ring
      · exact ⟨0, by rw [pow_zero, mul_one], by rw [Nat.cast_zero, add_zero]⟩

theorem dropZeros_value (fuel : ℕ) (d : Decimal) : (dropZeros fuel d).value = d.value := by
  obtain ⟨j, digits, exponent⟩ := dropZeros_spec fuel d
  unfold value
  rw [digits, exponent, zpow_add₀ (by norm_num), zpow_natCast]
  push_cast
  ring

end Decimal

namespace RoundingInterval

variable {p : Precision} {x : Dyadic} {i : RoundingInterval}

private theorem le_scaled_iff {a unit : ℕ} (positive : 0 < unit) (d : Decimal) :
    a * Nat.pow 10 (-d.exponent).toNat ≤ d.digits * Nat.pow 10 d.exponent.toNat * unit ↔ (a : ℚ) / unit ≤ d.value := by
  have size : (0 : ℚ) < unit := by exact_mod_cast positive
  rw [Decimal.value_eq_div, div_le_div_iff₀ size (by positivity), Nat.pow_eq, Nat.pow_eq]
  exact_mod_cast Iff.rfl

private theorem scaled_le_iff {a unit : ℕ} (positive : 0 < unit) (d : Decimal) :
    d.digits * Nat.pow 10 d.exponent.toNat * unit ≤ a * Nat.pow 10 (-d.exponent).toNat ↔ d.value ≤ (a : ℚ) / unit := by
  have size : (0 : ℚ) < unit := by exact_mod_cast positive
  rw [Decimal.value_eq_div, div_le_div_iff₀ (by positivity) size, Nat.pow_eq, Nat.pow_eq]
  exact_mod_cast Iff.rfl

/-- The interval as it lies around the binary fraction, half a unit to both sides. -/
theorem bounds (inner : p.Inner x) (positive : 0 < x.significand) :
    0 < (of p x).unit ∧ ((of p x).low : ℚ) / (of p x).unit = x.value - 2 ^ x.exponent / 2 ∧
      ((of p x).centre : ℚ) / (of p x).unit = x.value ∧
        ((of p x).high : ℚ) / (of p x).unit = x.value + 2 ^ x.exponent / 2 := by
  have both : ¬ (x.significand = Nat.pow 2 (p.bits - 1) ∧ p.least < x.exponent) := by
    rintro ⟨first, later⟩
    rcases inner.full with least | full
    · omega
    · rw [Nat.pow_eq] at first
      omega
  have room : 2 * Nat.pow 2 x.exponent.toNat ≤ 4 * x.significand * Nat.pow 2 x.exponent.toNat :=
    Nat.mul_le_mul_right _ (by omega)
  unfold of Dyadic.value Dyadic.denominator
  dsimp only
  rw [if_neg both, zpow_eq_pow_div_pow, Nat.cast_sub room]
  simp only [Nat.pow_eq]
  push_cast
  refine ⟨by positivity, ?_, ?_, ?_⟩
  · field_simp
    ring
  · field_simp
  · field_simp
    ring

/-- A decimal lies in the interval of a binary fraction when it is nearest to it. -/
theorem contains_iff (inner : p.Inner x) (positive : 0 < x.significand) (d : Decimal) :
    (of p x).contains d = true ↔ x.Near d.value := by
  obtain ⟨unit, low, -, high⟩ := bounds inner positive
  have lowLe := le_scaled_iff (a := (of p x).low) unit d
  have leHigh := scaled_le_iff (a := (of p x).high) unit d
  have leLow := scaled_le_iff (a := (of p x).low) unit d
  have highLe := le_scaled_iff (a := (of p x).high) unit d
  rw [low] at lowLe leLow
  rw [high] at leHigh highLe
  have half : (0 : ℚ) < 2 ^ x.exponent / 2 := by positivity
  unfold contains
  dsimp only
  -- The ends of the interval are ties, which go to the even one.
  by_cases even : x.significand % 2 = 0
  · have closed : (of p x).closed = true := decide_eq_true even
    rw [if_pos closed, Bool.and_eq_true, decide_eq_true_eq, decide_eq_true_eq, lowLe, leHigh]
    constructor
    · rintro ⟨above, below⟩
      exact ⟨abs_le.mpr ⟨by linarith, by linarith⟩, fun _ => even⟩
    · intro near
      obtain ⟨above, below⟩ := abs_le.mp near.half
      constructor <;> linarith
  · have closed : ¬ (of p x).closed = true := by simpa [of] using even
    rw [if_neg closed, Bool.and_eq_true, decide_eq_true_eq, decide_eq_true_eq, ← not_le, ← not_le, leLow, highLe,
      not_le, not_le]
    constructor
    · rintro ⟨above, below⟩
      have within : |d.value - x.value| < 2 ^ x.exponent / 2 := abs_lt.mpr ⟨by linarith, by linarith⟩
      exact ⟨within.le, fun exact => absurd exact within.ne⟩
    · intro near
      have within := lt_of_le_of_ne near.half fun exact => even (near.tie exact)
      obtain ⟨above, below⟩ := abs_lt.mp within
      constructor <;> linarith

/-- The neighbours of the binary fraction on a grid: the fraction lies a part of a step above the lower one. -/
private theorem grid (inner : p.Inner x) (positive : 0 < x.significand) (exponent : ℤ) :
    ∃ part : ℚ, 0 ≤ part ∧ part < 1 ∧
      (let n := (of p x).centre * Nat.pow 10 (-exponent).toNat
       let d := (of p x).unit * Nat.pow 10 exponent.toNat
       0 < d ∧ part * d = (n % d : ℕ) ∧ (Decimal.mk (n / d) exponent).value = x.value - part * 10 ^ exponent ∧
         (Decimal.mk (n / d + 1) exponent).value = x.value + (1 - part) * 10 ^ exponent) := by
  obtain ⟨unit, -, centre, -⟩ := bounds inner positive
  have size : 0 < (of p x).unit * Nat.pow 10 exponent.toNat := Nat.mul_pos unit (Nat.pow_pos (by decide))
  obtain ⟨part, whole, rest, least, most⟩ :=
    quotient_split (n := (of p x).centre * Nat.pow 10 (-exponent).toNat) size
  have scaled : x.value = (((of p x).centre * Nat.pow 10 (-exponent).toNat : ℕ) : ℚ) /
      ((of p x).unit * Nat.pow 10 exponent.toNat : ℕ) * 10 ^ exponent := by
    rw [← centre, zpow_eq_pow_div_pow 10 exponent, Nat.pow_eq, Nat.pow_eq]
    push_cast
    field_simp
  refine ⟨part, least, most, size, rest, ?_, ?_⟩
  · rw [scaled, whole]
    unfold Decimal.value
    ring
  · rw [scaled, whole]
    unfold Decimal.value
    push_cast
    ring

private theorem near_of_closer {a : ℚ} (closer : |a - x.value| < 2 ^ x.exponent / 2) : x.Near a :=
  ⟨closer.le, fun exact => absurd exact closer.ne⟩

/-- What is found on a grid is in the interval, and no farther from the centre than half a step. -/
theorem onGrid_spec (inner : p.Inner x) (positive : 0 < x.significand) {tie : DecimalTie} {exponent : ℤ} {d : Decimal}
    (found : (of p x).onGrid tie exponent = some d) :
    x.Near d.value ∧ 2 * |d.value - x.value| ≤ 10 ^ exponent ∧ d.exponent = exponent := by
  obtain ⟨part, least, most, size, rest, lower, upper⟩ := grid inner positive exponent
  unfold onGrid at found
  dsimp only at found
  generalize (of p x).centre * Nat.pow 10 (-exponent).toNat = n at *
  generalize (of p x).unit * Nat.pow 10 exponent.toNat = step at *
  have unit : (0 : ℚ) < 10 ^ exponent := by positivity
  have size : (0 : ℚ) < step := by exact_mod_cast size
  have below := contains_iff inner positive ⟨n / step, exponent⟩
  have above := contains_iff inner positive ⟨n / step + 1, exponent⟩
  have toLower : |x.value - part * 10 ^ exponent - x.value| = part * 10 ^ exponent := by
    rw [sub_sub_cancel_left, abs_neg, abs_of_nonneg (by positivity)]
  have toUpper : |x.value + (1 - part) * 10 ^ exponent - x.value| = (1 - part) * 10 ^ exponent := by
    rw [add_sub_cancel_left, abs_of_nonneg (mul_nonneg (by linarith) unit.le)]
  have outside : ∀ {a}, ¬ x.Near a → 2 ^ x.exponent / 2 ≤ |a - x.value| := fun {a} far =>
    not_lt.mp fun closer => far (near_of_closer closer)
  rw [lower] at below
  rw [upper] at above
  cases belowIn : (of p x).contains ⟨n / step, exponent⟩ <;>
    cases aboveIn : (of p x).contains ⟨n / step + 1, exponent⟩ <;> rw [belowIn, aboveIn] at found
  case true.true =>
    rcases ite_eq_iff.mp (Option.some.inj found) with ⟨up, rfl⟩ | ⟨down, rfl⟩
    · have half : step ≤ 2 * (n % step) := by
        rcases (Bool.or_eq_true_iff).mp up with beyond | exact
        · exact (of_decide_eq_true beyond).le
        · exact (of_decide_eq_true (Bool.and_eq_true_iff.mp exact).1).ge
      have half : (step : ℚ) ≤ 2 * (part * step) := by
        rw [rest]
        exact_mod_cast half
      have half : 1 ≤ 2 * part := by nlinarith
      rw [upper, toUpper]
      exact ⟨above.mp aboveIn, by nlinarith, rfl⟩
    · have half : 2 * (n % step) ≤ step := by
        by_contra beyond
        exact down (Bool.or_eq_true_iff.mpr (.inl (decide_eq_true (not_le.mp beyond))))
      have half : 2 * (part * step) ≤ (step : ℚ) := by
        rw [rest]
        exact_mod_cast half
      have half : 2 * part ≤ 1 := by nlinarith
      rw [lower, toLower]
      exact ⟨below.mp belowIn, by nlinarith, rfl⟩
  case true.false =>
    obtain rfl := Option.some.inj found
    have far := outside (mt above.mpr (by rw [aboveIn]; exact nofun))
    have near := below.mp belowIn
    have half := near.half
    rw [toUpper] at far
    rw [toLower] at half
    rw [lower, toLower]
    exact ⟨near, by linarith, rfl⟩
  case false.true =>
    obtain rfl := Option.some.inj found
    have far := outside (mt below.mpr (by rw [belowIn]; exact nofun))
    have near := above.mp aboveIn
    have half := near.half
    rw [toLower] at far
    rw [toUpper] at half
    rw [upper, toUpper]
    exact ⟨near, by linarith, rfl⟩
  case false.false => cases found

/-- On a grid finer than half a unit there is something to be found. -/
theorem onGrid_ne_none (inner : p.Inner x) (positive : 0 < x.significand) (tie : DecimalTie) {exponent : ℤ}
    (fine : 10 ^ exponent ≤ (2 : ℚ) ^ x.exponent / 2) : (of p x).onGrid tie exponent ≠ none := by
  obtain ⟨part, least, most, size, rest, lower, upper⟩ := grid inner positive exponent
  have step : (0 : ℚ) < 10 ^ exponent := by positivity
  have near : x.Near (x.value - part * 10 ^ exponent) := by
    apply near_of_closer
    rw [sub_sub_cancel_left, abs_neg, abs_of_nonneg (by positivity)]
    nlinarith
  rw [← lower] at near
  unfold onGrid
  dsimp only
  rw [(contains_iff inner positive _).mpr near]
  split
  · exact nofun
  · exact nofun
  · contradiction
  · contradiction

private theorem reached_iff {i : RoundingInterval} (unit : 0 < i.unit) (zeros : ℕ) :
    i.unit ≤ i.centre * Nat.pow 10 (zeros + 1) ↔ (10 : ℚ) ^ (-(zeros : ℤ) - 1) ≤ (i.centre : ℚ) / i.unit := by
  have size : (0 : ℚ) < i.unit := by exact_mod_cast unit
  have exponent : -(zeros : ℤ) - 1 = -((zeros + 1 : ℕ) : ℤ) := by push_cast; ring
  rw [exponent, zpow_neg, zpow_natCast, inv_le_iff_one_le_mul₀ (by positivity), div_mul_eq_mul_div, one_le_div size,
    Nat.pow_eq]
  exact_mod_cast Iff.rfl

/-- Below one the places before the point are counted by the zeros that follow it. -/
private theorem magnitude_of_zeros {i : RoundingInterval} (unit : 0 < i.unit) (large : i.unit ≤ i.centre * Nat.pow 10 60)
    (none : i.centre / i.unit = 0) :
    10 ^ (i.magnitude - 1) ≤ (i.centre : ℚ) / i.unit ∧ (i.centre : ℚ) / i.unit < 10 ^ i.magnitude := by
  have size : (0 : ℚ) < i.unit := by exact_mod_cast unit
  have less : i.centre < i.unit := by
    rcases Nat.div_eq_zero_iff.mp none with zero | less
    · omega
    · exact less
  unfold magnitude
  dsimp only
  rw [if_pos none]
  cases found : (List.range 400).find? fun zeros => i.unit ≤ i.centre * Nat.pow 10 (zeros + 1) with
  | none =>
      have far := List.find?_range_eq_none.mp found 59 (by decide)
      rw [Bool.not_eq_true', decide_eq_false_iff_not] at far
      exact absurd large far
  | some zeros =>
      obtain ⟨here, -, before⟩ := List.find?_range_eq_some.mp found
      rw [Option.getD_some]
      refine ⟨(reached_iff unit zeros).mp (of_decide_eq_true here), ?_⟩
      cases zeros with
      | zero =>
          rw [Nat.cast_zero, neg_zero, zpow_zero, div_lt_one size]
          exact_mod_cast less
      | succ zeros =>
          have far := before zeros (Nat.lt_succ_self zeros)
          rw [Bool.not_eq_true', decide_eq_false_iff_not, reached_iff unit, not_le] at far
          have exponent : -((zeros + 1 : ℕ) : ℤ) = -(zeros : ℤ) - 1 := by push_cast; ring
          rw [exponent]
          exact far

/-- From one on they are the digits of the whole part. -/
private theorem magnitude_of_digits {i : RoundingInterval} (unit : 0 < i.unit) (some : ¬ i.centre / i.unit = 0) :
    10 ^ (i.magnitude - 1) ≤ (i.centre : ℚ) / i.unit ∧ (i.centre : ℚ) / i.unit < 10 ^ i.magnitude := by
  have positive : 0 < i.centre / i.unit := Nat.pos_of_ne_zero some
  have digits : 0 < (Nat.toDigits 10 (i.centre / i.unit)).length := List.length_pos_iff.mpr Nat.toDigits_ne_nil
  have fits := (Nat.length_toDigits_le_iff (b := 10) (by decide) digits).mp le_rfl
  obtain ⟨part, whole, -, least, most⟩ := quotient_split (n := i.centre) unit
  unfold magnitude
  dsimp only
  rw [if_neg some]
  constructor
  · have full : 10 ^ ((Nat.toDigits 10 (i.centre / i.unit)).length - 1) ≤ i.centre / i.unit := by
      rcases Nat.eq_or_lt_of_le digits with one | more
      · rw [← one]
        exact positive
      · by_contra less
        have short := (Nat.length_toDigits_le_iff (b := 10) (by decide) (by omega)).mpr (not_le.mp less)
        omega
    have full : (10 : ℚ) ^ ((Nat.toDigits 10 (i.centre / i.unit)).length - 1) ≤ (i.centre / i.unit : ℕ) := by
      exact_mod_cast full
    have exponent : ((Nat.toDigits 10 (i.centre / i.unit)).length : ℤ) - 1 =
        ((Nat.toDigits 10 (i.centre / i.unit)).length - 1 : ℕ) := by omega
    rw [exponent, zpow_natCast, whole]
    linarith
  · have below : ((i.centre / i.unit : ℕ) : ℚ) + 1 ≤ 10 ^ (Nat.toDigits 10 (i.centre / i.unit)).length := by
      exact_mod_cast fits
    rw [zpow_natCast, whole]
    linarith

/-- The centre has that many decimal places before the point. -/
theorem magnitude_spec {i : RoundingInterval} (unit : 0 < i.unit) (large : i.unit ≤ i.centre * Nat.pow 10 60) :
    10 ^ (i.magnitude - 1) ≤ (i.centre : ℚ) / i.unit ∧ (i.centre : ℚ) / i.unit < 10 ^ i.magnitude := by
  by_cases none : i.centre / i.unit = 0
  · exact magnitude_of_zeros unit large none
  · exact magnitude_of_digits unit none

end RoundingInterval

namespace Decimal

open RoundingInterval

variable {x : Dyadic}

/-- What the shortest decimal of a binary fraction is known to be. -/
structure Settles (d : Decimal) (x : Dyadic) : Prop where
  near : x.Near d.value
  coarse : 2 * |d.value - x.value| ≤ 10 ^ d.exponent
  few : d.digits < 2 ^ 31

private theorem unit_le (inner : Precision.single.Inner x) (positive : 0 < x.significand) :
    (of .single x).unit ≤ (of .single x).centre * Nat.pow 10 60 := by
  have least : -149 ≤ x.exponent := inner.least
  have small : 4 * 2 ^ (-x.exponent).toNat ≤ 4 * 2 ^ 149 :=
    Nat.mul_le_mul_left 4 (Nat.pow_le_pow_right (by decide) (by omega))
  have centre : 4 ≤ 4 * x.significand * 2 ^ x.exponent.toNat := by
    rw [mul_assoc]
    exact Nat.le_mul_of_pos_right 4 (Nat.mul_pos positive (by positivity))
  calc 4 * Nat.pow 2 (-x.exponent).toNat ≤ 4 * 2 ^ 149 := small
    _ ≤ 4 * 10 ^ 60 := by norm_num
    _ ≤ 4 * x.significand * 2 ^ x.exponent.toNat * 10 ^ 60 := Nat.mul_le_mul_right _ centre

/-- A grid of nine digits is finer than half a unit of a number of 24 bits. -/
private theorem nine_digits (inner : Precision.single.Inner x) {top : ℤ} (reached : 10 ^ (top - 1) ≤ x.value) :
    10 ^ (top - 1 - (8 : ℕ)) ≤ (2 : ℚ) ^ x.exponent / 2 := by
  have unit : (0 : ℚ) < 2 ^ x.exponent := by positivity
  have below : (x.significand : ℚ) < 2 ^ 24 := by exact_mod_cast inner.below
  rw [zpow_sub₀ (by norm_num), zpow_natCast, div_le_div_iff₀ (by positivity) two_pos]
  unfold Dyadic.value at reached
  nlinarith

private theorem found_settles (inner : Precision.single.Inner x) (positive : 0 < x.significand) (tie : DecimalTie) :
    ∃ d, ((List.range 17).findSome? fun (more : Nat) =>
        (of .single x).onGrid tie ((of .single x).magnitude - 1 - more)) = some d ∧ d.Settles x := by
  obtain ⟨unit, -, centre, -⟩ := bounds inner positive
  obtain ⟨reached, within⟩ := magnitude_spec unit (unit_le inner positive)
  rw [centre] at reached within
  generalize (of .single x).magnitude = top at reached within ⊢
  have some := onGrid_ne_none inner positive tie (nine_digits inner reached)
  have split : List.range 17 = List.range 9 ++ (List.range 8).map (9 + ·) := rfl
  cases found : (List.range 9).findSome? fun (more : Nat) => (of .single x).onGrid tie (top - 1 - more) with
  | none => exact absurd (List.findSome?_eq_none_iff.mp found 8 (by decide)) some
  | some d =>
      obtain ⟨more, few, made⟩ := List.exists_of_findSome?_eq_some found
      obtain ⟨near, coarse, exponent⟩ := onGrid_spec inner positive made
      refine ⟨d, ?_, near, ?_, ?_⟩
      · rw [split, List.findSome?_append, found, Option.some_or]
      · rw [exponent]
        exact coarse
      · have few : more < 9 := List.mem_range.mp few
        obtain ⟨-, above⟩ := abs_le.mp near.half
        have unit : (0 : ℚ) < 2 ^ x.exponent := by positivity
        have one : (1 : ℚ) ≤ x.significand := by exact_mod_cast positive
        have step : (0 : ℚ) < 10 ^ d.exponent := by positivity
        have size : (10 : ℚ) ^ top ≤ 10 ^ 9 * 10 ^ d.exponent := by
          rw [← zpow_natCast, ← zpow_add₀ (by norm_num), exponent]
          apply zpow_le_zpow_right₀ (by norm_num)
          omega
        have digits : (d.digits : ℚ) < 2 * 10 ^ 9 := by
          unfold Decimal.value Dyadic.value at *
          nlinarith
        have digits : d.digits < 2 * 10 ^ 9 := by exact_mod_cast digits
        exact digits.trans (by norm_num)

theorem shortest_settles (inner : Precision.single.Inner x) (positive : 0 < x.significand) (tie : DecimalTie) :
    (shortest tie .single x).Settles x := by
  obtain ⟨d, found, settles⟩ := found_settles inner positive tie
  have few := settles.few
  obtain ⟨j, digits, exponent⟩ := dropZeros_spec 20 d
  have value := dropZeros_value 20 d
  unfold shortest
  dsimp only
  rw [if_neg positive.ne', found, Option.getD_some]
  constructor
  · rw [value]
    exact settles.near
  · rw [value, exponent]
    apply settles.coarse.trans
    apply zpow_le_zpow_right₀ (by norm_num)
    omega
  · apply lt_of_le_of_lt _ few
    rw [digits]
    exact Nat.le_mul_of_pos_right _ (by positivity)

end Decimal

end Plotline
