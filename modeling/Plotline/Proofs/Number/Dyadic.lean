import Mathlib.Algebra.Order.Field.Power
import Mathlib.Tactic.FieldSimp
import Mathlib.Tactic.Linarith
import Mathlib.Tactic.Positivity
import Mathlib.Tactic.Ring
import Plotline.Number.Dyadic

/-!
Binary fractions as rational numbers. What `Precision.nearest` gives is half a unit away from the quotient at most, and
a binary fraction to which the quotient is nearer than that is what it gives.
-/

namespace Plotline

theorem zpow_eq_pow_div_pow (b : ℚ) (e : ℤ) : b ^ e = b ^ e.toNat / b ^ (-e).toNat := by
  rcases le_total 0 e with above | below
  · have none : (-e).toNat = 0 := by omega
    rw [none, pow_zero, div_one, ← zpow_natCast, Int.toNat_of_nonneg above]
  · have none : e.toNat = 0 := by omega
    have size : ((-e).toNat : ℤ) = -e := Int.toNat_of_nonneg (by omega)
    rw [none, pow_zero, one_div, ← zpow_natCast, size, zpow_neg, inv_inv]

namespace Dyadic

def value (x : Dyadic) : ℚ := x.significand * 2 ^ x.exponent

theorem numerator_div_denominator (x : Dyadic) : (x.numerator : ℚ) / x.denominator = x.value := by
  unfold numerator denominator value
  rw [zpow_eq_pow_div_pow, Nat.pow_eq, Nat.pow_eq]
  push_cast
  ring

theorem denominator_pos (x : Dyadic) : 0 < x.denominator := Nat.pow_pos (by decide)

theorem numerator_pos {x : Dyadic} (positive : 0 < x.value) : 0 < x.numerator := by
  rw [← x.numerator_div_denominator] at positive
  by_contra none
  have zero : x.numerator = 0 := by omega
  rw [zero, Nat.cast_zero, zero_div] at positive
  exact lt_irrefl 0 positive

end Dyadic

/-! ### Rounding a quotient to a natural number -/

theorem quotient_split {n d : ℕ} (positive : 0 < d) :
    ∃ part : ℚ, (n : ℚ) / d = (n / d : ℕ) + part ∧ part * d = (n % d : ℕ) ∧ 0 ≤ part ∧ part < 1 := by
  have size : (0 : ℚ) < d := by exact_mod_cast positive
  have whole : (n : ℚ) = d * (n / d : ℕ) + (n % d : ℕ) := by exact_mod_cast (Nat.div_add_mod n d).symm
  have less : ((n % d : ℕ) : ℚ) < d := by exact_mod_cast Nat.mod_lt n positive
  refine ⟨(n % d : ℕ) / d, ?_, ?_, ?_, ?_⟩
  · rw [eq_comm, ← sub_eq_zero]
    field_simp
    linarith
  · field_simp
  · positivity
  · rwa [div_lt_one size]

theorem roundedQuotient_near {n d : ℕ} (positive : 0 < d) : |(n : ℚ) / d - roundedQuotient n d| ≤ 1 / 2 := by
  obtain ⟨part, whole, rest, least, most⟩ := quotient_split (n := n) positive
  have size : (0 : ℚ) < d := by exact_mod_cast positive
  unfold roundedQuotient
  dsimp only
  rw [whole, abs_le]
  split
  · rename_i up
    have half : d ≤ 2 * (n % d) := by omega
    have half : (d : ℚ) ≤ 2 * (part * d) := by
      rw [rest]
      exact_mod_cast half
    have part_ge : 1 / 2 ≤ part := by nlinarith
    push_cast
    constructor <;> linarith
  · rename_i down
    have half : 2 * (n % d) ≤ d := by omega
    have half : 2 * (part * d) ≤ (d : ℚ) := by
      rw [rest]
      exact_mod_cast half
    have part_le : part ≤ 1 / 2 := by nlinarith
    constructor <;> linarith

private theorem half_of_twice {part size : ℚ} (positive : 0 < size) (twice : 2 * part * size = size) : part = 1 / 2 := by
  have cancelled := mul_right_cancel₀ positive.ne' (twice.trans (one_mul size).symm)
  linarith

/-- A number to which the quotient is nearest is what it is rounded to, the even one of two. -/
theorem roundedQuotient_eq {n d r : ℕ} (positive : 0 < d) (near : |(n : ℚ) / d - r| ≤ 1 / 2)
    (tie : |(n : ℚ) / d - r| = 1 / 2 → r % 2 = 0) : roundedQuotient n d = r := by
  obtain ⟨part, whole, rest, least, most⟩ := quotient_split (n := n) positive
  have size : (0 : ℚ) < d := by exact_mod_cast positive
  rw [whole] at near tie
  obtain ⟨low, high⟩ := abs_le.mp near
  have fromBelow : n / d < r + 1 := by
    have cast : ((n / d : ℕ) : ℚ) < r + 1 := by linarith
    exact_mod_cast cast
  have fromAbove : r < n / d + 2 := by
    have cast : (r : ℚ) < (n / d : ℕ) + 2 := by linarith
    exact_mod_cast cast
  have twice : ((2 * (n % d) : ℕ) : ℚ) = 2 * part * d := by
    push_cast
    rw [← rest]
    ring
  unfold roundedQuotient
  dsimp only
  rcases Nat.lt_or_ge (n / d) r with more | same
  · obtain rfl : r = n / d + 1 := by omega
    apply if_pos
    push_cast at low tie
    have half : (d : ℚ) ≤ (2 * (n % d) : ℕ) := by
      rw [twice]
      nlinarith
    have half : d ≤ 2 * (n % d) := by exact_mod_cast half
    rcases Nat.lt_or_eq_of_le half with beyond | exact
    · exact .inl beyond
    · have isHalf : 2 * part * d = d := by
        rw [← twice]
        exact_mod_cast exact.symm
      have isHalf := half_of_twice size isHalf
      have even := tie (by rw [isHalf, abs_eq (by norm_num)]; right; ring)
      exact .inr ⟨exact.symm, by omega⟩
  · obtain rfl : r = n / d := by omega
    apply if_neg
    have half : ((2 * (n % d) : ℕ) : ℚ) ≤ d := by
      rw [twice]
      nlinarith
    have half : 2 * (n % d) ≤ d := by exact_mod_cast half
    rintro (beyond | ⟨exact, odd⟩)
    · omega
    · have isHalf : 2 * part * d = d := by
        rw [← twice]
        exact_mod_cast exact
      have isHalf := half_of_twice size isHalf
      have even := tie (by rw [isHalf, abs_eq (by norm_num)]; left; ring)
      omega

/-- Of two neighbours that are equally near the even one is taken. -/
theorem roundedQuotient_even {n d : ℕ} (positive : 0 < d) (tie : |(n : ℚ) / d - roundedQuotient n d| = 1 / 2) :
    roundedQuotient n d % 2 = 0 := by
  by_contra odd
  rcases (abs_eq (by norm_num)).mp tie with above | below
  · have other : |(n : ℚ) / d - (roundedQuotient n d + 1 : ℕ)| = 1 / 2 := by
      rw [abs_eq (by norm_num)]
      right
      push_cast
      linarith
    have same := roundedQuotient_eq positive other.le fun _ => by omega
    omega
  · obtain ⟨r, isNext⟩ : ∃ r, roundedQuotient n d = r + 1 := ⟨roundedQuotient n d - 1, by omega⟩
    rw [isNext] at below
    push_cast at below
    have other : |(n : ℚ) / d - r| = 1 / 2 := by
      rw [abs_eq (by norm_num)]
      left
      linarith
    have same := roundedQuotient_eq positive other.le fun _ => by omega
    omega

/-- Rounding keeps the order: only one and the same half could be rounded both ways, and it goes to the even
neighbour. -/
theorem roundedQuotient_mono {n d n' d' : ℕ} (positive : 0 < d) (positive' : 0 < d')
    (ordered : (n : ℚ) / d ≤ n' / d') : roundedQuotient n d ≤ roundedQuotient n' d' := by
  by_contra crossed
  have least := (abs_le.mp (roundedQuotient_near (n := n) positive)).1
  have most := (abs_le.mp (roundedQuotient_near (n := n') positive')).2
  have next : (roundedQuotient n' d' : ℚ) + 1 ≤ roundedQuotient n d := by exact_mod_cast not_le.mp crossed
  have half : (n : ℚ) / d = roundedQuotient n d - 1 / 2 := by linarith
  have half' : (n' : ℚ) / d' = roundedQuotient n' d' + 1 / 2 := by linarith
  have even := roundedQuotient_even (n := n) positive (by rw [half, abs_eq (by norm_num)]; right; ring)
  have even' := roundedQuotient_even (n := n') positive' (by rw [half', abs_eq (by norm_num)]; left; ring)
  have neighbours : (roundedQuotient n d : ℚ) = roundedQuotient n' d' + 1 := by linarith
  have neighbours : roundedQuotient n d = roundedQuotient n' d' + 1 := by exact_mod_cast neighbours
  omega

theorem roundedQuotient_eq_zero {n d : ℕ} (positive : 0 < d) : roundedQuotient n d = 0 ↔ (n : ℚ) / d ≤ 1 / 2 := by
  constructor
  · intro none
    have near := (abs_le.mp (roundedQuotient_near (n := n) positive)).2
    rw [none, Nat.cast_zero, sub_zero] at near
    exact near
  · intro small
    have least : (0 : ℚ) ≤ n / d := by positivity
    apply roundedQuotient_eq positive
    · rwa [Nat.cast_zero, sub_zero, abs_of_nonneg least]
    · exact fun _ => rfl

/-! ### Rounding to a precision -/

namespace Dyadic

/-- The number is nearest to the binary fraction among those of its exponent, which has to be even where another one is
as near. -/
structure Near (x : Dyadic) (q : ℚ) : Prop where
  half : |q - x.value| ≤ 2 ^ x.exponent / 2
  tie : |q - x.value| = 2 ^ x.exponent / 2 → x.significand % 2 = 0

end Dyadic

namespace Precision

variable {p : Precision} {n d : ℕ} {q : ℚ} {place other : ℤ} {x : Dyadic}

/-- At the place the number has as many bits before the point as the precision allows, fewer only at the least place. -/
structure IsPlace (p : Precision) (q : ℚ) (place : ℤ) : Prop where
  least : p.least ≤ place
  below : q < 2 ^ (p.bits + place)
  full : place = p.least ∨ 2 ^ (p.bits - 1 + place) ≤ q

private theorem IsPlace.le (one : p.IsPlace q place) (two : p.IsPlace q other) : place ≤ other := by
  rcases one.full with least | full
  · rw [least]
    exact two.least
  · have order := (zpow_lt_zpow_iff_right₀ (one_lt_two (α := ℚ))).mp (full.trans_lt two.below)
    omega

theorem IsPlace.unique (one : p.IsPlace q place) (two : p.IsPlace q other) : place = other :=
  le_antisymm (one.le two) (two.le one)

private theorem rescaled_div (n d : ℕ) (e : ℤ) :
    ((rescaled n d e).1 : ℚ) / (rescaled n d e).2 = n / d / 2 ^ e := by
  unfold rescaled
  rw [zpow_eq_pow_div_pow 2 e, Nat.pow_eq, Nat.pow_eq]
  push_cast
  rw [div_div_eq_mul_div, div_mul_eq_mul_div, div_div]

private theorem rescaled_pos (positive : 0 < d) (e : ℤ) : 0 < (rescaled n d e).2 :=
  Nat.mul_pos positive (Nat.pow_pos (by decide))

private theorem two_pow_log2 {n : ℕ} (positive : 0 < n) :
    (2 : ℚ) ^ (n.log2 : ℤ) ≤ n ∧ (n : ℚ) < 2 ^ ((n.log2 : ℤ) + 1) := by
  constructor
  · rw [zpow_natCast]
    exact_mod_cast Nat.log2_self_le positive.ne'
  · have above : n < 2 ^ (n.log2 + 1) := Nat.lt_log2_self
    exact_mod_cast above

theorem placeOf_isPlace (bits : 0 < p.bits) (top : 0 < n) (bottom : 0 < d) : p.IsPlace (n / d) (p.placeOf n d) := by
  obtain ⟨nLeast, nMost⟩ := two_pow_log2 top
  obtain ⟨dLeast, dMost⟩ := two_pow_log2 bottom
  have nPos : (0 : ℚ) < n := by exact_mod_cast top
  have dPos : (0 : ℚ) < d := by exact_mod_cast bottom
  have high : (n : ℚ) / d < 2 ^ ((n.log2 : ℤ) + 1 - d.log2) := by
    rw [zpow_sub₀ two_ne_zero]
    exact div_lt_div₀ nMost dLeast (by positivity) (by positivity)
  have low : (2 : ℚ) ^ ((n.log2 : ℤ) - (d.log2 + 1)) ≤ n / d := by
    rw [zpow_sub₀ two_ne_zero]
    exact div_le_div₀ nPos.le nLeast dPos dMost.le
  -- The guess is the place or the one above it; whether the number has all its bits there tells which.
  have test : ∀ guess, (rescaled n d guess).1 / (rescaled n d guess).2 < Nat.pow 2 (p.bits - 1) ↔
      (n : ℚ) / d < 2 ^ (p.bits - 1 + guess) := by
    intro guess
    have size : (0 : ℚ) < (rescaled n d guess).2 := by exact_mod_cast rescaled_pos bottom guess
    have exponent : (p.bits : ℤ) - 1 = (p.bits - 1 : ℕ) := by omega
    rw [Nat.pow_eq, Nat.div_lt_iff_lt_mul (rescaled_pos bottom guess), exponent, zpow_add₀ two_ne_zero, zpow_natCast,
      ← div_lt_iff₀ (by positivity), ← rescaled_div, div_lt_iff₀ size]
    exact_mod_cast Iff.rfl
  unfold placeOf
  dsimp only
  split
  · rename_i less
    have less := (test _).mp less
    refine ⟨le_max_left _ _, ?_, ?_⟩
    · apply less.trans_le
      apply zpow_le_zpow_right₀ one_le_two
      omega
    · rcases le_or_gt (max p.least ((n.log2 : ℤ) - d.log2 - p.bits + 1) - 1) p.least with atLeast | beyond
      · exact .inl (max_eq_left atLeast)
      · apply Or.inr
        apply le_trans _ low
        apply zpow_le_zpow_right₀ one_le_two
        omega
  · rename_i enough
    have enough := mt (test _).mpr enough
    refine ⟨le_max_left _ _, ?_, .inr (not_lt.mp enough)⟩
    apply high.trans_le
    apply zpow_le_zpow_right₀ one_le_two
    omega

private theorem abs_rescaled (n d s : ℕ) (e : ℤ) :
    |((rescaled n d e).1 : ℚ) / (rescaled n d e).2 - s| = |(n : ℚ) / d - s * 2 ^ e| / 2 ^ e := by
  have unit : (0 : ℚ) < 2 ^ e := by positivity
  rw [rescaled_div, ← abs_of_pos unit, ← abs_div, abs_of_pos unit, sub_div, mul_div_cancel_right₀ _ unit.ne']

/-- A binary fraction is what any number is rounded to that is nearest to it, unless its significand is the first of
its exponent: below that one the others lie closer together. -/
structure Inner (p : Precision) (x : Dyadic) : Prop where
  least : p.least ≤ x.exponent
  most : x.exponent ≤ p.most
  below : x.significand < 2 ^ p.bits
  full : x.exponent = p.least ∨ 2 ^ (p.bits - 1) < x.significand

private theorem Inner.isPlace (inner : p.Inner x) (bits : 0 < p.bits) (near : x.Near q) : p.IsPlace q x.exponent := by
  obtain ⟨low, high⟩ := abs_le.mp near.half
  have unit : (0 : ℚ) < 2 ^ x.exponent := by positivity
  unfold Dyadic.value at low high
  refine ⟨inner.least, ?_, ?_⟩
  · have below : (x.significand : ℚ) + 1 ≤ 2 ^ p.bits := by exact_mod_cast inner.below
    rw [zpow_add₀ two_ne_zero, zpow_natCast]
    nlinarith
  · rcases inner.full with least | full
    · exact .inl least
    · have exponent : (p.bits : ℤ) - 1 = (p.bits - 1 : ℕ) := by omega
      have above : (2 : ℚ) ^ (p.bits - 1) + 1 ≤ x.significand := by exact_mod_cast full
      rw [exponent, zpow_add₀ two_ne_zero, zpow_natCast]
      apply Or.inr
      nlinarith

theorem nearest_eq (inner : p.Inner x) (bits : 0 < p.bits) (top : 0 < n) (bottom : 0 < d) (near : x.Near (n / d)) :
    p.nearest n d = some x := by
  have place : p.placeOf n d = x.exponent := (placeOf_isPlace bits top bottom).unique (inner.isPlace bits near)
  have unit : (0 : ℚ) < 2 ^ x.exponent := by positivity
  have rounded : roundedQuotient (rescaled n d x.exponent).1 (rescaled n d x.exponent).2 = x.significand := by
    have distance := abs_rescaled n d x.significand x.exponent
    apply roundedQuotient_eq (rescaled_pos bottom _)
    · rw [distance, div_le_iff₀ unit]
      exact near.half.trans_eq (by ring)
    · intro exact
      rw [distance, div_eq_iff unit.ne'] at exact
      exact near.tie (exact.trans (by ring))
  unfold nearest
  dsimp only
  rw [if_neg top.ne', place, rounded, Nat.pow_eq, if_neg inner.below.ne, if_neg (not_lt.mpr inner.most)]

/-- The exponents leave room for a number of the size. -/
structure Fits (p : Precision) (q : ℚ) : Prop where
  bits : 0 < p.bits
  range : p.least < p.most
  small : q < 2 ^ (p.bits - 1 + p.most)

private theorem nearest_value (fits : p.Fits (n / d)) (top : 0 < n) (bottom : 0 < d) :
    ∃ y, p.nearest n d = some y ∧
      y.value = roundedQuotient (rescaled n d (p.placeOf n d)).1 (rescaled n d (p.placeOf n d)).2 *
        2 ^ p.placeOf n d := by
  have isPlace := placeOf_isPlace (p := p) fits.bits top bottom
  have room : p.placeOf n d < p.most := by
    rcases isPlace.full with least | full
    · rw [least]
      exact fits.range
    · have order := (zpow_lt_zpow_iff_right₀ (one_lt_two (α := ℚ))).mp (full.trans_lt fits.small)
      omega
  unfold nearest
  dsimp only
  rw [if_neg top.ne', Nat.pow_eq]
  split
  · rename_i carry
    rw [if_neg (not_lt.mpr (Int.add_one_le_of_lt room)), carry]
    refine ⟨_, rfl, ?_⟩
    unfold Dyadic.value
    rw [Nat.pow_eq, zpow_add_one₀ two_ne_zero, ← Nat.sub_add_cancel fits.bits]
    push_cast
    ring
  · rw [if_neg (not_lt.mpr room.le)]
    exact ⟨_, rfl, rfl⟩

theorem nearest_near (fits : p.Fits (n / d)) (top : 0 < n) (bottom : 0 < d) :
    ∃ y, p.nearest n d = some y ∧ |(n : ℚ) / d - y.value| ≤ 2 ^ p.placeOf n d / 2 := by
  obtain ⟨y, made, value⟩ := nearest_value fits top bottom
  have unit : (0 : ℚ) < 2 ^ p.placeOf n d := by positivity
  have rounded := roundedQuotient_near (n := (rescaled n d (p.placeOf n d)).1)
    (rescaled_pos (n := n) bottom (p.placeOf n d))
  rw [abs_rescaled, div_le_iff₀ unit, one_div_mul_eq_div, ← value] at rounded
  exact ⟨y, made, rounded⟩

/-- What a quotient is rounded to keeps to the bits and the exponents of the precision. -/
theorem nearest_bounds (bits : 0 < p.bits) (bottom : 0 < d) {y : Dyadic} (made : p.nearest n d = some y) :
    y.significand < 2 ^ p.bits ∧ y.exponent ≤ max p.least p.most := by
  unfold nearest at made
  dsimp only at made
  split at made
  · cases made
    exact ⟨by positivity, le_max_left _ _⟩
  · rename_i some
    have top : 0 < n := Nat.pos_of_ne_zero some
    have rounded := (abs_le.mp (roundedQuotient_near (n := (rescaled n d (p.placeOf n d)).1)
      (rescaled_pos (n := n) bottom (p.placeOf n d)))).1
    have below := (placeOf_isPlace (p := p) bits top bottom).below
    rw [rescaled_div] at rounded
    rw [zpow_add₀ two_ne_zero, zpow_natCast, ← div_lt_iff₀ (by positivity)] at below
    generalize roundedQuotient _ _ = significand at made rounded
    have small : (significand : ℚ) < 2 ^ p.bits + 1 := by linarith
    have small : significand < 2 ^ p.bits + 1 := by exact_mod_cast small
    split at made
    · rename_i carry
      split at made
      · cases made
      · rename_i inside
        obtain rfl := Option.some.inj made
        exact ⟨Nat.pow_lt_pow_right (by decide) (Nat.sub_one_lt bits.ne'), (not_lt.mp inside).trans (le_max_right _ _)⟩
    · rename_i short
      rw [Nat.pow_eq] at short
      split at made
      · cases made
      · rename_i inside
        obtain rfl := Option.some.inj made
        exact ⟨by dsimp only; omega, (not_lt.mp inside).trans (le_max_right _ _)⟩

/-- Where the number has all its bits, the error is the part of it that the last bit is. -/
theorem nearest_close (fits : p.Fits (n / d)) (top : 0 < n) (bottom : 0 < d)
    (normal : 2 ^ (p.bits - 1 + p.least) ≤ (n : ℚ) / d) :
    ∃ y, p.nearest n d = some y ∧ |(n : ℚ) / d - y.value| ≤ n / d / 2 ^ p.bits := by
  obtain ⟨y, made, near⟩ := nearest_near fits top bottom
  refine ⟨y, made, near.trans ?_⟩
  have full : 2 ^ (p.bits - 1 + p.placeOf n d) ≤ (n : ℚ) / d := by
    rcases (placeOf_isPlace (p := p) fits.bits top bottom).full with least | full
    · rw [least]
      exact normal
    · exact full
  have size : (2 : ℚ) ^ (p.bits - 1 + p.placeOf n d) = 2 ^ p.bits * (2 ^ p.placeOf n d / 2) := by
    rw [zpow_add₀ two_ne_zero, zpow_sub_one₀ two_ne_zero, zpow_natCast]
    ring
  rw [size] at full
  rw [le_div_iff₀ (by positivity)]
  linarith

/-- A quotient that has no more bits than the precision is not changed. -/
theorem nearest_exact (fits : p.Fits (n / d)) (top : 0 < n) (bottom : 0 < d) (is : (n : ℚ) / d = x.value)
    (short : x.significand < 2 ^ p.bits) (least : p.least ≤ x.exponent) :
    ∃ y, p.nearest n d = some y ∧ y.value = n / d := by
  obtain ⟨y, made, value⟩ := nearest_value fits top bottom
  refine ⟨y, made, ?_⟩
  have lower : p.placeOf n d ≤ x.exponent := by
    rcases (placeOf_isPlace (p := p) fits.bits top bottom).full with atLeast | full
    · rw [atLeast]
      exact least
    · have less : (x.significand : ℚ) < 2 ^ p.bits := by exact_mod_cast short
      have above : (2 : ℚ) ^ (p.bits - 1 + p.placeOf n d) < 2 ^ (p.bits + x.exponent) := by
        apply full.trans_lt
        rw [is, Dyadic.value, zpow_add₀ two_ne_zero, zpow_natCast]
        exact mul_lt_mul_of_pos_right less (by positivity)
      have order := (zpow_lt_zpow_iff_right₀ (one_lt_two (α := ℚ))).mp above
      omega
  obtain ⟨more, split⟩ := Int.eq_ofNat_of_zero_le (sub_nonneg.mpr lower)
  have whole : (n : ℚ) / d = (x.significand * 2 ^ more : ℕ) * 2 ^ p.placeOf n d := by
    have exponent : x.exponent = more + p.placeOf n d := by omega
    rw [is, Dyadic.value, exponent, zpow_add₀ two_ne_zero, zpow_natCast]
    push_cast
    ring
  have rounded := roundedQuotient_eq (n := (rescaled n d (p.placeOf n d)).1) (r := x.significand * 2 ^ more)
    (rescaled_pos (n := n) bottom (p.placeOf n d))
  rw [abs_rescaled, whole, sub_self, abs_zero, zero_div] at rounded
  rw [value, rounded (by norm_num) (by norm_num), whole]

end Precision

end Plotline
