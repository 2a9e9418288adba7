import Plotline.Proofs.Number.Shortest
import Plotline.Proofs.Number.Stored

/-!
How the numeral of a decimal is read: as a word of digits, scaled by a power of ten. The word and the power make up the
decimal; what is read is off by two roundings at most, and not at all where the decimal is a binary fraction itself.
-/

namespace Plotline

theorem digitsValue_zeros (start n : ℕ) : digitsValue start (List.replicate n 0) = start * 10 ^ n := by
  induction n generalizing start with
  | zero => rw [pow_zero, mul_one]; rfl
  | succ n ih =>
      rw [List.replicate_succ]
      exact (ih (start * 10)).trans (by ring)

namespace Numeral

/-- Digits that fit a word are all of them gathered. -/
theorem value_of_fits {n : Numeral} (fits : digitsValue 0 (n.whole ++ n.fraction.getD []) < wordLimit)
    (real : n.fraction ≠ none ∨ n.exponent ≠ none) :
    n.value = withExponent n.negative (digitsValue 0 (n.whole ++ n.fraction.getD []))
      (-((n.fraction.getD []).length : ℤ)) n.exponent := by
  obtain ⟨negative, whole, fraction, exponent⟩ := n
  dsimp only at fits real ⊢
  rw [digitsValue_append] at fits ⊢
  have first : digitsValue 0 whole < wordLimit := (le_digitsValue _ _).trans_lt fits
  unfold value
  dsimp only
  rw [gather_eq first]
  cases fraction with
  | none =>
      cases exponent with
      | none => exact absurd real (by simp)
      | some exponent => rfl
  | some digits =>
      have start : (([] : List ℕ).length : ℤ) - (digits.length - ([] : List ℕ).length : ℕ) = -(digits.length : ℤ) := by
        simp
      rw [Option.getD_some] at fits ⊢
      rw [← start]
      cases exponent with
      | none =>
          dsimp only [Option.getD_some]
          rw [gather_eq fits]
      | some exponent =>
          dsimp only [Option.getD_some]
          rw [gather_eq fits]

theorem withExponent_none (negative : Bool) (word : ℕ) (start : ℤ) :
    withExponent negative word start none = (scale word start).map fun m => .real ⟨negative, m⟩ := rfl

theorem withExponent_some (negative : Bool) (word : ℕ) {start place : ℤ} (startSmall : |start| ≤ 1000)
    (placeSmall : |place| ≤ 1000) :
    withExponent negative word start (some (decide (0 ≤ place), decimalDigits place.natAbs)) =
      (scale word (start + place)).map fun m => .real ⟨negative, m⟩ := by
  obtain ⟨startLeast, startMost⟩ := abs_le.mp startSmall
  obtain ⟨placeLeast, placeMost⟩ := abs_le.mp placeSmall
  have size : (decimalDigits place.natAbs).foldl (fun n d => n * 10 + d) 0 = place.natAbs :=
    digitsValue_decimalDigits place.natAbs
  have moved : clampExponent (if decide (0 ≤ place) = true then start + place.natAbs else start - place.natAbs) =
      start + place := by
    unfold clampExponent
    rcases le_or_gt 0 place with above | below
    · rw [if_pos (decide_eq_true above)]
      omega
    · rw [if_neg (by simpa using below)]
      omega
  unfold withExponent exponentLimit
  dsimp only
  rw [size, if_neg (by omega), moved]

/-- The numeral stands for a word of at most 53 bits, scaled by a power of ten. -/
structure Scales (n : Numeral) (word : ℕ) (exponent : ℤ) (q : ℚ) : Prop where
  value : n.value = (scale word exponent).map fun m => .real ⟨n.negative, m⟩
  total : (word : ℚ) * 10 ^ exponent = q
  short : word < 2 ^ 53
  moderate : |exponent| ≤ 100

end Numeral

namespace DecimalStyle

open Numeral

private theorem length_le {n : ℕ} (few : n < 2 ^ 31) : (decimalDigits n).length ≤ 10 := by
  unfold decimalDigits
  rw [List.length_map]
  apply (Nat.length_toDigits_le_iff (by decide) (by decide)).mpr
  exact few.trans (by norm_num)

private theorem lt_pow_length (n : ℕ) : n < 10 ^ (decimalDigits n).length := by
  unfold decimalDigits
  rw [List.length_map]
  have digits : 0 < (Nat.toDigits 10 n).length := List.length_pos_iff.mpr Nat.toDigits_ne_nil
  exact (Nat.length_toDigits_le_iff (by decide) digits).mp le_rfl

variable {d : Decimal}

/-- Where the point stands within the digits, or before them, the word is the digits themselves. -/
private theorem scales_digits {n : Numeral} (few : d.digits < 2 ^ 31) (moderate : |d.exponent| ≤ 100)
    (all : digitsValue 0 (n.whole ++ n.fraction.getD []) = d.digits) (real : n.fraction ≠ none ∨ n.exponent ≠ none)
    (moved : withExponent n.negative d.digits (-((n.fraction.getD []).length : ℤ)) n.exponent =
      (scale d.digits d.exponent).map fun m => .real ⟨n.negative, m⟩) : n.Scales d.digits d.exponent d.value where
  value := by
    have short : d.digits < wordLimit := few.trans (by decide)
    rw [value_of_fits (by rwa [all]) real, all, moved]
  total := rfl
  short := few.trans (by norm_num)
  moderate := moderate

/-- Zeros up to the point, and the one after it, belong to the word. -/
private theorem scales_padded {zeros : ℕ} (exponent : d.exponent = zeros)
    (places : (decimalDigits d.digits).length + zeros ≤ 13) (negative : Bool) :
    Scales { negative, whole := decimalDigits d.digits ++ List.replicate zeros 0, fraction := some [0] }
      (d.digits * 10 ^ zeros * 10) (-1) d.value := by
  have word : digitsValue 0 (decimalDigits d.digits ++ List.replicate zeros 0 ++ [0]) = d.digits * 10 ^ zeros * 10 := by
    rw [digitsValue_append, digitsValue_append, digitsValue_decimalDigits, digitsValue_zeros]
    rfl
  have short : d.digits * 10 ^ zeros * 10 < 2 ^ 53 := by
    calc d.digits * 10 ^ zeros * 10 < 10 ^ (decimalDigits d.digits).length * 10 ^ zeros * 10 := by
          have below := lt_pow_length d.digits
          exact Nat.mul_lt_mul_of_pos_right (Nat.mul_lt_mul_of_pos_right below (by positivity)) (by decide)
      _ = 10 ^ ((decimalDigits d.digits).length + zeros + 1) := by ring
      _ ≤ 10 ^ 14 := Nat.pow_le_pow_right (by decide) (by omega)
      _ < 2 ^ 53 := by norm_num
  have limit : 2 ^ 53 < wordLimit := by decide
  refine ⟨?_, ?_, short, by norm_num⟩
  · rw [value_of_fits _ (.inl (Option.some_ne_none _))]
    · dsimp only [Option.getD_some]
      rw [word]
      rfl
    · dsimp only [Option.getD_some]
      rw [word]
      exact short.trans limit
  · unfold Decimal.value
    rw [exponent, zpow_natCast]
    push_cast
    ring

/-- The place of the first digit makes up for the digits after the point. -/
private theorem scales_placed (few : d.digits < 2 ^ 31) (moderate : |d.exponent| ≤ 100) {place : ℤ}
    (first : place = d.exponent + (decimalDigits d.digits).length - 1) (negative : Bool) :
    Scales
      { negative
        whole := (decimalDigits d.digits).take 1
        fraction :=
          if ((decimalDigits d.digits).drop 1).isEmpty then none else some ((decimalDigits d.digits).drop 1)
        exponent := some (decide (0 ≤ place), decimalDigits place.natAbs) } d.digits d.exponent d.value := by
  have length := length_le few
  have nonempty : 0 < (decimalDigits d.digits).length := List.length_pos_iff.mpr (decimalDigits_ne_nil d.digits)
  obtain ⟨least, most⟩ := abs_le.mp moderate
  have fraction : (if ((decimalDigits d.digits).drop 1).isEmpty then none
      else some ((decimalDigits d.digits).drop 1) : Option (List ℕ)).getD [] = (decimalDigits d.digits).drop 1 := by
    split
    · rename_i empty
      exact (List.isEmpty_iff.mp empty).symm
    · rfl
  apply scales_digits few moderate _ (.inr (Option.some_ne_none _))
  · dsimp only
    rw [fraction, List.length_drop, withExponent_some]
    · congr 2
      omega
    · rw [abs_le]
      omega
    · rw [abs_le]
      omega
  · dsimp only
    rw [fraction, List.take_append_drop]
    exact digitsValue_decimalDigits d.digits

theorem numeral_scales (few : d.digits < 2 ^ 31) (positive : 0 < d.digits) (moderate : |d.exponent| ≤ 100)
    (negative : Bool) :
    ∃ word exponent, { Single.storedStyle.numeral d with negative }.Scales word exponent d.value := by
  have place : placeOf d = d.exponent + (decimalDigits d.digits).length - 1 := if_neg positive.ne'
  have digits := digitsValue_decimalDigits d.digits
  unfold numeral
  dsimp only
  split
  · rename_i pointed
    have highest : placeOf d ≤ 12 := pointed.2
    split
    · rename_i before
      refine ⟨d.digits, d.exponent, scales_digits few moderate ?_ (.inl (Option.some_ne_none _)) ?_⟩
      · have zero : digitsValue 0 [0] = 0 := rfl
        dsimp only [Option.getD_some]
        rw [digitsValue_append, digitsValue_append, digitsValue_zeros, zero, zero_mul]
        exact digits
      · dsimp only [Option.getD_some]
        rw [List.length_append, List.length_replicate, withExponent_none]
        congr 2
        omega
    · rename_i after
      split
      · rename_i whole
        exact ⟨_, _, scales_padded (by omega) (by omega) negative⟩
      · rename_i split
        refine ⟨d.digits, d.exponent, scales_digits few moderate ?_ (.inl (Option.some_ne_none _)) ?_⟩
        · dsimp only [Option.getD_some]
          rw [List.take_append_drop]
          exact digits
        · dsimp only [Option.getD_some]
          rw [List.length_drop, withExponent_none]
          congr 2
          omega
  · exact ⟨_, _, scales_placed few moderate place negative⟩

end DecimalStyle

/-! ### Scaling -/

namespace Numeral

/-- The number is neither too large nor too small for a double, by far. -/
structure Ordinary (q : ℚ) : Prop where
  least : 1 / 2 ^ 500 ≤ q
  most : q ≤ 2 ^ 500

variable {n d : ℕ} {q : ℚ}

private theorem Ordinary.fits (ordinary : Ordinary q) : Precision.double.Fits q := by
  refine ⟨by decide, by decide, ordinary.most.trans_lt ?_⟩
  have exponent : ((Precision.double.bits : ℤ) - 1 + Precision.double.most) = (1023 : ℕ) := rfl
  rw [exponent, zpow_natCast]
  exact pow_lt_pow_right₀ one_lt_two (by decide)

private theorem Ordinary.of_one_le (one : 1 ≤ q) (most : q ≤ 2 ^ 400) : Ordinary q where
  least := ((div_le_one (by positivity)).mpr (one_le_pow₀ one_le_two)).trans one
  most := most.trans (pow_le_pow_right₀ one_le_two (by decide))

theorem double_close (ordinary : Ordinary (n / d)) (top : 0 < n) (bottom : 0 < d) :
    ∃ y, Precision.double.nearest n d = some y ∧ |(n : ℚ) / d - y.value| ≤ n / d / 2 ^ 53 := by
  apply Precision.nearest_close ordinary.fits top bottom
  apply le_trans _ ordinary.least
  have exponent : ((Precision.double.bits : ℤ) - 1 + Precision.double.least) = -(1022 : ℕ) := rfl
  rw [exponent, zpow_neg, zpow_natCast, ← one_div]
  exact one_div_le_one_div_of_le (by positivity) (pow_le_pow_right₀ one_le_two (by decide))

theorem double_exact (ordinary : Ordinary (n / d)) (top : 0 < n) (bottom : 0 < d) {x : Dyadic}
    (is : (n : ℚ) / d = x.value) (short : x.significand < 2 ^ 53) (least : -1074 ≤ x.exponent) :
    ∃ y, Precision.double.nearest n d = some y ∧ y.value = n / d :=
  Precision.nearest_exact ordinary.fits top bottom is short least

theorem ofNat?_spec {word : ℕ} (positive : 0 < word) (short : word < 2 ^ 53) :
    ∃ x, Double.ofNat? word = some x ∧ x.value = word := by
  have one : (1 : ℚ) ≤ word := by exact_mod_cast positive
  have less : (word : ℚ) < 2 ^ 53 := by exact_mod_cast short
  have ordinary : Ordinary ((word : ℚ) / (1 : ℕ)) := by
    rw [Nat.cast_one, div_one]
    exact .of_one_le one (less.le.trans (pow_le_pow_right₀ one_le_two (by decide)))
  have is : (word : ℚ) / (1 : ℕ) = (Dyadic.mk word 0).value := by
    unfold Dyadic.value
    rw [Nat.cast_one, div_one, zpow_zero, mul_one]
  obtain ⟨x, made, value⟩ := double_exact ordinary positive one_pos is short (by norm_num)
  rw [Nat.cast_one, div_one] at value
  exact ⟨x, made, value⟩

private theorem ten_pow_le (n : ℕ) (small : n ≤ 100) : (10 : ℚ) ^ n ≤ 2 ^ 400 := by
  have sixteen : (2 : ℚ) ^ 400 = 16 ^ 100 := by
    rw [show (16 : ℚ) = 2 ^ 4 by norm_num, ← pow_mul]
  rw [sixteen]
  exact (pow_le_pow_right₀ (by norm_num) small).trans (pow_le_pow_left₀ (by norm_num) (by norm_num) 100)

private theorem ordinary_ten_pow {n : ℕ} (small : n ≤ 100) : Ordinary (((10 ^ n : ℕ) : ℚ) / (1 : ℕ)) := by
  rw [Nat.cast_one, div_one]
  push_cast
  exact .of_one_le (one_le_pow₀ (by norm_num)) (ten_pow_le n small)

theorem powerOfTen_close {n : ℕ} (small : n ≤ 100) : |10 ^ n - (powerOfTen n).value| ≤ 10 ^ n / 2 ^ 53 := by
  obtain ⟨y, made, close⟩ := double_close (ordinary_ten_pow small) (by positivity) one_pos
  rw [Nat.cast_one, div_one] at close
  push_cast at close
  unfold powerOfTen Double.ofNat?
  rw [Nat.pow_eq, made, Option.getD_some]
  exact close

/-- Powers of ten up to this one are doubles themselves. -/
theorem powerOfTen_exact {n : ℕ} (small : n ≤ 22) : (powerOfTen n).value = 10 ^ n := by
  have is : ((10 ^ n : ℕ) : ℚ) / (1 : ℕ) = (Dyadic.mk (5 ^ n) n).value := by
    unfold Dyadic.value
    rw [Nat.cast_one, div_one, zpow_natCast]
    push_cast
    rw [← mul_pow]
    norm_num
  have short : 5 ^ n < 2 ^ 53 := (Nat.pow_le_pow_right (by decide) small).trans_lt (by norm_num)
  obtain ⟨y, made, value⟩ := double_exact (ordinary_ten_pow (by omega)) (by positivity) one_pos is short
    (by dsimp only; omega)
  rw [Nat.cast_one, div_one] at value
  push_cast at value
  unfold powerOfTen Double.ofNat?
  rw [Nat.pow_eq, made, Option.getD_some]
  exact value

/-- The number is a double itself. -/
def IsDouble (q : ℚ) : Prop := ∃ x : Dyadic, q = x.value ∧ x.significand < 2 ^ 53 ∧ -1074 ≤ x.exponent

private theorem close_of_ratio (top : 0 < n) (bottom : 0 < d) (least : 1 / 2 ^ 450 ≤ q) (most : q ≤ 2 ^ 460)
    (ratio : |q - n / d| ≤ q / 2 ^ 52) :
    ∃ y, Precision.double.nearest n d = some y ∧ |q - y.value| ≤ q / 2 ^ 51 ∧
      ((n : ℚ) / d = q → IsDouble q → y.value = q) := by
  have positive : 0 < q := lt_of_lt_of_le (by positivity) least
  obtain ⟨low, high⟩ := abs_le.mp ratio
  have part : q / 2 ^ 52 ≤ q / 2 := div_le_div_of_nonneg_left positive.le two_pos (by norm_num)
  have ordinary : Ordinary ((n : ℚ) / d) := by
    constructor
    · have half : q / 2 ≤ n / d := by linarith
      refine le_trans ?_ ((div_le_div_of_nonneg_right least two_pos.le).trans half)
      rw [div_div, ← pow_succ]
      exact one_div_le_one_div_of_le (by positivity) (pow_le_pow_right₀ one_le_two (by decide))
    · have double : (n : ℚ) / d ≤ q * 2 := by linarith
      apply (double.trans (mul_le_mul_of_nonneg_right most two_pos.le)).trans
      rw [← pow_succ]
      exact pow_le_pow_right₀ one_le_two (by decide)
  obtain ⟨y, made, close⟩ := double_close ordinary top bottom
  refine ⟨y, made, ?_, ?_⟩
  · have twice : (n : ℚ) / d / 2 ^ 53 ≤ q / 2 ^ 52 := by
      rw [div_le_div_iff₀ (by positivity) (by positivity)]
      nlinarith
    calc |q - y.value| ≤ |q - n / d| + |n / d - y.value| := abs_sub_le _ _ _
      _ ≤ q / 2 ^ 52 + q / 2 ^ 52 := add_le_add ratio (close.trans twice)
      _ = q / 2 ^ 51 := by ring
  · rintro same ⟨x, is, short, exponent⟩
    obtain ⟨z, made', value⟩ := double_exact ordinary top bottom (same.trans is) short exponent
    rw [made] at made'
    rw [Option.some.inj made', value, same]

/-- What is read of a number is off by two roundings at most, and by none where the power of ten is small and the number
is a double itself. -/
structure ReadsClose (y : Dyadic) (q : ℚ) (power : ℕ) : Prop where
  close : |q - y.value| ≤ q / 2 ^ 51
  exact : power ≤ 22 → IsDouble q → y.value = q

section

variable {x : Dyadic} {word n : ℕ} (value : x.value = word) (positive : 0 < word) (short : word < 2 ^ 53)
  (small : n ≤ 100)

include value positive short small

theorem quotient_reads : ∃ y, quotient x (powerOfTen n) = y ∧ ReadsClose y (word * (10 ^ n)⁻¹) n := by
  have one : (1 : ℚ) ≤ word := by exact_mod_cast positive
  have less : (word : ℚ) < 2 ^ 53 := by exact_mod_cast short
  have power : (1 : ℚ) ≤ 10 ^ n := one_le_pow₀ (by norm_num)
  have powerPos : (0 : ℚ) < 10 ^ n := by positivity
  have close := powerOfTen_close small
  obtain ⟨-, high⟩ := abs_le.mp close
  have half : (10 : ℚ) ^ n / 2 ≤ (powerOfTen n).value := by linarith
  have pPos : 0 < (powerOfTen n).value := by linarith
  have xTop : 0 < x.numerator := Dyadic.numerator_pos (by rw [value]; linarith)
  have ratio : ((x.numerator * (powerOfTen n).denominator : ℕ) : ℚ) / (x.denominator * (powerOfTen n).numerator : ℕ) =
      word / (powerOfTen n).value := by
    rw [← value, ← x.numerator_div_denominator, ← (powerOfTen n).numerator_div_denominator]
    push_cast
    rw [div_div_div_eq]
  have least : 1 / 2 ^ 450 ≤ word * ((10 : ℚ) ^ n)⁻¹ := by
    have inverse : ((2 : ℚ) ^ 450)⁻¹ ≤ (10 ^ n)⁻¹ :=
      inv_anti₀ powerPos ((ten_pow_le n small).trans (pow_le_pow_right₀ one_le_two (by decide)))
    rw [one_div]
    exact inverse.trans (le_mul_of_one_le_left (by positivity) one)
  have most : word * ((10 : ℚ) ^ n)⁻¹ ≤ 2 ^ 460 := by
    have inverse : ((10 : ℚ) ^ n)⁻¹ ≤ 1 := inv_le_one_of_one_le₀ power
    have whole : word * ((10 : ℚ) ^ n)⁻¹ ≤ word := mul_le_of_le_one_right (by positivity) inverse
    exact whole.trans (less.le.trans (pow_le_pow_right₀ one_le_two (by decide)))
  have distance : |word * ((10 : ℚ) ^ n)⁻¹ - word / (powerOfTen n).value| ≤ word * (10 ^ n)⁻¹ / 2 ^ 52 := by
    have difference : word * ((10 : ℚ) ^ n)⁻¹ - word / (powerOfTen n).value =
        word * ((powerOfTen n).value - 10 ^ n) / (10 ^ n * (powerOfTen n).value) := by
      field_simp
    rw [difference, abs_div, abs_mul, abs_of_pos (by positivity : (0 : ℚ) < 10 ^ n * (powerOfTen n).value),
      abs_of_nonneg (by positivity : (0 : ℚ) ≤ word), abs_sub_comm]
    calc word * |10 ^ n - (powerOfTen n).value| / (10 ^ n * (powerOfTen n).value)
        ≤ word * (10 ^ n / 2 ^ 53) / (10 ^ n * (10 ^ n / 2)) := by gcongr
      _ = word * (10 ^ n)⁻¹ / 2 ^ 52 := by field_simp
  obtain ⟨y, made, near, exact⟩ := close_of_ratio (Nat.mul_pos xTop (Dyadic.denominator_pos _))
    (Nat.mul_pos x.denominator_pos (Dyadic.numerator_pos pPos)) least most (by rwa [ratio])
  unfold quotient
  rw [made]
  refine ⟨y, rfl, near, fun few => exact ?_⟩
  rw [ratio, powerOfTen_exact few, div_eq_mul_inv]

theorem times_reads : ∃ y, times x (powerOfTen n) = some y ∧ ReadsClose y (word * 10 ^ n) n := by
  have one : (1 : ℚ) ≤ word := by exact_mod_cast positive
  have less : (word : ℚ) < 2 ^ 53 := by exact_mod_cast short
  have power : (1 : ℚ) ≤ 10 ^ n := one_le_pow₀ (by norm_num)
  have close := powerOfTen_close small
  obtain ⟨-, high⟩ := abs_le.mp close
  have pPos : 0 < (powerOfTen n).value := by linarith
  have xTop : 0 < x.numerator := Dyadic.numerator_pos (by rw [value]; linarith)
  have ratio : ((x.numerator * (powerOfTen n).numerator : ℕ) : ℚ) / (x.denominator * (powerOfTen n).denominator : ℕ) =
      word * (powerOfTen n).value := by
    rw [← value, ← x.numerator_div_denominator, ← (powerOfTen n).numerator_div_denominator]
    push_cast
    rw [div_mul_div_comm]
  have least : 1 / 2 ^ 450 ≤ word * (10 : ℚ) ^ n :=
    ((div_le_one (by positivity)).mpr (one_le_pow₀ one_le_two)).trans (one_le_mul_of_one_le_of_one_le one power)
  have most : word * (10 : ℚ) ^ n ≤ 2 ^ 460 := by
    have product : word * (10 : ℚ) ^ n ≤ 2 ^ 53 * 2 ^ 400 :=
      mul_le_mul less.le (ten_pow_le n small) (by positivity) (by positivity)
    rw [← pow_add] at product
    exact product.trans (pow_le_pow_right₀ one_le_two (by decide))
  have distance : |word * (10 : ℚ) ^ n - word * (powerOfTen n).value| ≤ word * 10 ^ n / 2 ^ 52 := by
    rw [← mul_sub, abs_mul, abs_of_nonneg (by positivity : (0 : ℚ) ≤ word)]
    calc (word : ℚ) * |10 ^ n - (powerOfTen n).value| ≤ word * (10 ^ n / 2 ^ 53) := by gcongr
      _ ≤ word * 10 ^ n / 2 ^ 52 := by
        rw [← mul_div_assoc]
        exact div_le_div_of_nonneg_left (by positivity) (by positivity) (by norm_num)
  obtain ⟨y, made, near, exact⟩ := close_of_ratio (Nat.mul_pos xTop (Dyadic.numerator_pos pPos))
    (Nat.mul_pos x.denominator_pos (Dyadic.denominator_pos _)) least most (by rwa [ratio])
  unfold times
  refine ⟨y, made, near, fun few => exact ?_⟩
  rw [ratio, powerOfTen_exact few]

end

theorem scale_reads {word : ℕ} {exponent : ℤ} (positive : 0 < word) (short : word < 2 ^ 53)
    (moderate : |exponent| ≤ 100) :
    ∃ y, scale word exponent = some y ∧ ReadsClose y (word * 10 ^ exponent) exponent.natAbs := by
  obtain ⟨x, isWord, value⟩ := ofNat?_spec positive short
  obtain ⟨least, most⟩ := abs_le.mp moderate
  unfold scale
  rw [isWord]
  dsimp only [bind, Option.bind]
  split
  · rename_i below
    obtain ⟨n, rfl⟩ : ∃ n : ℕ, exponent = -n := ⟨exponent.natAbs, by omega⟩
    obtain ⟨y, made, reads⟩ := quotient_reads (n := n) value positive short (by omega)
    rw [Int.natAbs_neg, Int.natAbs_natCast, shrink, if_pos (by omega), zpow_neg, zpow_natCast, made]
    exact ⟨y, rfl, reads⟩
  · rename_i above
    obtain ⟨n, rfl⟩ := Int.eq_ofNat_of_zero_le (not_lt.mp above)
    obtain ⟨y, made, reads⟩ := times_reads (n := n) value positive short (by omega)
    rw [if_pos (by omega), Int.toNat_natCast, Int.natAbs_natCast, zpow_natCast, made]
    exact ⟨y, rfl, reads⟩

end Numeral

end Plotline
