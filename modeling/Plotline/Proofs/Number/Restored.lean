import Plotline.Proofs.Json.Tree
import Plotline.Proofs.Number.Apart
import Plotline.Proofs.Number.Reading

/-!
Every finite number is read back from its numeral. The numeral is that of a decimal nearest to the number, and reading
moves it by two roundings at most; that takes it past a middle only if it is closer to the middle than decimals of so
few digits come.
-/

namespace Plotline

namespace Numeral

private theorem scale_signed {word : ℕ} {exponent : ℤ} {y : Dyadic} (negative : Bool)
    (made : ((scale word exponent).map fun m => .real ⟨false, m⟩) = some (Number.real ⟨false, y⟩)) :
    ((scale word exponent).map fun m => .real ⟨negative, m⟩) = some (Number.real ⟨negative, y⟩) := by
  obtain ⟨z, isSome, same⟩ := Option.map_eq_some_iff.mp made
  cases same
  rw [isSome]
  rfl

private theorem withExponent_signed {word : ℕ} {start : ℤ} {exponent : Option (Bool × List ℕ)} {y : Dyadic}
    (negative : Bool) (made : withExponent false word start exponent = some (.real ⟨false, y⟩)) :
    withExponent negative word start exponent = some (.real ⟨negative, y⟩) := by
  cases exponent with
  | none => exact scale_signed negative made
  | some spelled =>
      unfold withExponent at made ⊢
      dsimp only at made ⊢
      split
      · rename_i large
        rw [if_pos large] at made
        split
        · rename_i overflow
          rw [if_pos overflow] at made
          cases made
        · rename_i underflow
          rw [if_neg underflow] at made
          cases made
          rfl
      · rename_i moderate
        rw [if_neg moderate] at made
        exact scale_signed negative made

/-- The sign of a numeral with a point or an exponent is the sign of its value. -/
theorem value_signed {n : Numeral} (real : n.fraction ≠ none ∨ n.exponent ≠ none) {y : Dyadic}
    (value : { n with negative := false }.value = some (.real ⟨false, y⟩)) (negative : Bool) :
    { n with negative }.value = some (.real ⟨negative, y⟩) := by
  obtain ⟨_, whole, fraction, exponent⟩ := n
  unfold Numeral.value at value ⊢
  dsimp only at value real ⊢
  generalize gather 0 whole = gathered at value ⊢
  obtain ⟨word, beyond⟩ := gathered
  cases beyond <;> cases fraction <;> cases exponent <;>
    first | exact withExponent_signed negative value | simp at real

end Numeral

namespace Dyadic

/-- The decimal that stands for the binary fraction is read, and narrowed to the binary fraction again. -/
def ReadBack (m : Dyadic) : Prop :=
  ∃ y : Dyadic, Precision.single.nearest y.numerator y.denominator = some m ∧ ∀ negative : Bool,
    { Single.storedStyle.numeral (.shortest Single.storedStyle.tie .single m) with negative }.value =
      some (.real ⟨negative, y⟩)

end Dyadic

namespace DecimalStyle

theorem numeral_real (style : DecimalStyle) (d : Decimal) :
    (style.numeral d).fraction ≠ none ∨ (style.numeral d).exponent ≠ none := by
  unfold numeral
  dsimp only
  split
  · split
    · exact .inl (Option.some_ne_none _)
    · split <;> exact .inl (Option.some_ne_none _)
  · exact .inr (Option.some_ne_none _)

end DecimalStyle

namespace Dyadic

variable {m : Dyadic}

/-- Whether the binary fraction is read back, by reading it. -/
def readsBack (m : Dyadic) : Bool :=
  match { Single.storedStyle.numeral (.shortest Single.storedStyle.tie .single m) with negative := false }.value with
  | some (.real y) => !y.negative && Precision.single.nearest y.magnitude.numerator y.magnitude.denominator = some m
  | _ => false

theorem readBack_of_readsBack (reads : m.readsBack = true) : m.ReadBack := by
  unfold readsBack at reads
  split at reads
  · rename_i y value
    obtain ⟨negative, y⟩ := y
    obtain ⟨sign, narrowed⟩ := Bool.and_eq_true_iff.mp reads
    obtain rfl : negative = false := by simpa using sign
    exact ⟨y, of_decide_eq_true narrowed, Numeral.value_signed (DecimalStyle.numeral_real _ _) value⟩
  · cases reads

/-- The first binary fractions of each exponent have closer neighbours below; they are read one by one. -/
private theorem first_readsBack : ∀ i < 253, (Dyadic.mk 8388608 ((i : ℕ) - 148)).readsBack = true := by
  decide +kernel

theorem readBack_of_first {e : ℤ} (least : -149 < e) (most : e ≤ 104) : (Dyadic.mk 8388608 e).ReadBack := by
  have reads := first_readsBack (e + 148).toNat (by omega)
  have same : ((e + 148).toNat : ℤ) - 148 = e := by omega
  rw [same] at reads
  exact readBack_of_readsBack reads

theorem readBack_zero : (Dyadic.mk 0 (-149)).ReadBack := readBack_of_readsBack (by decide +kernel)

/-- The neighbours of the middle to which a decimal comes too close. -/
theorem readBack_below_exception : (Dyadic.mk 11420669 (-107)).ReadBack := readBack_of_readsBack (by decide +kernel)

theorem readBack_above_exception : (Dyadic.mk 11420670 (-107)).ReadBack := readBack_of_readsBack (by decide +kernel)

/-! ### Binary fractions with equally close neighbours -/

section

variable {q v : ℚ} {power : ℕ}

/-- A number that is not nearest to the binary fraction lies beyond the middle to one of its neighbours, and what it was
before reading lies before that middle. -/
private theorem middle_of_not_near {y : Dyadic} (positive : 0 < m.significand) (near : m.Near v)
    (reads : |v - y.value| ≤ v / 2 ^ 51) (far : ¬ m.Near y.value) :
    ∃ n : ℕ, n % 2 = 1 ∧ (n = 2 * m.significand + 1 ∨ n + 1 = 2 * m.significand) ∧
      |v - n * 2 ^ (m.exponent - 1)| ≤ v / 2 ^ 51 ∧ 2 ^ m.exponent / 2 ≤ |v - m.value| + v / 2 ^ 51 := by
  have unit : (0 : ℚ) < 2 ^ m.exponent := by positivity
  have half : (2 : ℚ) ^ (m.exponent - 1) = 2 ^ m.exponent / 2 := zpow_sub_one₀ two_ne_zero _
  obtain ⟨low, high⟩ := abs_le.mp near.half
  obtain ⟨least, most⟩ := abs_le.mp reads
  have beyond : 2 ^ m.exponent / 2 ≤ |y.value - m.value| := by
    by_contra within
    rw [not_le] at within
    exact far ⟨within.le, fun exact => absurd exact within.ne⟩
  have moved : |y.value - m.value| ≤ |v - m.value| + v / 2 ^ 51 := by
    have sum := abs_sub_le y.value v m.value
    rw [abs_sub_comm y.value v] at sum
    linarith
  rcases le_abs.mp beyond with up | down
  · refine ⟨2 * m.significand + 1, by omega, .inl rfl, ?_, beyond.trans moved⟩
    have middle : ((2 * m.significand + 1 : ℕ) : ℚ) * 2 ^ (m.exponent - 1) = m.value + 2 ^ m.exponent / 2 := by
      rw [half, Dyadic.value]
      push_cast
      ring
    rw [middle, abs_le]
    constructor <;> linarith
  · refine ⟨2 * m.significand - 1, by omega, .inr (by omega), ?_, beyond.trans moved⟩
    have middle : ((2 * m.significand - 1 : ℕ) : ℚ) * 2 ^ (m.exponent - 1) = m.value - 2 ^ m.exponent / 2 := by
      rw [half, Dyadic.value, Nat.cast_sub (by omega)]
      push_cast
      ring
    rw [middle, abs_le]
    constructor <;> linarith

private theorem power_le_of_dvd {k n two : ℕ} (divides : 5 ^ k ∣ n * 2 ^ two) (positive : 0 < n) (few : n < 2 ^ 53) :
    k ≤ 22 := by
  have coprime : (5 ^ k).Coprime (2 ^ two) := Nat.Coprime.pow k two (by decide)
  have least := Nat.le_of_dvd positive (coprime.dvd_of_dvd_mul_right divides)
  have less : 5 ^ k < 5 ^ 23 := least.trans_lt (few.trans (by norm_num))
  have order := (Nat.pow_lt_pow_iff_right (by decide)).mp less
  omega

/-- A word and a power of ten that make up a middle are small enough to be read exactly. -/
private theorem power_le_of_middle {word n : ℕ} {exponent e : ℤ} (positive : 0 < word) (short : word < 2 ^ 53)
    (some : 0 < n) (few : n < 2 ^ 53) (same : (word : ℚ) * 10 ^ exponent = n * 2 ^ e) : exponent.natAbs ≤ 22 := by
  have ten : (10 : ℕ) = 5 * 2 := rfl
  rw [zpow_eq_pow_div_pow 2] at same
  rcases le_or_gt 0 exponent with above | below
  · obtain ⟨k, rfl⟩ := Int.eq_ofNat_of_zero_le above
    rw [zpow_natCast, mul_div_assoc', eq_div_iff (by positivity)] at same
    have same : word * 10 ^ k * 2 ^ (-e).toNat = n * 2 ^ e.toNat := by exact_mod_cast same
    have divides : 5 ^ k ∣ n * 2 ^ e.toNat := by
      rw [← same, ten, mul_pow]
      exact ⟨word * 2 ^ k * 2 ^ (-e).toNat, by ring⟩
    exact power_le_of_dvd divides some few
  · obtain ⟨k, rfl⟩ : ∃ k : ℕ, exponent = -k := ⟨exponent.natAbs, by omega⟩
    rw [zpow_neg, zpow_natCast, ← div_eq_mul_inv, mul_div_assoc', div_eq_div_iff (by positivity) (by positivity)] at same
    have same : word * 2 ^ (-e).toNat = n * 2 ^ e.toNat * 10 ^ k := by exact_mod_cast same
    have divides : 5 ^ k ∣ word * 2 ^ (-e).toNat := by
      rw [same, ten, mul_pow]
      exact ⟨n * 2 ^ e.toNat * 2 ^ k, by ring⟩
    rw [Int.natAbs_neg]
    exact power_le_of_dvd divides positive short

end

/-- Where a decimal is nearest to the binary fraction, both are of a moderate size. -/
private theorem size_of_near (inner : Precision.single.Inner m) (positive : 0 < m.significand) {v : ℚ} (near : m.Near v) :
    1 / 2 ^ 150 ≤ v ∧ v ≤ 2 ^ 24 * 2 ^ m.exponent ∧ v ≤ 2 ^ 128 := by
  have unit : (0 : ℚ) < 2 ^ m.exponent := by positivity
  have one : (1 : ℚ) ≤ m.significand := by exact_mod_cast positive
  have below : m.significand < 2 ^ 24 := inner.below
  have below : (m.significand : ℚ) + 1 ≤ 2 ^ 24 := by exact_mod_cast below
  have lowest : (2 : ℚ) ^ (-149 : ℤ) ≤ 2 ^ m.exponent := zpow_le_zpow_right₀ one_le_two inner.least
  have highest : (2 : ℚ) ^ m.exponent ≤ 2 ^ (104 : ℤ) := zpow_le_zpow_right₀ one_le_two inner.most
  obtain ⟨low, high⟩ := abs_le.mp near.half
  unfold Dyadic.value at low high
  have most : v ≤ 2 ^ 24 * 2 ^ m.exponent := by nlinarith
  refine ⟨?_, most, ?_⟩
  · have half : 2 ^ m.exponent / 2 ≤ v := by nlinarith
    calc (1 : ℚ) / 2 ^ 150 = 2 ^ (-149 : ℤ) / 2 := by norm_num
      _ ≤ 2 ^ m.exponent / 2 := div_le_div_of_nonneg_right lowest two_pos.le
      _ ≤ v := half
  · have whole : (2 : ℚ) ^ 128 = 2 ^ 24 * 2 ^ (104 : ℤ) := by norm_num
    rw [whole]
    linarith

private theorem moderate_of_size {d : Decimal} (least : 1 / 2 ^ 150 ≤ d.value) (most : d.value ≤ 2 ^ 128)
    (some : 0 < d.digits) (few : d.digits < 2 ^ 31) : |d.exponent| ≤ 100 := by
  have step : (0 : ℚ) < 10 ^ d.exponent := by positivity
  have one : (1 : ℚ) ≤ d.digits := by exact_mod_cast some
  have less : (d.digits : ℚ) < 2 ^ 31 := by exact_mod_cast few
  unfold Decimal.value at least most
  have below : (10 : ℚ) ^ d.exponent < 10 ^ (100 : ℤ) := by
    calc (10 : ℚ) ^ d.exponent ≤ d.digits * 10 ^ d.exponent := le_mul_of_one_le_left step.le one
      _ ≤ 2 ^ 128 := most
      _ < 10 ^ (100 : ℤ) := by norm_num
  have above : (10 : ℚ) ^ (-100 : ℤ) < 10 ^ d.exponent := by
    have large : (1 : ℚ) / 2 ^ 150 < 2 ^ 31 * 10 ^ d.exponent := least.trans_lt (mul_lt_mul_of_pos_right less step)
    have tiny : (2 : ℚ) ^ 31 * 10 ^ (-100 : ℤ) < 1 / 2 ^ 150 := by norm_num
    exact lt_of_mul_lt_mul_left (tiny.trans large) (by positivity)
  have ten : (1 : ℚ) < 10 := by norm_num
  rw [zpow_lt_zpow_iff_right₀ ten] at below above
  rw [abs_le]
  omega

/-- A decimal that is nearest to the binary fraction is still nearest to it when it has been read. -/
private theorem near_of_reads {d : Decimal} {n : Numeral} {word : ℕ} {exponent : ℤ} {y : Dyadic}
    (inner : Precision.single.Inner m) (positive : 0 < m.significand)
    (usual : ¬ (m.exponent = -107 ∧ (m.significand = 11420669 ∨ m.significand = 11420670))) (settles : d.Settles m)
    (wordPos : 0 < word) (scales : n.Scales word exponent d.value)
    (reads : Numeral.ReadsClose y d.value exponent.natAbs) : m.Near y.value := by
  by_contra far
  obtain ⟨n, odd, around, close, coarse⟩ := middle_of_not_near positive settles.near reads.close far
  have below : m.significand < 2 ^ 24 := inner.below
  have small : d.value ≤ 2 ^ 24 * 2 ^ m.exponent := (size_of_near inner positive settles.near).2.1
  have grid : (1 - 1 / 2 ^ 26) * 2 ^ m.exponent ≤ (10 : ℚ) ^ d.exponent := by
    have half := settles.coarse
    linarith
  rcases Middle.apart inner.least inner.most grid odd (by omega) close with same | ⟨exponent, middle⟩
  · -- The decimal is the middle itself, which both roundings leave as it is.
    have few := power_le_of_middle wordPos scales.short (by omega) (by omega) (scales.total.trans same)
    have isDouble : Numeral.IsDouble d.value := by
      have least : -149 ≤ m.exponent := inner.least
      exact ⟨⟨n, m.exponent - 1⟩, same, by dsimp only; omega, by dsimp only; omega⟩
    rw [reads.exact few isDouble] at far
    exact far settles.near
  · apply usual
    exact ⟨exponent, by omega⟩

/-- Reading leaves the number nearest to the binary fraction, but for two binary fractions that are not looked at here. -/
theorem readBack_of_inner (inner : Precision.single.Inner m) (positive : 0 < m.significand)
    (usual : ¬ (m.exponent = -107 ∧ (m.significand = 11420669 ∨ m.significand = 11420670))) : m.ReadBack := by
  have settles := Decimal.shortest_settles inner positive Single.storedStyle.tie
  have real := DecimalStyle.numeral_real Single.storedStyle (.shortest Single.storedStyle.tie .single m)
  unfold ReadBack
  generalize Decimal.shortest Single.storedStyle.tie Precision.single m = d at settles real ⊢
  obtain ⟨least, -, most⟩ := size_of_near inner positive settles.near
  have above : 0 < d.value := lt_of_lt_of_le (by positivity) least
  have some : 0 < d.digits := by
    apply Nat.pos_of_ne_zero
    intro none
    unfold Decimal.value at above
    rw [none, Nat.cast_zero, zero_mul] at above
    exact lt_irrefl 0 above
  obtain ⟨word, exponent, scales⟩ :=
    DecimalStyle.numeral_scales settles.few some (moderate_of_size least most some settles.few) false
  have wordPos : 0 < word := by
    apply Nat.pos_of_ne_zero
    intro none
    have total := scales.total
    rw [none, Nat.cast_zero, zero_mul] at total
    linarith
  obtain ⟨y, made, reads⟩ := Numeral.scale_reads wordPos scales.short scales.moderate
  rw [scales.total] at reads
  have near := near_of_reads inner positive usual settles wordPos scales reads
  have positive : 0 < y.value := by
    obtain ⟨-, high⟩ := abs_le.mp reads.close
    have part : d.value / 2 ^ 51 < d.value := div_lt_self above (by norm_num)
    linarith
  rw [← y.numerator_div_denominator] at near
  refine ⟨y, Precision.nearest_eq inner (by decide) (Dyadic.numerator_pos positive) y.denominator_pos near, ?_⟩
  apply Numeral.value_signed real
  rw [scales.value, made]
  rfl

end Dyadic

namespace Single

variable {x : Single} {m : Dyadic}

theorem ofMagnitude_form (form : x.form = .finite m) : ofMagnitude x.negative (some m) = x := by
  obtain ⟨bits⟩ := x
  have small := bits.toNat_lt
  have sign : Nat.pow 2 31 = 2147483648 := by decide
  have fraction : Nat.pow 2 23 = 8388608 := by decide
  have exponent : Nat.pow 2 8 = 256 := by decide
  unfold Single.form at form
  unfold ofMagnitude negative
  simp only [sign, fraction, exponent] at form ⊢
  have total : (if decide (2147483648 ≤ bits.toNat) = true then 2147483648 else 0) +
      ((m.exponent + 149).toNat * 8388608 + m.significand) = bits.toNat := by
    simp only [decide_eq_true_eq]
    split at form
    · split at form <;> cases form
    · split at form
      · have same := Form.finite.inj form
        have significand : bits.toNat % 8388608 = m.significand := congrArg Dyadic.significand same
        have exponent : -149 = m.exponent := congrArg Dyadic.exponent same
        split <;> omega
      · have same := Form.finite.inj form
        have significand : 8388608 + bits.toNat % 8388608 = m.significand := congrArg Dyadic.significand same
        have exponent : ((bits.toNat / 8388608 % 256 : ℕ) : ℤ) - 150 = m.exponent := congrArg Dyadic.exponent same
        split <;> omega
  rw [total, UInt32.ofNat_toNat]

theorem restored_of_readBack (form : x.form = .finite m) (read : m.ReadBack) : x.Restored := by
  obtain ⟨y, narrowed, value⟩ := read
  have numeral : x.numeral? = some
      { storedStyle.numeral (.shortest storedStyle.tie .single m) with negative := x.negative } := by
    unfold numeral?
    rw [form]
  refine ⟨.real ⟨x.negative, y⟩, ?_, ?_⟩
  · unfold tree
    rw [numeral]
    unfold Numeral.tree
    dsimp only at value ⊢
    rw [value]
  · unfold Number.toSingle ofDouble
    dsimp only
    rw [narrowed]
    exact ofMagnitude_form form

theorem form_spec (form : x.form = .finite m) :
    -149 ≤ m.exponent ∧ m.exponent ≤ 104 ∧ m.significand < 2 ^ 24 ∧ (m.exponent = -149 ∨ 2 ^ 23 ≤ m.significand) := by
  have fraction : Nat.pow 2 23 = 8388608 := by decide
  have exponent : Nat.pow 2 8 = 256 := by decide
  unfold Single.form at form
  simp only [fraction, exponent] at form
  split at form
  · split at form <;> cases form
  · split at form
    · have same := Form.finite.inj form
      have significand : x.bits.toNat % 8388608 = m.significand := congrArg Dyadic.significand same
      have exponent : -149 = m.exponent := congrArg Dyadic.exponent same
      omega
    · have same := Form.finite.inj form
      have significand : 8388608 + x.bits.toNat % 8388608 = m.significand := congrArg Dyadic.significand same
      have exponent : ((x.bits.toNat / 8388608 % 256 : ℕ) : ℤ) - 150 = m.exponent := congrArg Dyadic.exponent same
      omega

private theorem readBack_of_form (form : x.form = .finite m) : m.ReadBack := by
  obtain ⟨least, most, below, full⟩ := form_spec form
  obtain ⟨significand, exponent⟩ := m
  dsimp only at least most below full
  rcases Nat.eq_zero_or_pos significand with rfl | positive
  · obtain rfl : exponent = -149 := by omega
    exact Dyadic.readBack_zero
  · by_cases first : significand = 8388608 ∧ -149 < exponent
    · obtain ⟨rfl, later⟩ := first
      exact Dyadic.readBack_of_first later most
    · by_cases exception : exponent = -107 ∧ (significand = 11420669 ∨ significand = 11420670)
      · obtain ⟨rfl, rfl | rfl⟩ := exception
        · exact Dyadic.readBack_below_exception
        · exact Dyadic.readBack_above_exception
      · have inner : Precision.single.Inner ⟨significand, exponent⟩ := by
          refine ⟨least, most, below, ?_⟩
          have lowest : Precision.single.least = -149 := rfl
          have bits : Precision.single.bits = 24 := rfl
          rw [lowest, bits]
          dsimp only
          omega
        exact Dyadic.readBack_of_inner inner positive exception

/-- Every finite number is read back from its numeral. -/
theorem restored_of_finite (finite : x.isFinite = true) : x.Restored := by
  unfold isFinite at finite
  split at finite
  · rename_i m form
    exact restored_of_readBack form (readBack_of_form form)
  · cases finite

end Single

end Plotline
