import Plotline.Proofs.Number.Restored
import Plotline.Stage.Duration

/-!
How long a number of seconds is. Up to the longest time there is a longer number of seconds lasts no shorter; beyond it
every number of seconds lasts no time at all, as the negative ones do.
-/

namespace Plotline

/-- The number that a finite one stands for. -/
def Single.value? (x : Single) : Option ℚ :=
  match x.form with
  | .finite m => some (if x.negative then -m.value else m.value)
  | _ => none

theorem Single.value?_eq_some {x : Single} {q : ℚ} (value : x.value? = some q) :
    ∃ m, x.form = .finite m ∧ q = if x.negative then -m.value else m.value := by
  unfold value? at value
  split at value
  · rename_i m form
    exact ⟨m, form, (Option.some.inj value).symm⟩
  · cases value

theorem Dyadic.value_nonneg (m : Dyadic) : 0 ≤ m.value := by
  unfold value
  positivity

namespace Duration

variable {s t : Single} {x y : ℚ}

/-- The nanosecond nearest to so many seconds. -/
def nearest (m : Dyadic) : Nat := roundedQuotient (m.numerator * nanosPerSecond) m.denominator

theorem nanos_eq (m : Dyadic) : ((m.numerator * nanosPerSecond : ℕ) : ℚ) / m.denominator = m.value * 10 ^ 9 := by
  have billion : (nanosPerSecond : ℚ) = 10 ^ 9 := by norm_num [nanosPerSecond]
  rw [Nat.cast_mul, mul_div_right_comm, m.numerator_div_denominator, billion]

/-- A number of so few bits is more than a second away from the limit, unless it is beyond: either it is whole or it is
small. -/
private theorem value_add_one_le {m : Dyadic} (short : m.significand < 2 ^ 24) (below : m.value < 2 ^ 64) :
    m.value + 1 ≤ 2 ^ 64 := by
  rcases le_or_gt 0 m.exponent with whole | fractional
  · obtain ⟨e, exponent⟩ := Int.eq_ofNat_of_zero_le whole
    have natural : m.value = (m.significand * 2 ^ e : ℕ) := by
      unfold Dyadic.value
      rw [exponent, zpow_natCast]
      push_cast
      rfl
    rw [natural] at below ⊢
    exact_mod_cast (show m.significand * 2 ^ e < 2 ^ 64 by exact_mod_cast below)
  · have small : m.value ≤ m.significand := by
      unfold Dyadic.value
      exact mul_le_of_le_one_right (Nat.cast_nonneg _) (zpow_le_one_of_nonpos₀ one_le_two fractional.le)
    have few : (m.significand : ℚ) < 2 ^ 24 := by exact_mod_cast short
    linarith

/-- What is rounded reaches the limit only where the seconds do. -/
theorem limit_le_nearest {m : Dyadic} (short : m.significand < 2 ^ 24) : limit ≤ nearest m ↔ 2 ^ 64 ≤ m.value := by
  have size : (limit : ℚ) = 2 ^ 64 * 10 ^ 9 := by norm_num [limit, nanosPerSecond, UInt64.size]
  have near := roundedQuotient_near (n := m.numerator * nanosPerSecond) m.denominator_pos
  rw [nanos_eq, abs_le] at near
  change _ ≤ m.value * 10 ^ 9 - (nearest m : ℚ) ∧ m.value * 10 ^ 9 - (nearest m : ℚ) ≤ _ at near
  constructor
  · intro reached
    have reached : (limit : ℚ) ≤ nearest m := by exact_mod_cast reached
    rw [size] at reached
    by_contra within
    linarith [value_add_one_le short (not_le.mp within)]
  · intro beyond
    by_contra within
    have within : (nearest m : ℚ) + 1 ≤ limit := by exact_mod_cast not_le.mp within
    rw [size] at within
    linarith

theorem ofSeconds_finite {m : Dyadic} (form : s.form = .finite m) :
    ofSeconds s = if s.negative = true ∨ 2 ^ 64 ≤ m.value then 0 else nearest m := by
  obtain ⟨-, -, short, -⟩ := Single.form_spec form
  unfold ofSeconds
  rw [form]
  dsimp only
  refine if_congr ?_ rfl rfl
  rw [Bool.or_eq_true, decide_eq_true_eq]
  exact or_congr_right (limit_le_nearest short)

/-- A number of seconds lasts no time if it is half a nanosecond at most, negative ones included, and if it is too long
to be told. -/
theorem ofSeconds_eq_zero (value : t.value? = some y) : ofSeconds t = 0 ↔ y * 10 ^ 9 ≤ 1 / 2 ∨ 2 ^ 64 ≤ y := by
  obtain ⟨m, form, rfl⟩ := Single.value?_eq_some value
  rw [ofSeconds_finite form]
  cases sign : t.negative with
  | true =>
      have nonneg := m.value_nonneg
      have short : -m.value * 10 ^ 9 ≤ 1 / 2 := by linarith
      rw [if_pos (Or.inl rfl), if_pos rfl]
      exact iff_of_true rfl (Or.inl short)
  | false =>
      have nothing : nearest m = 0 ↔ m.value * 10 ^ 9 ≤ 1 / 2 := by
        rw [← nanos_eq]
        exact roundedQuotient_eq_zero m.denominator_pos
      by_cases beyond : 2 ^ 64 ≤ m.value
      · simp [beyond]
      · simpa [beyond] using nothing

/-- Of two numbers of seconds that last, and neither of them too long, the longer one lasts no shorter. -/
private theorem ofSeconds_le (value : s.value? = some x) (value' : t.value? = some y) (ordered : x ≤ y)
    (within : y < 2 ^ 64) : ofSeconds s ≤ ofSeconds t := by
  by_cases nothing : ofSeconds s = 0
  · rw [nothing]
    exact Nat.zero_le _
  · have lasts := (ofSeconds_eq_zero value).not.mp nothing
    obtain ⟨long, -⟩ := not_or.mp lasts
    obtain ⟨m, form, rfl⟩ := Single.value?_eq_some value
    obtain ⟨m', form', rfl⟩ := Single.value?_eq_some value'
    have nonneg := m.value_nonneg
    have nonneg' := m'.value_nonneg
    cases sign : s.negative with
    | true =>
        rw [sign, if_pos rfl] at long
        linarith
    | false =>
        rw [sign, if_neg Bool.false_ne_true] at long ordered
        cases sign' : t.negative with
        | true =>
            rw [sign', if_pos rfl] at ordered
            linarith
        | false =>
            rw [sign', if_neg Bool.false_ne_true] at ordered within
            have open' : ¬ (s.negative = true ∨ 2 ^ 64 ≤ m.value) := by simpa [sign] using ordered.trans_lt within
            have open'' : ¬ (t.negative = true ∨ 2 ^ 64 ≤ m'.value) := by simpa [sign'] using within
            rw [ofSeconds_finite form, ofSeconds_finite form', if_neg open', if_neg open'']
            apply roundedQuotient_mono m.denominator_pos m'.denominator_pos
            rw [nanos_eq, nanos_eq]
            linarith

/-- A longer number of seconds lasts no shorter, as long as it is not too long to be told. What is waited for so many
seconds is over at once if they are nearest to no nanosecond, and also if they are too long. -/
theorem ofSeconds_le_iff (value : s.value? = some x) (value' : t.value? = some y) (ordered : x ≤ y) :
    (ofSeconds s ≤ ofSeconds t ↔ y < 2 ^ 64 ∨ ofSeconds s = 0) ∧
      (Completion.ofSeconds t = .immediate ↔ y * 10 ^ 9 ≤ 1 / 2 ∨ 2 ^ 64 ≤ y) := by
  constructor
  · constructor
    · intro kept
      by_cases within : y < 2 ^ 64
      · exact Or.inl within
      · rw [(ofSeconds_eq_zero value').mpr (Or.inr (not_lt.mp within))] at kept
        exact Or.inr (Nat.le_zero.mp kept)
    · rintro (within | nothing)
      · exact ofSeconds_le value value' ordered within
      · rw [nothing]
        exact Nat.zero_le _
  · rw [← ofSeconds_eq_zero value']
    unfold Completion.ofSeconds
    split
    · rename_i nothing
      simp [nothing]
    · rename_i lasts
      simp [lasts]

/-- One second against the longest number of seconds that lasts. -/
theorem ofSeconds_le_longest :
    Single.value? ⟨1065353216⟩ = some 1 ∧ Single.value? ⟨1602224127⟩ = some (2 ^ 64 - 2 ^ 40) ∧
      ofSeconds ⟨1065353216⟩ ≤ ofSeconds ⟨1602224127⟩ ∧ Completion.ofSeconds ⟨1602224127⟩ ≠ .immediate := by
  have one : Single.value? ⟨1065353216⟩ = some 1 := by decide +kernel
  have longest : Single.value? ⟨1602224127⟩ = some (2 ^ 64 - 2 ^ 40) := by decide +kernel
  obtain ⟨kept, atOnce⟩ := ofSeconds_le_iff one longest (by norm_num)
  refine ⟨one, longest, kept.mpr (Or.inl (by norm_num)), ?_⟩
  rw [Ne, atOnce]
  norm_num

/-- One second lasts, and the first number of seconds that is too long does not. -/
theorem ofSeconds_not_monotone :
    Single.value? ⟨1065353216⟩ = some 1 ∧ Single.value? ⟨1602224128⟩ = some (2 ^ 64) ∧ (1 : ℚ) ≤ 2 ^ 64 ∧
      ofSeconds ⟨1065353216⟩ = nanosPerSecond ∧ ofSeconds ⟨1602224128⟩ = 0 ∧
      ¬ ofSeconds ⟨1065353216⟩ ≤ ofSeconds ⟨1602224128⟩ := by
  refine ⟨by decide +kernel, by decide +kernel, by norm_num, by decide +kernel, by decide +kernel, by decide +kernel⟩

end Duration

end Plotline
