import Plotline.Number.Numeral

/-!
Numerals as they are spelled, and the whole numbers among them: a whole number that fits a word is the value of the
numeral that its decimal digits make up.
-/

namespace Plotline

/-- The decimal digits of a number, the leading one first. -/
def decimalDigits (n : Nat) : List Nat := (Nat.toDigits 10 n).map fun c => c.toNat - 48

/-- The number that digits make up when they follow those of `start`. -/
def digitsValue (start : Nat) (digits : List Nat) : Nat := digits.foldl (fun n d => n * 10 + d) start

section Digits

theorem decimalDigits_of_lt {n : Nat} (small : n < 10) : decimalDigits n = [n] := by
  unfold decimalDigits
  rw [Nat.toDigits_of_lt_base small, List.map_singleton, Nat.toNat_digitChar_sub_48_of_lt_ten small]

theorem decimalDigits_of_le {n : Nat} (large : 10 ≤ n) : decimalDigits n = decimalDigits (n / 10) ++ [n % 10] := by
  have last : n % 10 < 10 := Nat.mod_lt n (by decide)
  unfold decimalDigits
  rw [Nat.toDigits_of_base_le (by decide) large, List.map_append, List.map_singleton,
    Nat.toNat_digitChar_sub_48_of_lt_ten last]

/-- What holds of single digits, and of a number whenever it holds of what is left without the last digit, holds of all
numbers. -/
theorem decimalDigits_induction {motive : Nat → Prop} (single : ∀ n, n < 10 → motive n)
    (more : ∀ n, 10 ≤ n → motive (n / 10) → motive n) (n : Nat) : motive n := by
  induction n using Nat.strongRecOn with
  | ind n ih =>
      by_cases small : n < 10
      · exact single n small
      · have shorter : n / 10 < n := by omega
        exact more n (by omega) (ih (n / 10) shorter)

theorem decimalDigits_ne_nil (n : Nat) : decimalDigits n ≠ [] := by
  unfold decimalDigits
  simp [Nat.toDigits_ne_nil]

theorem decimalDigits_lt (n : Nat) : ∀ d ∈ decimalDigits n, d < 10 := by
  induction n using decimalDigits_induction with
  | single n small =>
      rw [decimalDigits_of_lt small]
      simpa using small
  | more n large ih =>
      intro d member
      rw [decimalDigits_of_le large] at member
      rcases List.mem_append.mp member with leading | last
      · exact ih d leading
      · have is := List.mem_singleton.mp last
        omega

theorem map_digitChar_decimalDigits (n : Nat) : (decimalDigits n).map Nat.digitChar = Nat.toDigits 10 n := by
  induction n using decimalDigits_induction with
  | single n small => rw [decimalDigits_of_lt small, Nat.toDigits_of_lt_base small, List.map_singleton]
  | more n large ih =>
      rw [decimalDigits_of_le large, Nat.toDigits_of_base_le (by decide) large, List.map_append, ih,
        List.map_singleton]

theorem digitsValue_append (start : Nat) (first last : List Nat) :
    digitsValue start (first ++ last) = digitsValue (digitsValue start first) last :=
  List.foldl_append

theorem digitsValue_decimalDigits (n : Nat) : digitsValue 0 (decimalDigits n) = n := by
  induction n using decimalDigits_induction with
  | single n small =>
      rw [decimalDigits_of_lt small]
      simp [digitsValue]
  | more n large ih =>
      rw [decimalDigits_of_le large, digitsValue_append, ih]
      simp only [digitsValue, List.foldl_cons, List.foldl_nil]
      omega

theorem head_decimalDigits {n : Nat} (positive : 0 < n) : (decimalDigits n).head? ≠ some 0 := by
  induction n using decimalDigits_induction with
  | single n small =>
      rw [decimalDigits_of_lt small, List.head?_cons]
      intro zero
      have is := Option.some.inj zero
      omega
  | more n large ih =>
      have leading : (decimalDigits (n / 10)).head? ≠ some 0 := by
        apply ih
        omega
      obtain ⟨d, rest, is⟩ := List.exists_cons_of_ne_nil (decimalDigits_ne_nil (n / 10))
      rw [is] at leading
      rw [decimalDigits_of_le large, is]
      exact leading

/-- A leading zero stands alone. -/
theorem tail_of_decimalDigits {n : Nat} {tail : List Nat} (zero : decimalDigits n = 0 :: tail) : tail = [] := by
  rcases Nat.eq_zero_or_pos n with rfl | positive
  · rw [decimalDigits_of_lt (by decide)] at zero
    cases zero
    rfl
  · have head := head_decimalDigits positive
    rw [zero] at head
    exact absurd rfl head

theorem le_digitsValue (start : Nat) (digits : List Nat) : start ≤ digitsValue start digits := by
  induction digits generalizing start with
  | nil => exact Nat.le_refl start
  | cons d digits ih =>
      have rest : start * 10 + d ≤ digitsValue start (d :: digits) := ih (start * 10 + d)
      omega

end Digits

namespace Numeral

/-- Digits that make up a number below the limit of a word are gathered as a whole. -/
theorem gather_eq {start : Nat} {digits : List Nat} (fits : digitsValue start digits < wordLimit) :
    gather start digits = (digitsValue start digits, []) := by
  induction digits generalizing start with
  | nil => rfl
  | cons d digits ih =>
      have rest : digitsValue start (d :: digits) = digitsValue (start * 10 + d) digits := rfl
      rw [rest] at fits ⊢
      have first := le_digitsValue (start * 10 + d) digits
      rw [gather, if_pos (by omega), ih fits]

def spelledFraction : Option (List Nat) → List Char
  | none => []
  | some digits => '.' :: digits.map Nat.digitChar

def spelledExponent : Option (Bool × List Nat) → List Char
  | none => []
  | some (positive, digits) => 'e' :: (if positive then '+' else '-') :: digits.map Nat.digitChar

def spelledMagnitude (n : Numeral) : List Char :=
  n.whole.map Nat.digitChar ++ (spelledFraction n.fraction ++ spelledExponent n.exponent)

/-- The numeral as it stands in a text. -/
def spelled (n : Numeral) : List Char := if n.negative then '-' :: n.spelledMagnitude else n.spelledMagnitude

/-- Digits that stand between other parts: there is one at least, and each is below ten. -/
def AreDigits (digits : List Nat) : Prop := digits ≠ [] ∧ ∀ d ∈ digits, d < 10

/-- A text may hold the numeral: no part lacks digits, and a leading zero stands alone. -/
structure Proper (n : Numeral) : Prop where
  whole : AreDigits n.whole
  leading : ∀ tail, n.whole = 0 :: tail → tail = []
  fraction : ∀ digits, n.fraction = some digits → AreDigits digits
  exponent : ∀ positive digits, n.exponent = some (positive, digits) → AreDigits digits

def ofInt : Int → Numeral
  | .ofNat n => { whole := decimalDigits n }
  | .negSucc n => { negative := true, whole := decimalDigits (n + 1) }

theorem ofInt_proper (n : Int) : (ofInt n).Proper := by
  have each : ∀ n, AreDigits (decimalDigits n) := fun n => ⟨decimalDigits_ne_nil n, decimalDigits_lt n⟩
  cases n with
  | ofNat n => exact ⟨each n, fun _ => tail_of_decimalDigits, nofun, nofun⟩
  | negSucc n => exact ⟨each (n + 1), fun _ => tail_of_decimalDigits, nofun, nofun⟩

end Numeral

def Number.ofInt : Int → Number
  | .ofNat n => .natural n
  | .negSucc n => .negative (n + 1)

/-- A whole number that fits a word is read as it is. -/
theorem Numeral.value_ofInt {n : Int} (least : -9223372036854775808 ≤ n) (most : n < 18446744073709551616) :
    (Numeral.ofInt n).value = some (.ofInt n) := by
  cases n with
  | ofNat n =>
      have fits : digitsValue 0 (decimalDigits n) < wordLimit := by
        rw [digitsValue_decimalDigits]
        exact Int.ofNat_lt.mp most
      unfold value ofInt
      rw [gather_eq fits, digitsValue_decimalDigits]
      rfl
  | negSucc n =>
      have small : n + 1 ≤ 9223372036854775808 := by omega
      have fits : digitsValue 0 (decimalDigits (n + 1)) < wordLimit := by
        rw [digitsValue_decimalDigits]
        exact Nat.lt_of_le_of_lt small (by decide)
      have inside : ¬ (n + 1 = 0 ∨ Nat.pow 2 63 < n + 1) := by
        have limit : Nat.pow 2 63 = 9223372036854775808 := by decide
        omega
      unfold value ofInt
      rw [gather_eq fits, digitsValue_decimalDigits]
      dsimp only
      rw [if_neg inside]
      rfl

end Plotline
