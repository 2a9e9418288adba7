import Plotline.Text.Blank

/-!
What texts a number is read from: its decimal digits, and those with a plus sign or with zeros before them.
-/

namespace Plotline.Text

theorem digitsValue?_eq {cs : List Char} (digits : ∀ c ∈ cs, c.isDigit = true) (n : Nat) :
    digitsValue? n cs = some (Nat.ofDigitChars 10 cs n) := by
  induction cs generalizing n with
  | nil => rfl
  | cons c cs ih =>
    obtain ⟨digit, rest⟩ := List.forall_mem_cons.mp digits
    rw [digitsValue?, if_pos digit, ih rest, Nat.ofDigitChars_cons, Nat.mul_comm n 10]
    rfl

theorem isDigit_of_digitsValue? {cs : List Char} {n m : Nat} (value : digitsValue? n cs = some m) :
    ∀ c ∈ cs, c.isDigit = true := by
  induction cs generalizing n with
  | nil => nofun
  | cons c cs ih =>
    rw [digitsValue?] at value
    split at value
    · rename_i digit
      exact List.forall_mem_cons.mpr ⟨digit, ih value⟩
    · cases value

theorem eq_digitChar {c : Char} (digit : c.isDigit = true) : ∃ d, d < 10 ∧ c = Nat.digitChar d := by
  have range : 48 ≤ c.toNat ∧ c.toNat ≤ 57 := by
    simpa [Char.isDigit, UInt32.le_iff_toNat_le] using digit
  have small : c.toNat - 48 < 10 := by omega
  refine ⟨c.toNat - 48, small, Char.toNat_inj.mp ?_⟩
  rw [Nat.toNat_digitChar_of_lt_ten small]
  omega

/-- Further digits make a longer numeral of one that stands for more than zero. -/
theorem toDigits_append {cs : List Char} (digits : ∀ c ∈ cs, c.isDigit = true) {n : Nat} (positive : 0 < n) :
    Nat.toDigits 10 n ++ cs = Nat.toDigits 10 (Nat.ofDigitChars 10 cs n) := by
  induction cs generalizing n with
  | nil => rw [List.append_nil, Nat.ofDigitChars_nil]
  | cons c cs ih =>
    obtain ⟨digit, rest⟩ := List.forall_mem_cons.mp digits
    obtain ⟨d, small, rfl⟩ := eq_digitChar digit
    have longer : Nat.toDigits 10 n ++ [Nat.digitChar d] = Nat.toDigits 10 (10 * n + d) := by
      rw [← Nat.toDigits_of_lt_base small, Nat.toDigits_append_toDigits (by decide) positive small]
    rw [List.append_cons, longer, ih rest (by omega), Nat.ofDigitChars_cons_digitChar_of_lt_ten small]

/-- Digits are the numeral of their value behind some zeros. -/
theorem eq_zeros_append {cs : List Char} (digits : ∀ c ∈ cs, c.isDigit = true) (present : cs ≠ []) :
    ∃ zeros, cs = List.replicate zeros '0' ++ Nat.toDigits 10 (Nat.ofDigitChars 10 cs 0) := by
  induction cs with
  | nil => exact absurd rfl present
  | cons c cs ih =>
    obtain ⟨digit, rest⟩ := List.forall_mem_cons.mp digits
    obtain ⟨d, small, rfl⟩ := eq_digitChar digit
    rw [Nat.ofDigitChars_cons_digitChar_of_lt_ten small, Nat.mul_zero, Nat.zero_add]
    rcases Nat.eq_zero_or_pos d with rfl | positive
    · cases cs with
      | nil => exact ⟨0, rfl⟩
      | cons other cs =>
        obtain ⟨zeros, is⟩ := ih rest nofun
        exact ⟨zeros + 1, congrArg ('0' :: ·) is⟩
    · refine ⟨0, ?_⟩
      rw [← toDigits_append rest positive, Nat.toDigits_of_lt_base small]
      rfl

/-- The decimal digits of a number behind some zeros. -/
def paddedDigits (zeros n : Nat) : List Char := List.replicate zeros '0' ++ Nat.toDigits 10 n

theorem isDigit_of_mem_paddedDigits {zeros n : Nat} {c : Char} (member : c ∈ paddedDigits zeros n) :
    c.isDigit = true := by
  rcases List.mem_append.mp member with zero | digit
  · rw [List.eq_of_mem_replicate zero]
    rfl
  · exact Nat.isDigit_of_mem_toDigits (by decide) (by decide) digit

theorem paddedDigits_ne_nil (zeros n : Nat) : paddedDigits zeros n ≠ [] := by
  simp [paddedDigits, Nat.toDigits_ne_nil]

theorem paddedDigits_unsigned (zeros n : Nat) (rest : List Char) : paddedDigits zeros n ≠ '+' :: rest := by
  intro signed
  have member : '+' ∈ paddedDigits zeros n := signed ▸ List.mem_cons_self
  cases isDigit_of_mem_paddedDigits member

theorem digitsValue?_paddedDigits (zeros n : Nat) : digitsValue? 0 (paddedDigits zeros n) = some n := by
  rw [digitsValue?_eq fun _ => isDigit_of_mem_paddedDigits, paddedDigits, Nat.ofDigitChars_append,
    Nat.ofDigitChars_replicate_zero, Nat.mul_zero, Nat.ofDigitChars_ten_toDigits]

/-- Characters that stand for a number, and are some, are its digits behind some zeros. -/
theorem digitsValue?_eq_some {digits : List Char} {n : Nat} :
    digits ≠ [] ∧ digitsValue? 0 digits = some n ↔ ∃ zeros, digits = paddedDigits zeros n := by
  constructor
  · rintro ⟨present, value⟩
    have all := isDigit_of_digitsValue? value
    rw [digitsValue?_eq all] at value
    obtain ⟨zeros, is⟩ := eq_zeros_append all present
    exact ⟨zeros, Option.some.inj value ▸ is⟩
  · rintro ⟨zeros, rfl⟩
    exact ⟨paddedDigits_ne_nil zeros n, digitsValue?_paddedDigits zeros n⟩

/-- A numeral as it may be written: behind a plus sign or not, and with zeros before it. -/
def numeralText (signed : Bool) (zeros n : Nat) : String :=
  String.ofList ((if signed then ['+'] else []) ++ paddedDigits zeros n)

/-- A number below the limit is read from its numeral in any of its spellings, and from nothing else. -/
theorem readNatural?_eq_some {limit n : Nat} {s : String} :
    readNatural? limit s = some n ↔ n < limit ∧ ∃ signed zeros, s = numeralText signed zeros n := by
  have bare (digits : List Char) :
      (if digits.isEmpty then none else (digitsValue? 0 digits).filter (· < limit)) = some n ↔
        n < limit ∧ ∃ zeros, digits = paddedDigits zeros n := by
    rw [← digitsValue?_eq_some]
    cases digits with
    | nil => simp
    | cons c cs =>
      rw [if_neg (by simp), Option.filter_eq_some_iff, decide_eq_true_iff]
      exact ⟨fun ⟨value, below⟩ => ⟨below, nofun, value⟩, fun ⟨below, _, value⟩ => ⟨value, below⟩⟩
  have spelled (signed : Bool) (zeros : Nat) :
      (numeralText signed zeros n).toList = (if signed then ['+'] else []) ++ paddedDigits zeros n :=
    String.toList_ofList
  unfold readNatural?
  dsimp only
  split
  · rename_i rest plus
    rw [bare rest]
    refine and_congr_right fun _ => ⟨?_, ?_⟩
    · rintro ⟨zeros, rfl⟩
      exact ⟨true, zeros, String.toList_inj.mp (plus.trans (spelled true zeros).symm)⟩
    · rintro ⟨signed, zeros, rfl⟩
      rw [spelled] at plus
      cases signed with
      | true => exact ⟨zeros, (List.cons.inj plus).2.symm⟩
      | false => exact absurd plus (paddedDigits_unsigned zeros n rest)
  · rename_i other unsigned
    rw [bare]
    refine and_congr_right fun _ => ⟨?_, ?_⟩
    · rintro ⟨zeros, is⟩
      exact ⟨false, zeros, String.toList_inj.mp (is.trans (spelled false zeros).symm)⟩
    · rintro ⟨signed, zeros, rfl⟩
      cases signed with
      | true => exact absurd (spelled true zeros) (unsigned _)
      | false => exact ⟨zeros, spelled false zeros⟩

/-- The spelling with neither a sign nor zeros is the one that is written. -/
theorem toString_eq_numeralText (n : Nat) : toString n = numeralText false 0 n := by
  apply String.toList_inj.mp
  rw [Nat.toString_eq_repr, Nat.toList_repr, numeralText, String.toList_ofList]
  rfl

/-- A number below the limit is read back from its decimal digits. -/
theorem readNatural?_toString {limit n : Nat} (small : n < limit) : readNatural? limit (toString n) = some n :=
  readNatural?_eq_some.mpr ⟨small, false, 0, toString_eq_numeralText n⟩

end Plotline.Text
