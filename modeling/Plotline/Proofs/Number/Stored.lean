import Plotline.Number.Real
import Plotline.Proofs.Number.Numeral

/-!
The text that stands for a number in a written value is the spelling of a numeral, and it is one that a text may hold.
-/

namespace Plotline

namespace DecimalStyle

variable {style : DecimalStyle}

/-- The place of the leading digit. -/
def placeOf (d : Decimal) : Int := if d.digits = 0 then 0 else d.exponent + (decimalDigits d.digits).length - 1

/-- The numeral in which the style spells a decimal. -/
def numeral (style : DecimalStyle) (d : Decimal) : Numeral :=
  let digits := decimalDigits d.digits
  let place := placeOf d
  if style.lowest ≤ place ∧ place ≤ style.highest then
    if place < 0 then
      { whole := [0], fraction := some (List.replicate (-place - 1).toNat 0 ++ digits) }
    else
      let whole := place.toNat + 1
      if digits.length ≤ whole then
        { whole := digits ++ List.replicate (whole - digits.length) 0, fraction := some [0] }
      else { whole := digits.take whole, fraction := some (digits.drop whole) }
  else
    { whole := digits.take 1
      fraction := if (digits.drop 1).isEmpty then none else some (digits.drop 1)
      exponent := some (decide (0 ≤ place), decimalDigits place.natAbs) }

private theorem length_decimalDigits (n : Nat) : (decimalDigits n).length = (Nat.toDigits 10 n).length :=
  List.length_map _

private theorem toList_zeros (n : Nat) : (zeros n).toList = (List.replicate n 0).map Nat.digitChar := by
  unfold zeros
  rw [String.toList_ofList, List.map_replicate]
  rfl

theorem toList_render (plus : style.plusSign = true) (d : Decimal) :
    (style.render d).toList = (style.numeral d).spelledMagnitude := by
  have digits := map_digitChar_decimalDigits d.digits
  have length := length_decimalDigits d.digits
  have place : (if d.digits = 0 then (0 : Int) else d.exponent + (Nat.toDigits 10 d.digits).length - 1) =
      placeOf d := by
    unfold placeOf
    rw [length]
  unfold render numeral
  dsimp only
  rw [place, ← length, ← digits, plus]
  split
  · split
    · simp [toList_zeros, Numeral.spelledMagnitude, Numeral.spelledFraction, Numeral.spelledExponent]
    · split
      · simp [toList_zeros, Numeral.spelledMagnitude, Numeral.spelledFraction, Numeral.spelledExponent]
      · simp [Numeral.spelledMagnitude, Numeral.spelledFraction, Numeral.spelledExponent]
  · have sign : (if placeOf d < 0 then "-" else "+").toList = [if 0 ≤ placeOf d then '+' else '-'] := by
      by_cases below : placeOf d < 0
      · have notAbove : ¬ 0 ≤ placeOf d := by omega
        simp [below, notAbove]
      · have above : 0 ≤ placeOf d := by omega
        simp [below, above]
    have size : (toString (placeOf d).natAbs).toList = (decimalDigits (placeOf d).natAbs).map Nat.digitChar := by
      rw [map_digitChar_decimalDigits, Nat.toString_eq_ofList_toDigits, String.toList_ofList]
    have fraction : (if ((decimalDigits d.digits).drop 1).isEmpty then ""
          else "." ++ String.ofList (((decimalDigits d.digits).drop 1).map Nat.digitChar)).toList =
        Numeral.spelledFraction
          (if ((decimalDigits d.digits).drop 1).isEmpty then none else some ((decimalDigits d.digits).drop 1)) := by
      split
      · rfl
      · simp [Numeral.spelledFraction]
    simp only [Numeral.spelledMagnitude, Numeral.spelledExponent, String.toList_append, String.toList_ofList, size,
      ← List.map_drop, List.isEmpty_map, fraction]
    simp [sign]

/-! ### Parts of the numeral -/

private theorem areDigits_decimalDigits (n : Nat) : Numeral.AreDigits (decimalDigits n) :=
  ⟨decimalDigits_ne_nil n, decimalDigits_lt n⟩

private theorem areDigits_append {first last : List Nat} (one : first ≠ [] ∨ last ≠ [])
    (firstDigits : ∀ d ∈ first, d < 10) (lastDigits : ∀ d ∈ last, d < 10) : Numeral.AreDigits (first ++ last) := by
  constructor
  · rcases one with before | after
    · exact List.append_ne_nil_of_left_ne_nil before last
    · exact List.append_ne_nil_of_right_ne_nil first after
  · intro d member
    rcases List.mem_append.mp member with before | after
    · exact firstDigits d before
    · exact lastDigits d after

private theorem zeros_lt (n : Nat) : ∀ d ∈ List.replicate n 0, d < 10 := by
  intro d member
  rw [List.eq_of_mem_replicate member]
  decide

private theorem areDigits_take {digits : List Nat} (are : Numeral.AreDigits digits) (n : Nat) :
    Numeral.AreDigits (digits.take (n + 1)) := by
  constructor
  · intro none
    rcases List.take_eq_nil_iff.mp none with zero | empty
    · cases zero
    · exact are.1 empty
  · exact fun d member => are.2 d (List.mem_of_mem_take member)

private theorem areDigits_drop {digits : List Nat} (are : Numeral.AreDigits digits) {n : Nat} (short : n < digits.length) :
    Numeral.AreDigits (digits.drop n) := by
  constructor
  · rw [Ne, List.drop_eq_nil_iff]
    omega
  · exact fun d member => are.2 d (List.mem_of_mem_drop member)

/-- Where digits begin with a zero there is no other, and the number is zero. -/
private theorem zero_of_leading {n : Nat} {more tail : List Nat} (leading : decimalDigits n ++ more = 0 :: tail) :
    n = 0 := by
  obtain ⟨d, rest, is⟩ := List.exists_cons_of_ne_nil (decimalDigits_ne_nil n)
  rw [is, List.cons_append] at leading
  rcases Nat.eq_zero_or_pos n with zero | positive
  · exact zero
  · have head := head_decimalDigits positive
    rw [is, List.head?_cons, (List.cons.inj leading).1] at head
    exact absurd rfl head

theorem numeral_proper (style : DecimalStyle) (d : Decimal) : (style.numeral d).Proper := by
  have digits := areDigits_decimalDigits d.digits
  unfold numeral
  dsimp only
  split
  · split
    · refine ⟨⟨nofun, by simp⟩, by simp, ?_, nofun⟩
      rintro _ ⟨⟩
      exact areDigits_append (.inr digits.1) (zeros_lt _) digits.2
    · split
      · refine ⟨areDigits_append (.inl digits.1) digits.2 (zeros_lt _), ?_, ?_, nofun⟩
        · intro tail leading
          have zero := zero_of_leading leading
          simp only [placeOf, zero] at leading
          exact (List.cons.inj leading).2.symm
        · rintro _ ⟨⟩
          exact ⟨nofun, by simp⟩
      · rename_i long
        refine ⟨areDigits_take digits _, ?_, ?_, nofun⟩
        · intro tail leading
          have all : decimalDigits d.digits ++ [] = 0 :: (tail ++ (decimalDigits d.digits).drop ((placeOf d).toNat + 1)) := by
            rw [← List.cons_append, ← leading, List.take_append_drop, List.append_nil]
          rw [zero_of_leading all, decimalDigits_of_lt (by decide)] at long
          simp at long
        · rintro _ ⟨⟩
          exact areDigits_drop digits (by omega)
  · refine ⟨areDigits_take digits 0, ?_, ?_, ?_⟩
    · intro tail leading
      have length := congrArg List.length leading
      rw [List.length_take, List.length_cons] at length
      apply List.eq_nil_of_length_eq_zero
      omega
    · intro rest is
      split at is
      · cases is
      · rename_i more
        obtain rfl := Option.some.inj is
        constructor
        · simpa using more
        · exact fun d member => digits.2 d (List.mem_of_mem_drop member)
    · rintro _ _ ⟨⟩
      exact areDigits_decimalDigits _

end DecimalStyle

namespace Single

/-- The numeral of a finite number in a written value. -/
def numeral? (x : Single) : Option Numeral :=
  match x.form with
  | .finite m => some { storedStyle.numeral (.shortest storedStyle.tie .single m) with negative := x.negative }
  | _ => none

theorem numeral?_proper {x : Single} {n : Numeral} (is : x.numeral? = some n) : n.Proper := by
  unfold numeral? at is
  split at is
  · obtain rfl := Option.some.inj is
    obtain ⟨whole, leading, fraction, exponent⟩ := storedStyle.numeral_proper (.shortest storedStyle.tie .single _)
    exact ⟨whole, leading, fraction, exponent⟩
  · cases is

theorem stored?_eq (x : Single) : x.stored?.map String.toList = x.numeral?.map Numeral.spelled := by
  unfold stored? numeral?
  cases x.form with
  | finite m =>
      have plus : storedStyle.plusSign = true := rfl
      have text := DecimalStyle.toList_render plus (.shortest storedStyle.tie .single m)
      dsimp only [Option.map_some]
      rw [String.toList_append, text]
      unfold signText Numeral.spelled
      cases x.negative with
      | true => rfl
      | false => rfl
  | infinite => rfl
  | undefined => rfl

end Single

end Plotline
