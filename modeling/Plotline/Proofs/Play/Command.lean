import Mathlib.Data.List.TakeDrop
import Mathlib.Data.List.TakeWhile
import Plotline.Play.Command
import Plotline.Proofs.Text.Natural

/-!
What a number that is typed is read as.
-/

namespace Plotline

/-! ### Texts without blanks -/

theorem isBlank_of_isDigit {c : Char} (digit : c.isDigit = true) : isBlank c = false := by
  have range : 48 ≤ c.toNat ∧ c.toNat ≤ 57 := by
    simpa [Char.isDigit, UInt32.le_iff_toNat_le] using digit
  unfold isBlank
  simp only [Bool.or_eq_false_iff, Bool.and_eq_false_iff, decide_eq_false_iff_not, beq_eq_false_iff_ne]
  omega

namespace Text

private theorem dropWhile_unblank {cs : List Char} (unblank : ∀ c ∈ cs, isBlank c = false) :
    cs.dropWhile isBlank = cs := by
  cases cs with
  | nil => rfl
  | cons c cs => rw [List.dropWhile_cons_of_neg (by simp [unblank c List.mem_cons_self])]

theorem trim_unblank {s : String} (unblank : ∀ c ∈ s.toList, isBlank c = false) : trim s = s := by
  have reversed : ∀ c ∈ s.toList.reverse, isBlank c = false := fun c member => unblank c (List.mem_reverse.mp member)
  unfold trim
  rw [dropWhile_unblank unblank, dropWhile_unblank reversed, List.reverse_reverse, String.ofList_toList]

theorem splitAtBlank?_unblank {s : String} (unblank : ∀ c ∈ s.toList, isBlank c = false) : splitAtBlank? s = none := by
  have whole : s.toList.span (!isBlank ·) = (s.toList, []) := by
    rw [List.span_eq_takeWhile_dropWhile, Prod.mk.injEq, List.takeWhile_eq_self_iff, List.dropWhile_eq_nil_iff]
    exact ⟨fun c member => by simp [unblank c member], fun c member => by simp [unblank c member]⟩
  unfold splitAtBlank?
  rw [whole]

theorem isDigit_of_mem_toString {n : Nat} {c : Char} (member : c ∈ (toString n).toList) : c.isDigit = true := by
  rw [toString_eq_numeralText, numeralText, String.toList_ofList] at member
  exact isDigit_of_mem_paddedDigits member

theorem toString_unblank (n : Nat) : ∀ c ∈ (toString n).toList, isBlank c = false :=
  fun _ member => isBlank_of_isDigit (isDigit_of_mem_toString member)

/-- A number is written otherwise than any word that does not begin with a digit. -/
theorem toString_ne {word : String} (letter : ∀ c ∈ word.toList.head?, c.isDigit = false) (n : Nat) :
    toString n ≠ word := by
  rintro rfl
  cases digits : (toString n).toList with
  | nil =>
      rw [toString_eq_numeralText, numeralText, String.toList_ofList] at digits
      exact paddedDigits_ne_nil 0 n digits
  | cons c cs =>
      have digit : c.isDigit = true := isDigit_of_mem_toString (n := n) (by rw [digits]; exact List.mem_cons_self)
      cases digit.symm.trans (letter c (by rw [digits]; rfl))

end Text

namespace Command

/-- The answer to a number that no option can be chosen by. -/
def misnumbered (n : Nat) : String :=
  if n < UInt64.size then "choices are numbered 1-9" else s!"unknown command '{n}'"

/-- Only the numbers from one to nine choose. -/
theorem parse_toString (n : Nat) :
    parse (toString n) = if 1 ≤ n ∧ n ≤ 9 then choose (n - 1) else invalid (misnumbered n) := by
  have present : (toString n).isEmpty = false := by
    rw [Bool.eq_false_iff, Ne, String.isEmpty_iff]
    exact Text.toString_ne (by simp) n
  unfold parse misnumbered
  dsimp only
  rw [Text.trim_unblank (Text.toString_unblank n), present, if_neg Bool.false_ne_true]
  by_cases small : n < UInt64.size
  · rw [Text.readNatural?_toString small, if_pos small]
    by_cases few : 1 ≤ n ∧ n ≤ 9
    · simp [few]
    · rw [if_neg few]
      dsimp only
      rw [if_neg (by simpa using few)]
  · have beyond : ¬ (1 ≤ n ∧ n ≤ 9) := fun few => small (Nat.lt_of_le_of_lt few.2 (by decide))
    have unread : Text.readNatural? UInt64.size (toString n) = none := by
      rw [Option.eq_none_iff_forall_ne_some]
      intro m read
      -- Without the limit the text is read as the number that it is written from.
      obtain ⟨below, spelling⟩ := Text.readNatural?_eq_some.mp read
      have whole : Text.readNatural? (n + 1) (toString n) = some n := Text.readNatural?_toString (Nat.lt_succ_self n)
      rw [Text.readNatural?_eq_some.mpr ⟨by omega, spelling⟩] at whole
      cases whole
      exact small below
    rw [unread, if_neg beyond, if_neg small]
    dsimp only
    rw [Text.splitAtBlank?_unblank (Text.toString_unblank n)]
    dsimp only
    have noVerb : ∀ verb ∈ ["q", "quit", "status", "enter", "interact", "save", "load"], toString n ≠ verb := by
      intro verb member
      refine Text.toString_ne ?_ n
      revert verb
      simp
    simp only [List.forall_mem_cons] at noVerb
    obtain ⟨q, quit, status, enter, interact, save, load, -⟩ := noVerb
    unfold ofWords
    rw [decide_eq_false q, decide_eq_false quit, if_neg status, decide_eq_false enter, decide_eq_false interact,
      if_neg save, if_neg load]
    rfl

end Command

end Plotline
