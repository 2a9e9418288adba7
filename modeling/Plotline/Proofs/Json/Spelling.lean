import Plotline.Proofs.Json.Tree

/-!
Spelled values without parts are read as what they spell, whatever stands behind them: strings with all their escapes,
numerals and words.
-/

namespace Plotline.Json

/-! ### Strings -/

private theorem scanString_control (c : Char) (control : c.toNat < 0x20) (rest : List Char) :
    scanString 0 (controlEscape c ++ rest) = (scanString 0 rest).cons c := by
  have unit : ∀ n < 0x20, unit? '0' '0' (Nat.digitChar (n / 16)) (Nat.digitChar (n % 16)) = some n ∧
      isTrailing n = false ∧ isLeading n = false := by decide
  obtain ⟨value, trailing, leading⟩ := unit c.toNat control
  unfold controlEscape
  rw [List.cons_append, List.cons_append, List.cons_append, List.cons_append, List.cons_append, List.cons_append,
    List.nil_append, scanString, value]
  dsimp only
  rw [trailing, leading, Char.ofNat_toNat]
  rfl

private theorem scanString_plain {c : Char} (rest : List Char) (quote : c ≠ '"') (backslash : c ≠ '\\')
    (visible : ¬ c.toNat < 0x20) : scanString 0 (c :: rest) = (scanString 0 rest).cons c := by
  rw [scanString.eq_8 c rest quote (fun _ _ _ _ _ is => absurd is backslash) (fun _ is => absurd is backslash)
    (fun _ _ is => absurd is backslash) (fun is => absurd is backslash), if_neg visible]

private theorem scanString_escapedChar (c : Char) (rest : List Char) :
    scanString 0 (escapedChar c ++ rest) = (scanString 0 rest).cons c := by
  have named : ∀ e, simpleEscape? e = some c → e ≠ 'u' →
      scanString 0 ('\\' :: e :: rest) = (scanString 0 rest).cons c := by
    intro e is other
    rw [scanString.eq_6 e rest (fun _ _ _ _ _ same => absurd same other) other, is]
  have numbered : ∀ n, c.toNat = n → Char.ofNat n = c := fun n is => is ▸ Char.ofNat_toNat c
  unfold escapedChar
  split
  · rename_i is
    exact named '"' (congrArg some is.symm) (by decide)
  split
  · rename_i is
    exact named '\\' (congrArg some is.symm) (by decide)
  split
  · rename_i is
    exact named 'n' (congrArg some is.symm) (by decide)
  split
  · rename_i is
    exact named 'r' (congrArg some is.symm) (by decide)
  split
  · rename_i is
    exact named 't' (congrArg some is.symm) (by decide)
  split
  · rename_i is
    exact named 'b' (congrArg some (numbered 8 is)) (by decide)
  split
  · rename_i is
    exact named 'f' (congrArg some (numbered 12 is)) (by decide)
  split
  · rename_i control
    exact scanString_control c control rest
  · rename_i quote backslash _ _ _ _ _ visible
    exact scanString_plain rest quote backslash visible

/-- A string is read up to its closing quote as the text that it spells. -/
theorem scanString_spelled (s : List Char) (rest : List Char) :
    scanString 0 (s.flatMap escapedChar ++ '"' :: rest) = ⟨.ok s, .ok rest⟩ := by
  induction s with
  | nil => rw [List.flatMap_nil, List.nil_append, scanString]
  | cons c s ih =>
      rw [List.flatMap_cons, List.append_assoc, scanString_escapedChar, ih]
      rfl

theorem stringValue_spelled (s : String) (rest : List Char) :
    stringValue (s.toList.flatMap escapedChar ++ '"' :: rest) = (.text s, some rest) := by
  unfold stringValue
  rw [scanString_spelled]
  dsimp only
  rw [String.ofList_toList]

/-! ### Numerals -/

/-- A numeral cannot go on with what stands here. -/
def Ends : List Char → Prop
  | [] => True
  | c :: _ => c.isDigit = false ∧ c ≠ '.' ∧ c ≠ 'e' ∧ c ≠ 'E'

def EndsDigits : List Char → Prop
  | [] => True
  | c :: _ => c.isDigit = false

theorem Ends.digits {rest : List Char} (ends : Ends rest) : EndsDigits rest := by
  cases rest with
  | nil => exact trivial
  | cons c rest => exact ends.1

private theorem isDigit_of_mem {digits : List Nat} (below : ∀ d ∈ digits, d < 10) :
    ∀ c ∈ digits.map Nat.digitChar, c.isDigit = true := by
  intro c member
  obtain ⟨d, among, rfl⟩ := List.mem_map.mp member
  rw [Nat.isDigit_digitChar]
  exact decide_eq_true (below d among)

private theorem digitsOf_spelled {digits : List Nat} (below : ∀ d ∈ digits, d < 10) {rest : List Char}
    (ends : EndsDigits rest) : digitsOf (digits.map Nat.digitChar ++ rest) = digits := by
  have others : rest.takeWhile Char.isDigit = [] := by
    cases rest with
    | nil => rfl
    | cons c rest => exact List.takeWhile_cons_of_neg (Bool.eq_false_iff.mp ends)
  unfold digitsOf
  rw [List.takeWhile_append_of_pos (isDigit_of_mem below), others, List.append_nil, List.map_map]
  refine (List.map_congr_left ?_).trans (List.map_id digits)
  intro d member
  exact Nat.toNat_digitChar_sub_48_of_lt_ten (below d member)

private theorem dropDigits_spelled {digits : List Nat} (below : ∀ d ∈ digits, d < 10) {rest : List Char}
    (ends : EndsDigits rest) : (digits.map Nat.digitChar ++ rest).dropWhile Char.isDigit = rest := by
  rw [List.dropWhile_append_of_pos (isDigit_of_mem below)]
  cases rest with
  | nil => rfl
  | cons c rest => exact List.dropWhile_cons_of_neg (Bool.eq_false_iff.mp ends)

theorem finishNumeral_eq (n : Numeral) (rest : List Char) : finishNumeral n rest = (n.tree, some rest) := by
  unfold finishNumeral Numeral.tree
  cases n.value <;> rfl

variable {n : Numeral} {rest : List Char}

open Numeral

private theorem exponentPart_spelled (proper : n.Proper) (ends : Ends rest) :
    exponentPart { n with exponent := none } (spelledExponent n.exponent ++ rest) = (n.tree, some rest) := by
  obtain ⟨negative, whole, fraction, exponent⟩ := n
  cases exponent with
  | none =>
      rw [← finishNumeral_eq]
      cases rest with
      | nil => rfl
      | cons c rest =>
          have other : (c = 'e' || c = 'E') = false := by simp [ends.2.2.1, ends.2.2.2]
          show exponentPart _ (c :: rest) = _
          unfold exponentPart
          dsimp only
          rw [other]
          rfl
  | some exponent =>
      obtain ⟨positive, digits⟩ := exponent
      obtain ⟨nonempty, below⟩ := proper.exponent positive digits rfl
      have read := digitsOf_spelled below ends.digits
      have left := dropDigits_spelled below ends.digits
      obtain ⟨d, others, rfl⟩ := List.exists_cons_of_ne_nil nonempty
      have signed : exponentPart { negative, whole, fraction }
          ('e' :: (if positive then '+' else '-') :: ((d :: others).map Nat.digitChar ++ rest)) =
            finishNumeral { negative, whole, fraction, exponent := some (positive, d :: others) } rest := by
        cases positive with
        | true =>
            show exponentPart _ ('e' :: '+' :: _) = _
            simp only [exponentPart, read, left]
            rfl
        | false =>
            show exponentPart _ ('e' :: '-' :: _) = _
            simp only [exponentPart, read, left]
            rfl
      exact signed.trans (finishNumeral_eq _ rest)

private theorem spelledExponent_ends (exponent : Option (Bool × List Nat)) (ends : Ends rest) :
    EndsDigits (spelledExponent exponent ++ rest) := by
  cases exponent with
  | none => exact ends.digits
  | some exponent => exact rfl

private theorem fractionPart_spelled (proper : n.Proper) (ends : Ends rest) :
    fractionPart { n with fraction := none, exponent := none }
      (spelledFraction n.fraction ++ (spelledExponent n.exponent ++ rest)) = (n.tree, some rest) := by
  have further := exponentPart_spelled proper ends
  obtain ⟨negative, whole, fraction, exponent⟩ := n
  cases fraction with
  | none =>
      refine Eq.trans ?_ further
      show fractionPart _ (spelledExponent exponent ++ rest) = _
      cases exponent with
      | some exponent => rfl
      | none =>
          cases rest with
          | nil => rfl
          | cons c rest =>
              show fractionPart _ (c :: rest) = exponentPart _ (c :: rest)
              unfold fractionPart
              split
              · rename_i is
                exact absurd (List.cons.inj is).1 ends.2.1
              · rfl
  | some digits =>
      obtain ⟨nonempty, below⟩ := proper.fraction digits rfl
      have closes := spelledExponent_ends exponent ends
      have read := digitsOf_spelled below closes
      have left := dropDigits_spelled below closes
      obtain ⟨d, others, rfl⟩ := List.exists_cons_of_ne_nil nonempty
      have parted : fractionPart { negative, whole }
          ('.' :: ((d :: others).map Nat.digitChar ++ (spelledExponent exponent ++ rest))) =
            exponentPart { negative, whole, fraction := some (d :: others) } (spelledExponent exponent ++ rest) := by
        simp only [fractionPart, read, left]
      exact parted.trans further

theorem numeralValue_spelled (proper : n.Proper) (ends : Ends rest) :
    numeralValue n.negative (n.spelledMagnitude ++ rest) = (n.tree, some rest) := by
  have further := fractionPart_spelled proper ends
  obtain ⟨⟨nonempty, below⟩, leading, -, -⟩ := proper
  have closes : EndsDigits (spelledFraction n.fraction ++ (spelledExponent n.exponent ++ rest)) := by
    cases n.fraction with
    | none => exact spelledExponent_ends n.exponent ends
    | some digits => exact rfl
  have read := digitsOf_spelled below closes
  have left := dropDigits_spelled below closes
  unfold numeralValue spelledMagnitude
  rw [List.append_assoc, List.append_assoc, read, left]
  split
  · contradiction
  · rename_i is
    cases leading _ is
  · exact further

/-! ### Values without parts -/

/-- A value may begin with the character: it is no gap, and it ends neither a list nor an object. -/
def Begins (c : Char) : Prop := isGap c = false ∧ c ≠ ']' ∧ c ≠ '\x7d'

instance (c : Char) : Decidable (Begins c) := inferInstanceAs (Decidable (_ ∧ _))

/-- The text is a value without parts, and it is read as the tree wherever a numeral cannot go on. -/
structure Spells (text : List Char) (doc : Doc) : Prop where
  made : ∃ c cs, text = c :: cs ∧ Begins c ∧ c ≠ '[' ∧ c ≠ '\x7b' ∧
    ∀ rest, Ends rest → scalarValue c (cs ++ rest) = (doc, some rest)

private theorem word_spelled (doc : Doc) (letters rest : List Char) :
    word doc letters (letters ++ rest) = (doc, some rest) := by
  induction letters with
  | nil => rfl
  | cons c letters ih =>
      rw [List.cons_append, word, if_pos rfl]
      exact ih

theorem numeral_spells (proper : n.Proper) : Spells n.spelled n.tree := by
  constructor
  obtain ⟨d, others, whole⟩ := List.exists_cons_of_ne_nil proper.whole.1
  have first : d < 10 := proper.whole.2 d (by rw [whole]; exact List.mem_cons_self)
  have digit : (Nat.digitChar d).isDigit = true := by
    rw [Nat.isDigit_digitChar]
    exact decide_eq_true first
  have read := fun rest (ends : Ends rest) => numeralValue_spelled proper ends
  unfold spelled
  cases sign : n.negative with
  | true =>
      rw [sign] at read
      exact ⟨'-', n.spelledMagnitude, rfl, by decide, by decide, by decide, read⟩
  | false =>
      rw [sign] at read
      have letters : ∀ d < 10, Begins (Nat.digitChar d) ∧ Nat.digitChar d ≠ '[' ∧ Nat.digitChar d ≠ '\x7b' ∧
          Nat.digitChar d ≠ '"' ∧ Nat.digitChar d ≠ 'n' ∧ Nat.digitChar d ≠ 't' ∧ Nat.digitChar d ≠ 'f' ∧
            Nat.digitChar d ≠ '-' := by decide
      obtain ⟨begins, list, object, quote, null, yes, no, minus⟩ := letters d first
      refine ⟨Nat.digitChar d,
        others.map Nat.digitChar ++ (spelledFraction n.fraction ++ spelledExponent n.exponent), ?_, begins, list,
        object, ?_⟩
      · unfold spelledMagnitude
        rw [whole]
        rfl
      · intro rest ends
        refine Eq.trans ?_ (read rest ends)
        unfold scalarValue spelledMagnitude
        rw [if_neg quote, if_neg null, if_neg yes, if_neg no, if_neg minus, if_pos digit, whole]
        rfl

theorem null_spells : Spells ['n', 'u', 'l', 'l'] .null :=
  ⟨'n', ['u', 'l', 'l'], rfl, by decide, by decide, by decide, fun rest _ => word_spelled .null _ rest⟩

theorem bool_spells (b : Bool) : Spells (scalar (.bool b)) (.bool b) := by
  cases b with
  | true =>
      exact ⟨'t', ['r', 'u', 'e'], rfl, by decide, by decide, by decide, fun rest _ => word_spelled (.bool true) _ rest⟩
  | false =>
      exact ⟨'f', ['a', 'l', 's', 'e'], rfl, by decide, by decide, by decide,
        fun rest _ => word_spelled (.bool false) _ rest⟩

theorem quoted_spells (s : String) : Spells (quoted s) (.text s) := by
  refine ⟨'"', s.toList.flatMap escapedChar ++ ['"'], rfl, by decide, by decide, by decide, ?_⟩
  intro rest _
  rw [List.append_assoc]
  exact stringValue_spelled s rest

theorem number_spells (m : Int) : Spells (numeral m) (number m).tree := by
  have text : numeral m = (ofInt m).spelled := by
    cases m with
    | ofNat k =>
        simp [numeral, ofInt, spelled, spelledMagnitude, spelledFraction, spelledExponent, map_digitChar_decimalDigits]
    | negSucc k =>
        simp [numeral, ofInt, spelled, spelledMagnitude, spelledFraction, spelledExponent, map_digitChar_decimalDigits]
  rw [text]
  exact numeral_spells (ofInt_proper m)

theorem single_spells (x : Single) : Spells (singleNumeral x) (single x).tree := by
  have text := Single.stored?_eq x
  show Spells _ x.tree
  unfold singleNumeral Single.tree
  cases found : x.numeral? with
  | none =>
      rw [found, Option.map_none, Option.map_eq_none_iff] at text
      rw [text]
      exact null_spells
  | some n =>
      rw [found, Option.map_some] at text
      obtain ⟨stored, is, spelled⟩ := Option.map_eq_some_iff.mp text
      rw [is, Option.getD_some, spelled]
      exact numeral_spells (Single.numeral?_proper found)

end Plotline.Json
