import Mathlib.Data.List.TakeWhile
import Plotline.Proofs.Json.Layout

/-!
A value without parts that is read from the front of a text is read there from its own characters: whatever else stands
behind them, it is read in the same way. Nothing is said of values that break off.
-/

namespace Plotline.Json

/-- The reading takes these characters for the value, whatever stands behind them that no numeral goes on with. -/
def Takes (read : List Char → Scan) (own : List Char) (doc : Doc) : Prop :=
  ∀ rest, Ends rest → read (own ++ rest) = (doc, some rest)

variable {n : Numeral} {cs rest : List Char} {doc : Doc}

/-! ### Strings -/

private theorem pairedUnit_of_plain {c : Char} {cs : List Char} (plain : c ≠ '\\') :
    pairedUnit (c :: cs) = .error .unfinishedPair := by
  simp [pairedUnit, plain]

private theorem pairedUnit_of_other {c : Char} {cs : List Char} (other : c ≠ 'u') :
    pairedUnit ('\\' :: c :: cs) = .error .unfinishedPair := by
  simp [pairedUnit, other]

/-- Whether a pair is completed is seen within a string that is whole. -/
private theorem pairedUnit_of_whole {own : List Char} (whole : (scanString 0 own).rest = .ok [])
    (rest other : List Char) : pairedUnit (own ++ rest) = pairedUnit (own ++ other) := by
  cases own with
  | nil => cases whole
  | cons c own =>
    by_cases slash : c = '\\'
    · subst slash
      cases own with
      | nil => simp [scanString, StringScan.fail] at whole
      | cons c own =>
        by_cases unit : c = 'u'
        · subst unit
          rcases own with - | ⟨a, - | ⟨b, - | ⟨c, - | ⟨d, own⟩⟩⟩⟩
          iterate 4 · simp [scanString, StringScan.fail] at whole
          rfl
        · exact (pairedUnit_of_other unit).trans (pairedUnit_of_other unit).symm
    · exact (pairedUnit_of_plain slash).trans (pairedUnit_of_plain slash).symm

private theorem pairedUnit_of_long {own : List Char} (long : 6 < own.length) (rest other : List Char) :
    pairedUnit (own ++ rest) = pairedUnit (own ++ other) := by
  match own with
  | c :: second :: c3 :: c4 :: c5 :: c6 :: own =>
    by_cases slash : c = '\\'
    · subst slash
      by_cases unit : second = 'u'
      · subst unit
        rfl
      · exact (pairedUnit_of_other unit).trans (pairedUnit_of_other unit).symm
    · exact (pairedUnit_of_plain slash).trans (pairedUnit_of_plain slash).symm

private theorem scanString_unit {a b c d : Char} {unit : Nat} (value : unit? a b c d = some unit) (tail : List Char) :
    scanString 0 ('\\' :: 'u' :: a :: b :: c :: d :: tail) =
      if isTrailing unit then (scanString 0 tail).spoil .loneSurrogate
      else if isLeading unit then
        match pairedUnit tail with
        | .ok second =>
          (scanString 6 tail).cons (Char.ofNat (0x10000 + (unit - 0xd800) * 0x400 + (second - 0xdc00)))
        | .error fault => (scanString 0 tail).spoil fault
      else (scanString 0 tail).cons (Char.ofNat unit) := by
  cases second : pairedUnit tail <;> simp only [scanString, value, second]

/-- What is true of the characters behind some others is true from these on, if they only change what is taken up. -/
private theorem excerpt_behind {tail : List Char} {skip : Nat} (front : List Char) (some : 0 < front.length)
    (change : Except SyntaxFault (List Char) → Except SyntaxFault (List Char))
    (excerpt : ∀ {rest}, (scanString skip tail).rest = .ok rest → ∃ own, tail = own ++ rest ∧ skip < own.length ∧
      ∀ other, scanString skip (own ++ other) = ⟨(scanString skip tail).taken, .ok other⟩)
    (here : scanString 0 (front ++ tail) = ⟨change (scanString skip tail).taken, (scanString skip tail).rest⟩)
    (there : ∀ {own rest}, tail = own ++ rest → skip < own.length → (scanString skip own).rest = .ok [] → ∀ other,
      scanString 0 (front ++ (own ++ other)) =
        ⟨change (scanString skip (own ++ other)).taken, (scanString skip (own ++ other)).rest⟩)
    {rest : List Char} (passed : (scanString 0 (front ++ tail)).rest = .ok rest) :
    ∃ own, front ++ tail = own ++ rest ∧ 0 < own.length ∧
      ∀ other, scanString 0 (own ++ other) = ⟨(scanString 0 (front ++ tail)).taken, .ok other⟩ := by
  rw [here] at passed
  obtain ⟨own, is, long, read⟩ := excerpt passed
  have whole : (scanString skip own).rest = .ok [] := by
    have alone := read []
    rw [List.append_nil] at alone
    rw [alone]
  refine ⟨front ++ own, by rw [is, List.append_assoc], by rw [List.length_append]; omega, fun other => ?_⟩
  rw [List.append_assoc, there is long whole other, read, here]

/-- A string that can be passed over is passed over in the same way wherever it stands. -/
theorem scanString_excerpt {skip : Nat} {cs rest : List Char} (passed : (scanString skip cs).rest = .ok rest) :
    ∃ own, cs = own ++ rest ∧ skip < own.length ∧
      ∀ other, scanString skip (own ++ other) = ⟨(scanString skip cs).taken, .ok other⟩ := by
  -- The scanner looks ahead at the second half of a pair only. Whether it is one is decided within the string: a pair is
  -- passed over with it, and where there is none, the string does not end before that is seen.
  induction skip, cs using scanString.induct generalizing rest with
  | case1 skip => simp [scanString, StringScan.fail] at passed
  | case2 skip head tail ih =>
    rw [scanString] at passed
    obtain ⟨own, rfl, long, read⟩ := ih passed
    refine ⟨head :: own, rfl, Nat.succ_lt_succ long, fun other => ?_⟩
    rw [List.cons_append, scanString, read, scanString]
  | case3 tail =>
    rw [scanString] at passed
    obtain rfl : tail = rest := Except.ok.inj passed
    exact ⟨['"'], rfl, Nat.zero_lt_one, fun other => by rw [List.singleton_append, scanString, scanString]⟩
  | case4 a b c d tail unit =>
    rw [scanString, unit] at passed
    cases passed
  | case5 a b c d tail n unit trailing ih =>
    have here (x : List Char) : scanString 0 (['\\', 'u', a, b, c, d] ++ x) = (scanString 0 x).spoil .loneSurrogate :=
      (scanString_unit unit x).trans (if_pos trailing)
    exact excerpt_behind ['\\', 'u', a, b, c, d] (Nat.succ_pos _) (fun _ => .error .loneSurrogate) ih (here tail)
      (fun _ _ _ _ => here _) passed
  | case6 a b c d tail n unit trailing leading second paired ih =>
    have here (x : List Char) (completes : pairedUnit x = .ok second) :
        scanString 0 (['\\', 'u', a, b, c, d] ++ x) =
          (scanString 6 x).cons (Char.ofNat (0x10000 + (n - 0xd800) * 0x400 + (second - 0xdc00))) := by
      refine (scanString_unit unit x).trans ?_
      rw [if_neg trailing, if_pos leading, completes]
    refine excerpt_behind ['\\', 'u', a, b, c, d] (Nat.succ_pos _) (Except.map (_ :: ·)) ih (here tail paired) ?_ passed
    intro own rest is long _ other
    exact here _ (by rw [pairedUnit_of_long long other rest, ← is, paired])
  | case7 a b c d tail n unit trailing leading fault paired ih =>
    have here (x : List Char) (lone : pairedUnit x = .error fault) :
        scanString 0 (['\\', 'u', a, b, c, d] ++ x) = (scanString 0 x).spoil fault := by
      refine (scanString_unit unit x).trans ?_
      rw [if_neg trailing, if_pos leading, lone]
    refine excerpt_behind ['\\', 'u', a, b, c, d] (Nat.succ_pos _) (fun _ => .error fault) ih (here tail paired) ?_
      passed
    intro own rest is _ whole other
    exact here _ (by rw [pairedUnit_of_whole whole other rest, ← is, paired])
  | case8 a b c d tail n unit trailing leading ih =>
    have here (x : List Char) : scanString 0 (['\\', 'u', a, b, c, d] ++ x) = (scanString 0 x).cons (Char.ofNat n) :=
      (scanString_unit unit x).trans ((if_neg trailing).trans (if_neg leading))
    exact excerpt_behind ['\\', 'u', a, b, c, d] (Nat.succ_pos _) (Except.map (_ :: ·)) ih (here tail)
      (fun _ _ _ _ => here _) passed
  | case9 short fewer =>
    rw [scanString.eq_5 _ fewer] at passed
    cases passed
  | case10 c tail fewer other e escape ih =>
    have here (x : List Char) : scanString 0 (['\\', c] ++ x) = (scanString 0 x).cons e := by
      refine (scanString.eq_6 c x (fun _ _ _ _ _ is => (other is).elim) other).trans ?_
      rw [escape]
    exact excerpt_behind ['\\', c] (Nat.succ_pos _) (Except.map (e :: ·)) ih (here tail) (fun _ _ _ _ => here _) passed
  | case11 c tail fewer other escape =>
    rw [scanString.eq_6 c tail fewer other, escape] at passed
    cases passed
  | case12 => simp [scanString, StringScan.fail] at passed
  | case13 c tail quote long short slash alone control =>
    rw [scanString.eq_8 c tail quote long short slash alone, if_pos control] at passed
    cases passed
  | case14 c tail quote long short slash alone visible ih =>
    have plain : c ≠ '\\' := by
      rintro rfl
      cases tail with
      | nil => exact alone rfl rfl
      | cons next tail => exact slash next tail rfl rfl
    have here (x : List Char) : scanString 0 ([c] ++ x) = (scanString 0 x).cons c := by
      refine (scanString.eq_8 c x quote (fun _ _ _ _ _ is => absurd is plain) (fun _ is => absurd is plain)
        (fun _ _ is => absurd is plain) fun is => absurd is plain).trans ?_
      rw [if_neg visible]
    exact excerpt_behind [c] Nat.zero_lt_one (Except.map (c :: ·)) ih (here tail) (fun _ _ _ _ => here _) passed

/-! ### Numerals -/

private theorem endsDigits_dropWhile (cs : List Char) : EndsDigits (cs.dropWhile Char.isDigit) := by
  have first := List.head?_dropWhile_not Char.isDigit cs
  cases left : cs.dropWhile Char.isDigit with
  | nil => trivial
  | cons c rest =>
    rw [left] at first
    exact first

private theorem split_takeWhile (cs : List Char) {rest : List Char} (ends : EndsDigits rest) :
    digitsOf (cs.takeWhile Char.isDigit ++ rest) = digitsOf cs ∧
      (cs.takeWhile Char.isDigit ++ rest).dropWhile Char.isDigit = rest := by
  have all : ∀ c ∈ cs.takeWhile Char.isDigit, c.isDigit = true := fun c member => List.mem_takeWhile_imp member
  unfold digitsOf
  rw [List.takeWhile_append_of_pos all, List.dropWhile_append_of_pos all]
  cases rest with
  | nil => exact ⟨by rw [List.takeWhile_nil, List.append_nil], rfl⟩
  | cons c rest =>
    have stops : ¬ c.isDigit = true := Bool.eq_false_iff.mp ends
    rw [List.takeWhile_cons_of_neg stops, List.dropWhile_cons_of_neg stops, List.append_nil]
    exact ⟨rfl, rfl⟩

private theorem finishNumeral_some (read : finishNumeral n cs = (doc, some rest)) : doc = n.tree ∧ cs = rest := by
  rw [finishNumeral_eq] at read
  cases read
  exact ⟨rfl, rfl⟩

/-- The characters that remain of a numeral, where its reading starts over from its next part. -/
private theorem append_ends {own rest : List Char} (starts : EndsDigits (own ++ rest)) {other : List Char}
    (ends : Ends other) : EndsDigits (own ++ other) := by
  cases own with
  | nil => exact ends.digits
  | cons c own => exact starts

private theorem exponentPart_of_ends (ends : Ends cs) : exponentPart n cs = finishNumeral n cs := by
  cases cs with
  | nil => rfl
  | cons c cs => simp [exponentPart, ends.2.2.1, ends.2.2.2]

/-- The digits of an exponent, behind its sign. -/
private def exponentDigits (n : Numeral) (positive : Bool) (cs : List Char) : Scan :=
  match digitsOf cs with
  | [] => missingDigit cs
  | digits => finishNumeral { n with exponent := some (positive, digits) } (cs.dropWhile Char.isDigit)

private theorem exponentPart_unsigned {mark : Char} (marks : (mark = 'e' || mark = 'E') = true)
    (plus : ∀ tail, cs = '+' :: tail → False) (minus : ∀ tail, cs = '-' :: tail → False) :
    exponentPart n (mark :: cs) = exponentDigits n true cs := by
  rw [exponentPart.eq_3 n mark cs plus minus, if_pos marks]
  rfl

private theorem digitsOf_ne_nil {d : Nat} {ds : List Nat} (digits : digitsOf cs = d :: ds) :
    ∃ c tail, cs.takeWhile Char.isDigit = c :: tail ∧ c.isDigit = true := by
  unfold digitsOf at digits
  obtain ⟨c, tail, is, -⟩ := List.map_eq_cons_iff.mp digits
  have member : c ∈ cs.takeWhile Char.isDigit := is ▸ List.mem_cons_self
  exact ⟨c, tail, is, List.mem_takeWhile_imp member⟩

private theorem exponentDigits_excerpt {positive : Bool} (read : exponentDigits n positive cs = (doc, some rest)) :
    ∃ c own, cs = c :: own ++ rest ∧ c.isDigit = true ∧ Takes (exponentDigits n positive) (c :: own) doc := by
  unfold exponentDigits at read
  split at read
  · cases read
  · rename_i digits some
    obtain ⟨d, ds, is⟩ := List.exists_cons_of_ne_nil some
    obtain ⟨c, own, first, digit⟩ := digitsOf_ne_nil is
    obtain ⟨rfl, rfl⟩ := finishNumeral_some read
    refine ⟨c, own, first ▸ List.takeWhile_append_dropWhile.symm, digit, fun rest ends => ?_⟩
    obtain ⟨same, left⟩ := split_takeWhile cs ends.digits
    rw [first] at same left
    unfold exponentDigits
    rw [same, left, is]
    exact finishNumeral_eq _ rest

theorem exponentPart_excerpt (read : exponentPart n cs = (doc, some rest)) :
    ∃ own, cs = own ++ rest ∧ Takes (exponentPart n) own doc := by
  have plain (is : cs = rest) (tree : doc = n.tree) : ∃ own, cs = own ++ rest ∧ Takes (exponentPart n) own doc :=
    ⟨[], is, fun rest ends => by rw [List.nil_append, exponentPart_of_ends ends, finishNumeral_eq, tree]⟩
  cases cs with
  | nil =>
    obtain ⟨tree, is⟩ := finishNumeral_some read
    exact plain is tree
  | cons mark cs =>
    by_cases marks : (mark = 'e' || mark = 'E') = true
    · have signed (sign : Char) (positive : Bool)
          (is : ∀ tail, exponentPart n (mark :: sign :: tail) = exponentDigits n positive tail) (tail : List Char)
          (read : exponentDigits n positive tail = (doc, some rest)) :
          ∃ own, mark :: sign :: tail = own ++ rest ∧ Takes (exponentPart n) own doc := by
        obtain ⟨c, own, rfl, -, takes⟩ := exponentDigits_excerpt read
        exact ⟨mark :: sign :: c :: own, rfl, fun rest ends => (is _).trans (takes rest ends)⟩
      have plus (tail : List Char) : exponentPart n (mark :: '+' :: tail) = exponentDigits n true tail := if_pos marks
      have minus (tail : List Char) : exponentPart n (mark :: '-' :: tail) = exponentDigits n false tail := if_pos marks
      by_cases positive : ∃ tail, cs = '+' :: tail
      · obtain ⟨tail, rfl⟩ := positive
        exact signed '+' true plus tail ((plus tail).symm.trans read)
      by_cases negative : ∃ tail, cs = '-' :: tail
      · obtain ⟨tail, rfl⟩ := negative
        exact signed '-' false minus tail ((minus tail).symm.trans read)
      have same : exponentPart n (mark :: cs) = exponentDigits n true cs :=
        exponentPart_unsigned marks (fun tail is => positive ⟨tail, is⟩) fun tail is => negative ⟨tail, is⟩
      obtain ⟨c, own, rfl, digit, takes⟩ := exponentDigits_excerpt (same.symm.trans read)
      refine ⟨mark :: c :: own, rfl, fun rest ends => ?_⟩
      have first (sign : Char) (other : sign.isDigit = false) (tail : List Char)
          (is : c :: own ++ rest = sign :: tail) : False := by
        rw [(List.cons.inj is).1, other] at digit
        cases digit
      exact (exponentPart_unsigned marks (first '+' rfl) (first '-' rfl)).trans (takes rest ends)
    · unfold exponentPart at read
      dsimp only at read
      rw [if_neg marks] at read
      obtain ⟨tree, is⟩ := finishNumeral_some read
      exact plain is tree

theorem fractionPart_excerpt (read : fractionPart n cs = (doc, some rest)) :
    ∃ own, cs = own ++ rest ∧ Takes (fractionPart n) own doc := by
  have whole {point : Char} (other : point ≠ '.') (tail : List Char) :
      fractionPart n (point :: tail) = exponentPart n (point :: tail) := by
    unfold fractionPart
    split
    · rename_i is
      exact absurd (List.cons.inj is).1 other
    · rfl
  have blank {cs : List Char} (ends : Ends cs) : fractionPart n cs = exponentPart n cs := by
    cases cs with
    | nil => rfl
    | cons c cs => exact whole ends.2.1 cs
  have others (same : fractionPart n cs = exponentPart n cs)
      (again : ∀ c own, cs = c :: own ++ rest → c ≠ '.') :
      ∃ own, cs = own ++ rest ∧ Takes (fractionPart n) own doc := by
    obtain ⟨own, rfl, takes⟩ := exponentPart_excerpt (same.symm.trans read)
    refine ⟨own, rfl, fun rest ends => ?_⟩
    cases own with
    | nil => exact (blank ends).trans (takes rest ends)
    | cons c own => exact (whole (again c own rfl) (own ++ rest)).trans (takes rest ends)
  cases cs with
  | nil => exact others rfl nofun
  | cons point tail =>
    rcases Decidable.em (point = '.') with rfl | other
    · rw [fractionPart] at read
      split at read
      · cases read
      · rename_i digits some
        obtain ⟨own, left, takes⟩ := exponentPart_excerpt read
        refine ⟨'.' :: (tail.takeWhile Char.isDigit ++ own), ?_, fun rest ends => ?_⟩
        · rw [List.cons_append, List.append_assoc, ← left, List.takeWhile_append_dropWhile]
        · have stops : EndsDigits (own ++ rest) := append_ends (left ▸ endsDigits_dropWhile tail) ends
          obtain ⟨same, dropped⟩ := split_takeWhile tail stops
          rw [List.cons_append, List.append_assoc, fractionPart, same, dropped]
          split
          · rename_i none
            exact absurd none some
          · exact takes rest ends
    · exact others (whole other tail) fun c own is => (List.cons.inj is).1 ▸ other

theorem numeralValue_excerpt {negative : Bool} (read : numeralValue negative cs = (doc, some rest)) :
    ∃ c own, cs = c :: own ++ rest ∧ Takes (numeralValue negative) (c :: own) doc := by
  unfold numeralValue at read
  split at read
  · cases read
  · cases read
  · rename_i digits present single
    obtain ⟨d, ds, is⟩ := List.exists_cons_of_ne_nil present
    obtain ⟨c, first, taken, -⟩ := digitsOf_ne_nil is
    obtain ⟨own, left, takes⟩ := fractionPart_excerpt read
    refine ⟨c, first ++ own, ?_, fun rest ends => ?_⟩
    · rw [← List.cons_append, ← taken, List.append_assoc, ← left, List.takeWhile_append_dropWhile]
    · have stops : EndsDigits (own ++ rest) := append_ends (left ▸ endsDigits_dropWhile cs) ends
      obtain ⟨same, dropped⟩ := split_takeWhile cs stops
      rw [taken] at same dropped
      rw [← List.cons_append, List.append_assoc, numeralValue, same, dropped]
      split
      · rename_i none
        exact absurd none present
      · rename_i zeros
        exact (single _ _ zeros).elim
      · exact takes rest ends

/-! ### Values without parts -/

theorem stringValue_excerpt (read : stringValue cs = (doc, some rest)) :
    ∃ own, cs = own ++ rest ∧ ∀ rest, stringValue (own ++ rest) = (doc, some rest) := by
  have whole {left : List Char} (passed : (scanString 0 cs).rest = .ok left) :
      ∃ own, cs = own ++ left ∧ ∀ rest, scanString 0 (own ++ rest) = ⟨(scanString 0 cs).taken, .ok rest⟩ := by
    obtain ⟨own, is, -, scans⟩ := scanString_excerpt passed
    exact ⟨own, is, scans⟩
  unfold stringValue at read
  dsimp only at read
  split at read
  · rename_i s left taken passed
    cases read
    obtain ⟨own, is, scans⟩ := whole passed
    exact ⟨own, is, fun rest => by rw [stringValue, scans, taken]⟩
  · cases read
  · rename_i fault left taken passed
    cases read
    obtain ⟨own, is, scans⟩ := whole passed
    exact ⟨own, is, fun rest => by rw [stringValue, scans, taken]⟩
  · cases read

theorem word_excerpt {value : Doc} {letters : List Char} (read : word value letters cs = (doc, some rest)) :
    ∃ own, cs = own ++ rest ∧ ∀ rest, word value letters (own ++ rest) = (doc, some rest) := by
  induction letters generalizing cs with
  | nil =>
    cases read
    exact ⟨[], rfl, fun _ => rfl⟩
  | cons letter letters ih =>
    cases cs with
    | nil => cases read
    | cons c cs =>
      rw [word] at read
      split at read
      · rename_i same
        obtain ⟨own, rfl, reads⟩ := ih read
        exact ⟨c :: own, rfl, fun rest => (if_pos same).trans (reads rest)⟩
      · cases read

theorem scalarValue_excerpt {c : Char} (read : scalarValue c cs = (doc, some rest)) :
    ∃ own, cs = own ++ rest ∧ Takes (scalarValue c) own doc := by
  have anywhere {f : List Char → Scan} (same : ∀ x, scalarValue c x = f x)
      (excerpt : f cs = (doc, some rest) → ∃ own, cs = own ++ rest ∧ ∀ rest, f (own ++ rest) = (doc, some rest)) :
      ∃ own, cs = own ++ rest ∧ Takes (scalarValue c) own doc := by
    obtain ⟨own, is, reads⟩ := excerpt ((same cs).symm.trans read)
    exact ⟨own, is, fun rest _ => (same (own ++ rest)).trans (reads rest)⟩
  by_cases quote : c = '"'
  · exact anywhere (fun _ => if_pos quote) stringValue_excerpt
  by_cases null : c = 'n'
  · subst null
    exact anywhere (fun _ => rfl) word_excerpt
  by_cases yes : c = 't'
  · subst yes
    exact anywhere (fun _ => rfl) word_excerpt
  by_cases no : c = 'f'
  · subst no
    exact anywhere (fun _ => rfl) word_excerpt
  by_cases minus : c = '-'
  · subst minus
    have negative : numeralValue true cs = (doc, some rest) := read
    obtain ⟨first, own, is, takes⟩ := numeralValue_excerpt negative
    exact ⟨first :: own, is, takes⟩
  have plain (x : List Char) :
      scalarValue c x = if c.isDigit then numeralValue false (c :: x) else .fail .other .expectedValue := by
    rw [scalarValue, if_neg quote, if_neg null, if_neg yes, if_neg no, if_neg minus]
  by_cases digit : c.isDigit = true
  · have numeral (x : List Char) : scalarValue c x = numeralValue false (c :: x) := (plain x).trans (if_pos digit)
    obtain ⟨first, own, is, takes⟩ := numeralValue_excerpt ((numeral cs).symm.trans read)
    obtain ⟨rfl, rfl⟩ := List.cons.inj is
    exact ⟨own, rfl, fun rest ends => (numeral (own ++ rest)).trans (takes rest ends)⟩
  · rw [plain, if_neg digit] at read
    cases read

end Plotline.Json
