import TypedRoutes.Proofs.Number.Foreign
import TypedRoutes.Proofs.Number.Notation
import TypedRoutes.Proofs.Text.LetterCase

/-!
# Standard notation

Every finite value is read back from its text in the standard layout, also where this has an
exponent. There are no blanks and no underscores in it, so that the lenient readers read the same.
-/
namespace TypedRoutes

open Number

/-! ## Numerals with an exponent -/

namespace PlainNumeral

variable {cs tail : List Char} {coefficient : ℕ} {exponent k : ℤ}

theorem isDigit_e : Text.isDigit 'e' = false := by decide

/-- An exponent behind a plain numeral is added to that which its point makes. -/
theorem readFloat?_exponent (h : PlainNumeral cs coefficient exponent)
    (htail : readExponent? ('e' :: tail) = some k) (negative : Bool) :
    readFloat? (Binary64.signed negative (cs ++ 'e' :: tail)) =
      some (Binary64.ofDecimal negative coefficient (k + exponent)) := by
  have hsign : splitSign (Binary64.signed negative (cs ++ 'e' :: tail)) =
      (negative, cs ++ 'e' :: tail) := by
    cases negative with
    | true => exact splitSign_minus _
    | false =>
      obtain ⟨c, rest, rfl, hc⟩ := h.exists_cons
      exact splitSign_cons_of_isDigit hc _
  cases h with
  | @whole ds nonempty digits =>
    have hempty : cs.isEmpty = false := by simpa using nonempty
    simp [readFloat?, hsign, takeWhile_isDigit_append digits isDigit_e,
      dropWhile_isDigit_append digits isDigit_e, splitFraction, hempty, htail]
  | @pointed ds fs nonempty digits fraction_nonempty fraction_digits =>
    have hempty : ds.isEmpty = false := by simpa using nonempty
    rw [List.append_assoc, List.cons_append] at hsign ⊢
    simp [readFloat?, hsign, takeWhile_isDigit_point digits,
      dropWhile_isDigit_point digits, splitFraction,
      takeWhile_isDigit_append fraction_digits isDigit_e,
      dropWhile_isDigit_append fraction_digits isDigit_e, hempty, htail, sub_eq_add_neg]

end PlainNumeral

namespace Decimal

variable {d : Decimal}

/-- The digits of a decimal with a point behind the first of them. -/
theorem exists_mantissa (d : Decimal) : ∃ mantissa,
    PlainNumeral mantissa d.coefficient (1 - digitCount d.coefficient) ∧
      (∀ c ∈ mantissa, c ∈ digits d.coefficient ∨ c = '.') ∧
      ∀ width, d.scientific width =
        mantissa ++ 'e' :: (if d.leadingExponent < 0 then '-' else '+') ::
          (zeros (width - digitCount d.leadingExponent.natAbs) ++
            digits d.leadingExponent.natAbs) := by
  have hdigit (c : Char) (hc : c ∈ digits d.coefficient) : Text.isDigit c = true :=
    isDigit_of_mem_digits hc
  have hvalue := ofDigits_digits d.coefficient
  cases hdigits : digits d.coefficient with
  | nil => exact absurd hdigits (digits_ne_nil _)
  | cons c cs =>
    rw [hdigits] at hdigit hvalue
    obtain ⟨hc, hcs⟩ := List.forall_mem_cons.mp hdigit
    have hfirst : ∀ c' ∈ [c], Text.isDigit c' = true := List.forall_mem_singleton.mpr hc
    cases cs with
    | nil =>
      refine ⟨[c], ?_, by simp, fun width => ?_⟩
      · have hwhole := PlainNumeral.whole (List.cons_ne_nil c []) hfirst
        rwa [hvalue, show (0 : ℤ) = 1 - digitCount d.coefficient by simp [digitCount, hdigits]]
          at hwhole
      · simp [scientific, hdigits, digitCount]
    | cons c' rest =>
      refine ⟨[c] ++ '.' :: c' :: rest, ?_, ?_, fun width => ?_⟩
      · have hpointed := PlainNumeral.pointed (List.cons_ne_nil c []) hfirst
          (List.cons_ne_nil c' rest) hcs
        have hlength : (-(c' :: rest).length : ℤ) = 1 - digitCount d.coefficient := by
          simp [digitCount, hdigits]
        rwa [show ofDigits ([c] ++ c' :: rest) = _ from hvalue, hlength] at hpointed
      · intro other hother
        simp only [List.singleton_append, List.mem_cons] at hother ⊢
        tauto
      · simp [scientific, hdigits, digitCount]

/-- The exponent of scientific notation, with its sign and with zeros in front. -/
theorem readExponent?_written (e : ℤ) (n : ℕ) :
    readExponent? ('e' :: (if e < 0 then '-' else '+') :: (zeros n ++ digits e.natAbs)) =
      some e := by
  generalize hbody : zeros n ++ digits e.natAbs = body
  have hdigit : ∀ c ∈ body, Text.isDigit c = true := by
    intro c hc
    rw [← hbody] at hc
    rcases List.mem_append.mp hc with hzero | hwritten
    · exact isDigit_of_mem_zeros hzero
    · exact isDigit_of_mem_digits hwritten
  have hempty : body.isEmpty = false := by simp [← hbody, digits_ne_nil]
  have hall : body.all Text.isDigit = true := List.all_eq_true.mpr hdigit
  have hvalue : ofDigits body = e.natAbs := by
    rw [← hbody, ofDigits_zeros_append, ofDigits_digits]
  have hsign : splitSign ((if e < 0 then '-' else '+') :: body) = (decide (e < 0), body) := by
    split_ifs with hneg <;> simp [splitSign, hneg]
  have habs : withSign (decide (e < 0)) e.natAbs = e := by
    by_cases hneg : e < 0
    · rw [decide_eq_true hneg, withSign, if_pos rfl]
      omega
    · rw [decide_eq_false hneg, withSign, if_neg Bool.false_ne_true]
      omega
  simp [readExponent?, hsign, hempty, hall, hvalue, habs]

theorem readFloat?_scientific (d : Decimal) (width : ℕ) (negative : Bool) :
    readFloat? (Binary64.signed negative (d.scientific width)) =
      some (Binary64.ofDecimal negative d.coefficient d.exponent) := by
  obtain ⟨mantissa, hmantissa, -, hscientific⟩ := d.exists_mantissa
  rw [hscientific, hmantissa.readFloat?_exponent (readExponent?_written _ _), leadingExponent]
  congr 2
  omega

end Decimal

/-! ## The characters of standard notation -/

/-- Whether a character is one that numbers are written with. -/
def Text.IsNumeric (c : Char) : Prop :=
  c.isDigit = true ∨ c ∈ ['-', '+', '.', 'e']

namespace Text

variable {c : Char} {cs : List Char}

theorem isMark_of_isDigit (h : c.isDigit = true) : IsMark c := by
  have hbounds : 48 ≤ c.toNat ∧ c.toNat ≤ 57 := Char.isDigit_iff_toNat.mp h
  exact ⟨by omega, by omega⟩

/-- A digit of any script that numbers are written with is one of ASCII. -/
theorem IsNumeric.isMark (h : IsNumeric c) (hdigit : isDigit c = true) : IsMark c := by
  rcases h with hascii | hother
  · exact isMark_of_isDigit hascii
  · revert hdigit
    simp only [List.mem_cons, List.not_mem_nil, or_false] at hother
    rcases hother with rfl | rfl | rfl | rfl <;> decide

theorem IsNumeric.isWhiteSpace_eq_false (h : IsNumeric c) : isWhiteSpace c = false := by
  rcases h with hascii | hother
  · have hbounds : 48 ≤ c.toNat ∧ c.toNat ≤ 57 := Char.isDigit_iff_toNat.mp hascii
    simp [isWhiteSpace, whiteSpaceRanges]
    omega
  · simp only [List.mem_cons, List.not_mem_nil, or_false] at hother
    rcases hother with rfl | rfl | rfl | rfl <;> decide

theorem IsNumeric.ne_underscore (h : IsNumeric c) : c ≠ '_' := by
  rintro rfl
  exact absurd h (by simp [IsNumeric])

theorem IsNumeric.ne_slash (h : IsNumeric c) : c ≠ '/' := by
  rintro rfl
  exact absurd h (by simp [IsNumeric])

end Text

namespace Number

variable {cs : List Char}

theorem joinGroups?_eq_self (h : '_' ∉ cs) (afterDigit : Bool) :
    joinGroups? afterDigit cs = some cs := by
  induction cs generalizing afterDigit with
  | nil => rfl
  | cons c cs ih =>
    rw [List.mem_cons, not_or] at h
    obtain ⟨hc, hcs⟩ := h
    rw [joinGroups?.eq_def]
    dsimp only
    rw [if_neg (Ne.symm hc), ih hcs, Option.map_some]

/-- Numbers are written without blanks and underscores. -/
theorem compact?_eq_self (h : ∀ c ∈ cs, Text.IsNumeric c) : compact? cs = some cs := by
  rw [compact?, Text.trimBoth_eq_self fun c hc => (h c hc).isWhiteSpace_eq_false]
  exact joinGroups?_eq_self (fun hmem => (h _ hmem).ne_underscore rfl) false

theorem isNumeric_of_mem_digits {n : ℕ} {c : Char} (h : c ∈ digits n) : Text.IsNumeric c :=
  .inl (charIsDigit_of_mem_digits h)

theorem isDigit_or_eq_of_mem_intText {n : ℤ} {c : Char} (h : c ∈ intText n) :
    c.isDigit = true ∨ c = '-' := by
  unfold intText at h
  split_ifs at h
  · rcases List.mem_cons.mp h with rfl | hdigit
    · exact .inr rfl
    · exact .inl (charIsDigit_of_mem_digits hdigit)
  · exact .inl (charIsDigit_of_mem_digits h)

theorem point_not_mem_intText (n : ℤ) : '.' ∉ intText n := by
  intro h
  rcases isDigit_or_eq_of_mem_intText h with hdigit | hminus
  · exact absurd hdigit (by decide)
  · exact absurd hminus (by decide)

theorem isNumeric_of_mem_intText {n : ℤ} {c : Char} (h : c ∈ intText n) : Text.IsNumeric c := by
  rcases isDigit_or_eq_of_mem_intText h with hdigit | rfl
  · exact .inl hdigit
  · exact .inr (by simp)

/-- An integer is read back from its numeral by the lenient reader too. -/
theorem readLooseInt_intText? {n : ℤ} (h : intText? n = some cs) : readLooseInt cs = .value n := by
  have hnumeric : ∀ c ∈ cs, Text.IsNumeric c := by
    rw [intText?_eq_some h]
    exact fun c => isNumeric_of_mem_intText
  rw [readLooseInt, compact?_eq_self hnumeric]
  exact readInt_intText? h

theorem exists_intText?_of_readLooseInt {n : ℤ} (h : readLooseInt cs = .value n) :
    ∃ text, intText? n = some text := by
  unfold readLooseInt at h
  split at h
  · exact exists_intText?_of_readInt h
  · cases h

theorem exists_mark_intText (n : ℤ) : ∃ c rest, intText n = c :: rest ∧ Text.IsMark c := by
  unfold intText
  split_ifs
  · exact ⟨'-', _, rfl, by decide⟩
  · obtain ⟨c, rest, hdigits⟩ := List.exists_cons_of_ne_nil (digits_ne_nil n.natAbs)
    have hmem : c ∈ digits n.natAbs := by
      rw [hdigits]
      exact List.mem_cons_self
    exact ⟨c, rest, hdigits, Text.isMark_of_isDigit (charIsDigit_of_mem_digits hmem)⟩

end Number

namespace Decimal

variable {d : Decimal} {c : Char}

theorem isNumeric_of_mem_zeros {n : ℕ} (h : c ∈ zeros n) : Text.IsNumeric c := by
  rw [List.eq_of_mem_replicate h]
  exact .inl (by decide)

theorem isNumeric_of_mem_positional (h : c ∈ d.positional) : Text.IsNumeric c := by
  have hpoint : Text.IsNumeric '.' := .inr (by simp)
  unfold positional at h
  dsimp only at h
  split_ifs at h
  · exact isNumeric_of_mem_digits h
  · rcases List.mem_append.mp h with hdigit | hzero
    · exact isNumeric_of_mem_digits hdigit
    · exact isNumeric_of_mem_zeros hzero
  · rcases List.mem_append.mp h with hwhole | hfraction
    · exact isNumeric_of_mem_digits (List.mem_of_mem_take hwhole)
    · rcases List.mem_cons.mp hfraction with rfl | hdigit
      · exact hpoint
      · exact isNumeric_of_mem_digits (List.mem_of_mem_drop hdigit)
  · rcases List.mem_append.mp h with hfront | hdigit
    · rcases List.mem_cons.mp hfront with rfl | hzeros
      · exact .inl (by decide)
      · rcases List.mem_cons.mp hzeros with rfl | hzero
        · exact hpoint
        · exact isNumeric_of_mem_zeros hzero
    · exact isNumeric_of_mem_digits hdigit

theorem isNumeric_of_mem_positionalWithPoint (h : c ∈ d.positionalWithPoint) :
    Text.IsNumeric c := by
  unfold positionalWithPoint at h
  split_ifs at h
  · rcases List.mem_append.mp h with hwhole | hfraction
    · exact isNumeric_of_mem_positional hwhole
    · simp only [List.mem_cons, List.not_mem_nil, or_false] at hfraction
      rcases hfraction with rfl | rfl
      · exact .inr (by simp)
      · exact .inl (by decide)
  · exact isNumeric_of_mem_positional h

theorem point_mem_positionalWithPoint (d : Decimal) : '.' ∈ d.positionalWithPoint := by
  unfold positionalWithPoint
  split_ifs with h
  · simp
  · unfold positional
    rw [if_neg h]
    dsimp only
    split_ifs <;> simp

theorem e_mem_scientific (d : Decimal) (width : ℕ) : 'e' ∈ d.scientific width := by
  simp [scientific]

theorem isNumeric_of_mem_scientific {width : ℕ} (h : c ∈ d.scientific width) :
    Text.IsNumeric c := by
  obtain ⟨mantissa, -, hmantissa, hscientific⟩ := d.exists_mantissa
  rw [hscientific] at h
  rcases List.mem_append.mp h with hfront | hback
  · rcases hmantissa c hfront with hdigit | rfl
    · exact isNumeric_of_mem_digits hdigit
    · exact .inr (by simp)
  · rcases List.mem_cons.mp hback with rfl | hback
    · exact .inr (by simp)
    · rcases List.mem_cons.mp hback with rfl | hback
      · split_ifs <;> exact .inr (by simp)
      · rcases List.mem_append.mp hback with hzero | hdigit
        · exact isNumeric_of_mem_zeros hzero
        · exact isNumeric_of_mem_digits hdigit

end Decimal

namespace Binary64

variable {x : Binary64}

/-- A finite value is read back from its text. -/
theorem readFloat?_text (h : x.isFinite = true) : readFloat? x.text = some x := by
  cases x with
  | nan _ => cases h
  | infinite _ => cases h
  | finite negative code hcode =>
    rw [text, render]
    split
    · obtain ⟨k, hk⟩ := (shortest code).plainNumeral_positionalWithPoint
      rw [hk.readFloat?_signed, ofDecimal_mul_pow, sub_add_cancel, ofDecimal_shortest hcode]
    · rw [Decimal.readFloat?_scientific, ofDecimal_shortest hcode]

theorem mem_signed {negative : Bool} {c : Char} {cs : List Char} (h : c ∈ cs) :
    c ∈ signed negative cs := by
  cases negative with
  | false => exact h
  | true => exact List.mem_cons_of_mem _ h

theorem point_or_e_mem_text (h : x.isFinite = true) : '.' ∈ x.text ∨ 'e' ∈ x.text := by
  cases x with
  | nan _ => cases h
  | infinite _ => cases h
  | finite negative code hcode =>
    rw [text, render]
    split
    · exact .inl (mem_signed (Decimal.point_mem_positionalWithPoint _))
    · exact .inr (mem_signed (Decimal.e_mem_scientific _ _))

theorem isNumeric_of_mem_text (h : x.isFinite = true) {c : Char} (hc : c ∈ x.text) :
    Text.IsNumeric c := by
  cases x with
  | nan _ => cases h
  | infinite _ => cases h
  | finite negative code hcode =>
    have hsigned {cs : List Char} (hcs : ∀ c ∈ cs, Text.IsNumeric c) :
        ∀ c ∈ signed negative cs, Text.IsNumeric c := by
      cases negative with
      | false => exact hcs
      | true => exact List.forall_mem_cons.mpr ⟨.inr (by simp), hcs⟩
    rw [text, render] at hc
    split at hc
    · exact hsigned (fun _ => Decimal.isNumeric_of_mem_positionalWithPoint) c hc
    · exact hsigned (fun _ => Decimal.isNumeric_of_mem_scientific) c hc

theorem slash_not_mem_text (x : Binary64) : '/' ∉ x.text := by
  cases x with
  | nan payload =>
    change '/' ∉ "nan".toList
    decide
  | infinite negative => cases negative <;> decide
  | finite negative code hcode =>
    intro h
    have hfinite : (finite negative code hcode).isFinite = true := rfl
    exact (isNumeric_of_mem_text hfinite h).ne_slash rfl

theorem exists_text_finite (negative : Bool) {code : ℕ} (h : code < finiteCount) :
    ∃ c rest, text (finite negative code h) = signed negative (c :: rest) ∧
      Text.isDigit c = true := by
  rw [text, render]
  split
  · obtain ⟨k, hk⟩ := (shortest code).plainNumeral_positionalWithPoint
    obtain ⟨c, rest, hcs, hc⟩ := hk.exists_cons
    exact ⟨c, rest, by rw [hcs], hc⟩
  · obtain ⟨mantissa, hmantissa, -, hscientific⟩ := (shortest code).exists_mantissa
    obtain ⟨c, rest, rfl, hc⟩ := hmantissa.exists_cons
    exact ⟨c, _, by rw [hscientific]; rfl, hc⟩

/-- The text of a finite value begins with a digit or a minus. -/
theorem exists_mark_text (h : x.isFinite = true) :
    ∃ c rest, x.text = c :: rest ∧ Text.IsMark c := by
  cases x with
  | nan _ => cases h
  | infinite _ => cases h
  | finite negative code hcode =>
    obtain ⟨c, rest, htext, hc⟩ := exists_text_finite negative hcode
    cases negative with
    | true => exact ⟨'-', c :: rest, htext, by decide⟩
    | false =>
      have hmem : c ∈ text (finite false code hcode) := by
        rw [htext]
        exact List.mem_cons_self
      exact ⟨c, rest, htext, (isNumeric_of_mem_text h hmem).isMark hc⟩

/-- The lenient reader reads a finite value back from its text too. -/
theorem readLooseFloat?_text (h : x.isFinite = true) : readLooseFloat? x.text = some x := by
  rw [readLooseFloat?, compact?_eq_self fun c => isNumeric_of_mem_text h]
  exact readFloat?_text h

/-- Where a finite value is written without a point, it is not written as an integer either. -/
theorem readLooseInt_text (h : x.isFinite = true) (hpoint : '.' ∉ x.text) :
    readLooseInt x.text = .notNumeral := by
  rw [readLooseInt, compact?_eq_self fun c => isNumeric_of_mem_text h]
  exact readInt_of_mem ((point_or_e_mem_text h).resolve_left hpoint) (by decide) (by decide)

end Binary64
end TypedRoutes
