import Mathlib.Data.List.TakeWhile
import TypedRoutes.Number.Layout
import TypedRoutes.Number.Reading
import TypedRoutes.Parameter.Form
import TypedRoutes.Proofs.Number.ShortestDecimal

/-!
# Plain notation

A plain numeral has digits and perhaps a point with further digits. These are the texts that a
placeholder for floating-point values matches, and the form in which a value is written in a path.
Every value is read back from that form.
-/
namespace TypedRoutes

/-- A plain numeral with the coefficient and the exponent that are read of it. -/
inductive PlainNumeral : List Char → ℕ → ℤ → Prop
  | whole {ds : List Char} (nonempty : ds ≠ []) (digits : ∀ c ∈ ds, Text.isDigit c = true) :
      PlainNumeral ds (Number.ofDigits ds) 0
  | pointed {ds fs : List Char} (nonempty : ds ≠ []) (digits : ∀ c ∈ ds, Text.isDigit c = true)
      (fraction_nonempty : fs ≠ []) (fraction_digits : ∀ c ∈ fs, Text.isDigit c = true) :
      PlainNumeral (ds ++ '.' :: fs) (Number.ofDigits (ds ++ fs)) (-fs.length)

namespace Number

/-! ## Digits up to a point -/

theorem isDigit_point : Text.isDigit '.' = false := by decide

theorem takeWhile_isDigit {ds : List Char} (h : ∀ c ∈ ds, Text.isDigit c = true) :
    ds.takeWhile Text.isDigit = ds :=
  List.takeWhile_eq_self_iff.mpr h

theorem dropWhile_isDigit {ds : List Char} (h : ∀ c ∈ ds, Text.isDigit c = true) :
    ds.dropWhile Text.isDigit = [] :=
  List.dropWhile_eq_nil_iff.mpr h

theorem takeWhile_isDigit_append {ds : List Char} {c : Char}
    (h : ∀ c ∈ ds, Text.isDigit c = true) (hc : Text.isDigit c = false) (rest : List Char) :
    (ds ++ c :: rest).takeWhile Text.isDigit = ds := by
  rw [List.takeWhile_append_of_pos h, List.takeWhile_cons_of_neg (by simp [hc]), List.append_nil]

theorem dropWhile_isDigit_append {ds : List Char} {c : Char}
    (h : ∀ c ∈ ds, Text.isDigit c = true) (hc : Text.isDigit c = false) (rest : List Char) :
    (ds ++ c :: rest).dropWhile Text.isDigit = c :: rest := by
  rw [List.dropWhile_append_of_pos h, List.dropWhile_cons_of_neg (by simp [hc])]

theorem takeWhile_isDigit_point {ds : List Char} (h : ∀ c ∈ ds, Text.isDigit c = true)
    (rest : List Char) : (ds ++ '.' :: rest).takeWhile Text.isDigit = ds :=
  takeWhile_isDigit_append h isDigit_point rest

theorem dropWhile_isDigit_point {ds : List Char} (h : ∀ c ∈ ds, Text.isDigit c = true)
    (rest : List Char) : (ds ++ '.' :: rest).dropWhile Text.isDigit = '.' :: rest :=
  dropWhile_isDigit_append h isDigit_point rest

theorem areDigits_iff {ds : List Char} :
    areDigits ds = true ↔ ds ≠ [] ∧ ∀ c ∈ ds, Text.isDigit c = true := by
  simp [areDigits]

end Number

namespace PlainNumeral

open Number

variable {cs : List Char} {coefficient : ℕ} {exponent : ℤ}

/-! ## Matching and reading -/

theorem exists_cons (h : PlainNumeral cs coefficient exponent) :
    ∃ c rest, cs = c :: rest ∧ Text.isDigit c = true := by
  cases h with
  | whole nonempty digits =>
    obtain ⟨c, rest, rfl⟩ := List.exists_cons_of_ne_nil nonempty
    exact ⟨c, rest, rfl, digits c List.mem_cons_self⟩
  | @pointed ds fs nonempty digits _ _ =>
    obtain ⟨c, rest, rfl⟩ := List.exists_cons_of_ne_nil nonempty
    exact ⟨c, rest ++ '.' :: fs, rfl, digits c List.mem_cons_self⟩

theorem matchesText (h : PlainNumeral cs coefficient exponent) :
    Kind.float.matchesText cs = true := by
  cases h with
  | whole nonempty digits =>
    simp [Kind.matchesText, takeWhile_isDigit digits, dropWhile_isDigit digits, isFraction,
      areDigits_iff.mpr ⟨nonempty, digits⟩]
  | pointed nonempty digits fraction_nonempty fraction_digits =>
    simp [Kind.matchesText, takeWhile_isDigit_point digits, dropWhile_isDigit_point digits,
      isFraction, areDigits_iff.mpr ⟨nonempty, digits⟩,
      areDigits_iff.mpr ⟨fraction_nonempty, fraction_digits⟩]

theorem exists_of_matchesText (h : Kind.float.matchesText cs = true) :
    ∃ coefficient exponent, PlainNumeral cs coefficient exponent := by
  simp only [Kind.matchesText, Bool.and_eq_true, areDigits_iff] at h
  obtain ⟨⟨hne, hd⟩, hrest⟩ := h
  have hcs : cs.takeWhile Text.isDigit ++ cs.dropWhile Text.isDigit = cs :=
    List.takeWhile_append_dropWhile
  cases hdrop : cs.dropWhile Text.isDigit with
  | nil =>
    rw [hdrop, List.append_nil] at hcs
    rw [hcs] at hne hd
    exact ⟨_, _, whole hne hd⟩
  | cons c fs =>
    rw [hdrop] at hcs hrest
    simp only [isFraction, Bool.and_eq_true, beq_iff_eq, areDigits_iff] at hrest
    obtain ⟨rfl, hfne, hfd⟩ := hrest
    rw [← hcs]
    exact ⟨_, _, pointed hne hd hfne hfd⟩

theorem splitSign_signed (h : PlainNumeral cs coefficient exponent) (negative : Bool) :
    splitSign (Binary64.signed negative cs) = (negative, cs) := by
  cases negative with
  | true => exact splitSign_minus cs
  | false =>
    obtain ⟨c, rest, rfl, hc⟩ := h.exists_cons
    exact splitSign_cons_of_isDigit hc rest

theorem readFloat?_signed (h : PlainNumeral cs coefficient exponent) (negative : Bool) :
    readFloat? (Binary64.signed negative cs) =
      some (Binary64.ofDecimal negative coefficient exponent) := by
  have hsign := h.splitSign_signed negative
  cases h with
  | @whole ds nonempty digits =>
    have hempty : cs.isEmpty = false := by simpa using nonempty
    simp [readFloat?, hsign, takeWhile_isDigit digits, dropWhile_isDigit digits, splitFraction,
      hempty, readExponent?]
  | @pointed ds fs nonempty digits fraction_nonempty fraction_digits =>
    have hempty : ds.isEmpty = false := by simpa using nonempty
    simp [readFloat?, hsign, takeWhile_isDigit_point digits, dropWhile_isDigit_point digits,
      splitFraction, takeWhile_isDigit fraction_digits, dropWhile_isDigit fraction_digits, hempty,
      readExponent?]

end PlainNumeral

namespace Decimal

open Number

/-! ## Writing -/

theorem isDigit_of_mem_zeros {n : ℕ} {c : Char} (h : c ∈ zeros n) : Text.isDigit c = true := by
  rw [List.eq_of_mem_replicate h]
  decide

theorem ofDigits_zeros (n : ℕ) : ofDigits (zeros n) = 0 := by
  have hdigit (c : Char) (hc : c ∈ zeros n) : c.isDigit = true := by
    rw [List.eq_of_mem_replicate hc]
    decide
  exact (ofDigits_eq_ofDigitChars hdigit 0).trans (by simp [zeros])

theorem ofDigits_append_zeros (cs : List Char) (n : ℕ) :
    ofDigits (cs ++ zeros n) = ofDigits cs * 10 ^ n := by
  rw [ofDigits_append, ofDigits_zeros, add_zero, zeros, List.length_replicate]

theorem ofDigits_zeros_append (cs : List Char) (n : ℕ) :
    ofDigits (zeros n ++ cs) = ofDigits cs := by
  rw [ofDigits_append, ofDigits_zeros, zero_mul, zero_add]

/-- The digits of a decimal without a fraction. -/
theorem positional_of_nonneg {d : Decimal} (h : 0 ≤ d.exponent) :
    ∃ ds, ∃ k : ℕ, d.positional = ds ∧ ds ≠ [] ∧ (∀ c ∈ ds, Text.isDigit c = true) ∧
      ofDigits ds = d.coefficient * 10 ^ k ∧ (k : ℤ) = d.exponent := by
  refine ⟨_, d.exponent.toNat, rfl, ?_, ?_, ?_, Int.toNat_of_nonneg h⟩
  all_goals
    unfold positional
    rw [if_pos h]
  · split_ifs <;> simp [digits_ne_nil]
  · intro c hc
    split_ifs at hc
    · exact isDigit_of_mem_digits hc
    · rcases List.mem_append.mp hc with hc | hc
      · exact isDigit_of_mem_digits hc
      · exact isDigit_of_mem_zeros hc
  · split_ifs with hz
    · rw [ofDigits_digits, hz, zero_mul]
    · rw [ofDigits_append_zeros, ofDigits_digits]

/-- A point before the last digits, or before all of them and the zeros that are missing. -/
theorem plainNumeral_divided {ds : List Char} (hd : ∀ c ∈ ds, Text.isDigit c = true) {k : ℕ}
    (hk : 0 < k) :
    PlainNumeral
      (if k < ds.length then ds.take (ds.length - k) ++ '.' :: ds.drop (ds.length - k)
        else '0' :: '.' :: zeros (k - ds.length) ++ ds)
      (ofDigits ds) (-k) := by
  split_ifs with hlen
  · have hfraction : (ds.drop (ds.length - k)).length = k := by
      rw [List.length_drop]
      omega
    have hwhole : ds.take (ds.length - k) ≠ [] := by
      rw [← List.length_pos_iff, List.length_take]
      omega
    have hpointed := PlainNumeral.pointed hwhole (fun c hc => hd c (List.mem_of_mem_take hc))
      (List.length_pos_iff.mp (hk.trans_eq hfraction.symm))
      (fun c hc => hd c (List.mem_of_mem_drop hc))
    rwa [List.take_append_drop, hfraction] at hpointed
  · have hfraction : (zeros (k - ds.length) ++ ds).length = k := by
      rw [List.length_append, zeros, List.length_replicate]
      omega
    have hvalue : ofDigits (['0'] ++ (zeros (k - ds.length) ++ ds)) = ofDigits ds := by
      rw [← List.append_assoc]
      exact ofDigits_zeros_append ds (k - ds.length + 1)
    have hpointed : PlainNumeral (['0'] ++ '.' :: (zeros (k - ds.length) ++ ds)) _ _ :=
      .pointed (by decide) (List.forall_mem_singleton.mpr (by decide))
        (List.length_pos_iff.mp (hk.trans_eq hfraction.symm))
        (fun c hc => (List.mem_append.mp hc).elim isDigit_of_mem_zeros (hd c))
    rwa [hvalue, hfraction] at hpointed

theorem positional_of_neg {d : Decimal} (h : d.exponent < 0) :
    PlainNumeral d.positional d.coefficient d.exponent := by
  have hk : (((-d.exponent).toNat : ℕ) : ℤ) = -d.exponent := Int.toNat_of_nonneg (by omega)
  have hdivided := plainNumeral_divided (fun c => isDigit_of_mem_digits (n := d.coefficient))
    (show 0 < (-d.exponent).toNat by omega)
  rw [ofDigits_digits, hk, neg_neg] at hdivided
  unfold positional
  rwa [if_neg (not_le.mpr h)]

/-- Positional notation is plain and denotes the same number. -/
theorem plainNumeral_positional (d : Decimal) :
    ∃ k : ℕ, PlainNumeral d.positional (d.coefficient * 10 ^ k) (d.exponent - k) := by
  rcases lt_or_ge d.exponent 0 with h | h
  · exact ⟨0, by simpa using positional_of_neg h⟩
  · obtain ⟨ds, k, hds, hne, hd, hvalue, hk⟩ := positional_of_nonneg h
    refine ⟨k, ?_⟩
    rw [hds, ← hvalue, ← hk, sub_self]
    exact .whole hne hd

theorem plainNumeral_positionalWithPoint (d : Decimal) :
    ∃ k : ℕ, PlainNumeral d.positionalWithPoint (d.coefficient * 10 ^ k) (d.exponent - k) := by
  unfold positionalWithPoint
  split_ifs with h
  · obtain ⟨ds, k, hds, hne, hd, hvalue, hk⟩ := positional_of_nonneg h
    refine ⟨k + 1, ?_⟩
    have hpointed : PlainNumeral (ds ++ '.' :: zeros 1) _ _ :=
      .pointed hne hd (by decide) (fun c hc => isDigit_of_mem_zeros hc)
    rw [ofDigits_append_zeros, hvalue, mul_assoc, ← pow_add] at hpointed
    rw [hds, ← hk, show (k : ℤ) - ↑(k + 1) = -1 by omega]
    exact hpointed
  · exact ⟨0, by simpa using positional_of_neg (not_le.mp h)⟩

end Decimal

namespace Binary64

/-- The text of a finite value in a path: a plain numeral of its shortest decimal behind the
sign. -/
theorem plainText_finite (negative : Bool) {code : ℕ} (h : code < finiteCount) :
    ∃ cs, ∃ k : ℕ, plainText (finite negative code h) = signed negative cs ∧
      PlainNumeral cs ((shortest code).coefficient * 10 ^ k) ((shortest code).exponent - k) := by
  simp only [plainText]
  split_ifs
  · obtain ⟨k, hk⟩ := (shortest code).plainNumeral_positionalWithPoint
    exact ⟨_, k, rfl, hk⟩
  · obtain ⟨k, hk⟩ := (shortest code).plainNumeral_positional
    exact ⟨_, k, rfl, hk⟩

/-- A finite value is read back from its text in a path. -/
theorem readFloat?_plainText {x : Binary64} (h : x.isFinite = true) :
    Number.readFloat? x.plainText = some x := by
  cases x with
  | nan _ => cases h
  | infinite _ => cases h
  | finite negative code hcode =>
    obtain ⟨cs, k, htext, hplain⟩ := plainText_finite negative hcode
    rw [htext, hplain.readFloat?_signed, ofDecimal_mul_pow, sub_add_cancel,
      ofDecimal_shortest hcode]

end Binary64
end TypedRoutes
