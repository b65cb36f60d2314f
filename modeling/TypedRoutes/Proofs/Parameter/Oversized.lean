import Mathlib.Tactic.FieldSimp
import TypedRoutes.Proofs.Number.Overflow
import TypedRoutes.Proofs.Parameter.Codec

/-!
# Oversized numbers

Whatever text a placeholder matches can be read, but for numbers that are too large: integers with
more digits than a numeral may have, and floating-point numerals whose exact value is rounded to
infinity.
-/
namespace TypedRoutes

namespace Number

/-- The exact value of digits, a point and further digits. -/
def plainValue (cs : List Char) : ℚ :=
  let fraction := (cs.dropWhile Text.isDigit).drop 1
  ofDigits (cs.takeWhile Text.isDigit) + ofDigits fraction / 10 ^ fraction.length

end Number

/-- Whether a text that a placeholder of a kind matches is a number that is too large. -/
def Kind.Oversized (kind : Kind) (cs : List Char) : Prop :=
  match kind with
  | .integer => Number.numeralLimit < cs.length
  | .float => Binary64.overflowThreshold ≤ Number.plainValue cs
  | .boolean | .text => False

theorem PlainNumeral.plainValue_eq {cs : List Char} {coefficient : ℕ} {exponent : ℤ}
    (h : PlainNumeral cs coefficient exponent) :
    Number.plainValue cs = coefficient * 10 ^ exponent := by
  unfold Number.plainValue
  cases h with
  | whole nonempty digits =>
    rw [Number.takeWhile_isDigit digits, Number.dropWhile_isDigit digits]
    simp [Number.ofDigits]
  | @pointed ds fs nonempty digits _ _ =>
    rw [Number.takeWhile_isDigit_point digits, Number.dropWhile_isDigit_point digits,
      List.drop_one, List.tail_cons, Number.ofDigits_append, zpow_neg, zpow_natCast]
    field_simp
    push_cast
    rfl

namespace Kind

variable {kind : Kind} {text : String}

/-- A matched text cannot be read exactly if it is a number that is too large. -/
theorem decode?_eq_none_iff (h : kind.matchesText text.toList = true) :
    kind.decode? text = none ↔ kind.Oversized text.toList := by
  cases kind with
  | boolean =>
    obtain ⟨b, hb⟩ := matchesText_boolean_iff.mp h
    rw [String.toList_inj] at hb
    simp [decode?, hb, readBoolean?_word, Oversized]
  | integer =>
    obtain ⟨hne, hdigits⟩ := matchesText_integer_iff.mp h
    have hread := Number.readInt_of_splitSign (Number.splitSign_of_digits hdigits) hne hdigits
    rw [decode?, hread, Oversized]
    split_ifs with hlimit
    · simpa using hlimit
    · simpa using hlimit
  | float =>
    obtain ⟨c, e, hplain⟩ := PlainNumeral.exists_of_matchesText h
    have hread : Number.readFloat? text.toList = some (Binary64.ofDecimal false c e) :=
      hplain.readFloat?_signed false
    rw [decode?, hread, Option.bind_some, Oversized, hplain.plainValue_eq, ← not_lt,
      ← Binary64.isFinite_ofDecimal_iff false]
    split_ifs with hfinite <;> simp [hfinite]
  | text => simp [decode?, Oversized]

/-- The attempt to read a matched text fails exactly if it is a number that is too large. -/
theorem exists_decode_eq_error_iff (h : kind.matchesText text.toList = true) :
    (∃ fault, kind.decode text = .error fault) ↔ kind.Oversized text.toList := by
  rw [← decode?_eq_none_iff h, decode]
  cases kind.decode? text <;> simp

end Kind
end TypedRoutes
