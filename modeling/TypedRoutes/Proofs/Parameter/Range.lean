import TypedRoutes.Proofs.Number.Rounding
import TypedRoutes.Proofs.Route.Generation

/-!
# The range of a kind in a path

Every value of a kind is read back from its text, and only an integer beyond the limit of numerals
has no text. A placeholder refuses the texts of the negative numbers, of minus zero and of the empty
text, and no others.
-/
namespace TypedRoutes

/-! ## Sign -/

/-- Whether a scalar is a number below zero. Minus zero is not. -/
def Scalar.IsNegative : Scalar → Prop
  | .integer n => n < 0
  | .float (.finite negative code _) => Binary64.signedUnits negative code < 0
  | .float (.infinite negative) => negative = true
  | _ => False

namespace Binary64

theorem signedUnits_neg_iff {negative : Bool} {code : ℕ} :
    signedUnits negative code < 0 ↔ negative = true ∧ 0 < code := by
  rcases Nat.eq_zero_or_pos code with rfl | hcode
  · cases negative <;> decide
  · have hunits := units_pos hcode
    cases negative with
    | false => simp [signedUnits, Number.withSign]
    | true => simp [signedUnits, Number.withSign, hunits, hcode]

/-- A sign bit belongs to a number below zero or to minus zero. -/
theorem isNegative_iff {x : Binary64} (h : x.isFinite = true) :
    x.isNegative = true ↔ (Scalar.float x).IsNegative ∨ x = zero true := by
  cases x with
  | nan _ => cases h
  | infinite _ => cases h
  | finite negative code hcode =>
    have hcode := Nat.eq_zero_or_pos code
    simp only [isNegative, Scalar.IsNegative, signedUnits_neg_iff, zero, finite.injEq]
    tauto

end Binary64

/-! ## Texts -/

namespace Scalar

variable {scalar : Scalar} {kind : Kind}

theorem encode?_eq_none_iff :
    scalar.encode? = none ↔
      ∃ n, scalar = .integer n ∧ Number.numeralLimit < Number.digitCount n.natAbs := by
  cases scalar with
  | boolean | float | text => simp [encode?]
  | integer n => simp [encode?, Number.intText?]

theorem isMatchable_eq_false_iff (h : kind.accepts scalar = true) :
    scalar.isMatchable = false ↔
      scalar.IsNegative ∨ scalar = .float (.zero true) ∨ scalar = .text "" := by
  cases scalar with
  | boolean => simp [isMatchable, IsNegative]
  | integer n => simp [isMatchable, IsNegative]
  | float x =>
    have hfinite : x.isFinite = true := by
      cases kind with
      | float => exact h
      | boolean | integer | text => cases h
    simp [isMatchable, Binary64.isNegative_iff hfinite]
  | text s => simp [isMatchable, IsNegative]

end Scalar

/-- A value of a kind is read back from its text, which placeholders of the kind refuse exactly if
the value is a negative number, minus zero or the empty text. -/
theorem Kind.codec_range {kind : Kind} {value : Value} {scalar : Scalar}
    (h : value.supplies? kind = some scalar) :
    (scalar.encode? = none ↔
      ∃ n, scalar = .integer n ∧ Number.numeralLimit < Number.digitCount n.natAbs) ∧
    ∀ text, scalar.encode? = some text →
      kind.decode (String.ofList text) = .ok scalar ∧
      (kind.matchesText text = false ↔
        scalar.IsNegative ∨ scalar = .float (.zero true) ∨ scalar = .text "") := by
  have haccepts := (Value.of_supplies? h).2
  refine ⟨Scalar.encode?_eq_none_iff, ?_⟩
  intro text htext
  constructor
  · simp [decode, decode?_encode? haccepts htext]
  · rw [matchesText_encode? haccepts htext]
    exact Scalar.isMatchable_eq_false_iff haccepts

/-- A typed minus zero is written with its sign and read back with it, and no placeholder for
floating-point values matches it. -/
theorem Kind.codec_range_minus_zero :
    (Value.typed ⟨.float, .float (.zero true), by decide⟩).supplies? .float =
      some (.float (.zero true)) ∧
    Kind.float.decode "-0.0" = .ok (.float (.zero true)) ∧
    Kind.float.matchesText "-0.0".toList = false := by
  have hvalue : (Value.typed ⟨.float, .float (.zero true), by decide⟩).supplies? .float =
      some (.float (.zero true)) := rfl
  have htext : (Scalar.float (.zero true)).encode? = some "-0.0".toList := by decide +kernel
  have hcodec := (codec_range hvalue).2 _ htext
  exact ⟨hvalue, hcodec.1, hcodec.2.mpr (.inr (.inl rfl))⟩

end TypedRoutes
