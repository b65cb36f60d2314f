import TypedRoutes.Parameter.Codec
import TypedRoutes.Proofs.Number.Notation
import TypedRoutes.Proofs.Text.Percent

/-!
# Writing and reading parameters

A scalar is read back from its text, whatever its kind. The text is one that a placeholder matches
unless the scalar has a sign or is the empty text, and what is read of a matched text is always a
scalar that can be written again.
-/
namespace TypedRoutes

/-- Whether a scalar can stand in a path: it has no sign, and it is not the empty text. -/
def Scalar.isMatchable : Scalar → Bool
  | .boolean _ => true
  | .integer n => 0 ≤ n
  | .float x => !x.isNegative
  | .text s => s != ""

namespace Kind

/-! ## Truth values -/

theorem readBoolean?_word (b : Bool) : readBoolean? (if b then "true" else "false") = some b := by
  cases b <;> decide

theorem encode?_boolean (b : Bool) :
    Scalar.encode? (.boolean b) = some (if b then "true" else "false").toList := by
  cases b <;> rfl

theorem matchesText_boolean_iff {cs : List Char} :
    boolean.matchesText cs = true ↔ ∃ b, cs = (if b = true then "true" else "false").toList := by
  simp only [matchesText, Bool.or_eq_true, beq_iff_eq, Bool.exists_bool]
  exact or_comm

/-! ## Integers -/

theorem matchesText_integer_iff {cs : List Char} :
    integer.matchesText cs = true ↔ cs ≠ [] ∧ ∀ c ∈ cs, Text.isDigit c = true :=
  Number.areDigits_iff

theorem matchesText_minus (kind : Kind) (hkind : kind = integer ∨ kind = float) (cs : List Char) :
    kind.matchesText ('-' :: cs) = false := by
  have hminus : Text.isDigit '-' = false := by decide
  rcases hkind with rfl | rfl <;> simp [matchesText, areDigits, hminus]

theorem matchesText_intText (n : ℤ) :
    integer.matchesText (Number.intText n) = decide (0 ≤ n) := by
  unfold Number.intText
  split_ifs with hneg
  · rw [matchesText_minus integer (.inl rfl)]
    simpa using hneg
  · rw [matchesText_integer_iff.mpr ⟨Number.digits_ne_nil _, fun _ => Number.isDigit_of_mem_digits⟩]
    simpa using hneg

/-- An integer that is read of matched digits has no sign and as few digits as they are. -/
theorem readInt_of_matchesText {cs : List Char} {n : ℤ} (hm : integer.matchesText cs = true)
    (hread : Number.readInt cs = .value n) : 0 ≤ n ∧ (Number.intText? n).isSome = true := by
  refine ⟨?_, Option.isSome_iff_exists.mpr (Number.exists_intText?_of_readInt hread)⟩
  obtain ⟨hne, hd⟩ := matchesText_integer_iff.mp hm
  rw [Number.readInt_of_splitSign (Number.splitSign_of_digits hd) hne hd] at hread
  split_ifs at hread with hlimit
  injection hread with hn
  rw [Number.withSign, if_neg Bool.false_ne_true] at hn
  omega

/-! ## Floating-point values -/

theorem matchesText_plainText {x : Binary64} (h : x.isFinite = true) :
    float.matchesText x.plainText = !x.isNegative := by
  cases x with
  | nan _ => cases h
  | infinite _ => cases h
  | finite negative code hcode =>
    obtain ⟨cs, k, htext, hplain⟩ := Binary64.plainText_finite negative hcode
    rw [htext]
    cases negative with
    | true => exact matchesText_minus float (.inr rfl) cs
    | false => exact hplain.matchesText

theorem isNegative_ofDecimal (negative : Bool) (c : ℕ) (e : ℤ) :
    (Binary64.ofDecimal negative c e).isNegative = negative := by
  obtain ⟨code, hcode⟩ := Binary64.exists_ofDecimal_eq_ofCode c e
  rw [hcode, Binary64.ofCode]
  split_ifs <;> rfl

theorem readFloat?_of_matchesText {cs : List Char} {x : Binary64}
    (hm : float.matchesText cs = true) (hread : Number.readFloat? cs = some x) :
    x.isNegative = false := by
  obtain ⟨c, e, hplain⟩ := PlainNumeral.exists_of_matchesText hm
  have hvalue : Number.readFloat? cs = some (Binary64.ofDecimal false c e) :=
    hplain.readFloat?_signed false
  rw [hread] at hvalue
  rw [Option.some.inj hvalue, isNegative_ofDecimal]

/-! ## All kinds -/

theorem decode_eq_ok_iff {kind : Kind} {s : String} {value : Scalar} :
    kind.decode s = .ok value ↔ kind.decode? s = some value := by
  unfold decode
  cases kind.decode? s <;> simp

theorem accepts_of_decode? {kind : Kind} {s : String} {value : Scalar}
    (h : kind.decode? s = some value) : kind.accepts value = true := by
  cases kind with
  | boolean =>
    obtain ⟨b, -, rfl⟩ := Option.map_eq_some_iff.mp h
    rfl
  | float =>
    obtain ⟨x, -, hx⟩ := Option.bind_eq_some_iff.mp h
    split_ifs at hx with hfinite
    rw [← Option.some.inj hx]
    exact hfinite
  | integer =>
    simp only [decode?] at h
    split at h
    · rw [← Option.some.inj h]
      rfl
    · cases h
  | text =>
    rw [← Option.some.inj h]
    rfl

/-- A scalar is read back from its text. -/
theorem decode?_encode? {kind : Kind} {value : Scalar} {cs : List Char}
    (hkind : kind.accepts value = true) (h : value.encode? = some cs) :
    kind.decode? (String.ofList cs) = some value := by
  cases value with
  | boolean b =>
    cases kind <;> cases hkind
    rw [encode?_boolean] at h
    rw [← Option.some.inj h, String.ofList_toList]
    simp [decode?, readBoolean?_word]
  | integer n =>
    cases kind <;> cases hkind
    simp [decode?, Number.readInt_intText? h]
  | float x =>
    cases kind with
    | float =>
      rw [← Option.some.inj h]
      simp only [accepts] at hkind
      simp [decode?, Binary64.readFloat?_plainText hkind, hkind]
    | boolean | integer | text => cases hkind
  | text s =>
    cases kind <;> cases hkind
    rw [← Option.some.inj h]
    simp [decode?, Percent.decode_encode]

/-- A placeholder matches the text of a scalar unless that has a sign or is empty. -/
theorem matchesText_encode? {kind : Kind} {value : Scalar} {cs : List Char}
    (hkind : kind.accepts value = true) (h : value.encode? = some cs) :
    kind.matchesText cs = value.isMatchable := by
  cases value with
  | boolean b =>
    cases kind <;> cases hkind
    rw [encode?_boolean] at h
    exact matchesText_boolean_iff.mpr ⟨b, (Option.some.inj h).symm⟩
  | integer n =>
    cases kind <;> cases hkind
    rw [Number.intText?_eq_some h]
    exact matchesText_intText n
  | float x =>
    cases kind with
    | float =>
      rw [← Option.some.inj h]
      exact matchesText_plainText hkind
    | boolean | integer | text => cases hkind
  | text s =>
    cases kind <;> cases hkind
    rw [← Option.some.inj h]
    have hempty : (Percent.encode s.toList).isEmpty = (s == "") := by
      rw [Bool.eq_iff_iff]
      simp [Percent.encode_eq_nil_iff]
    simp [matchesText, Percent.isUrlText_encode, hempty, Scalar.isMatchable, bne]

/-- What is read can be written. -/
theorem exists_encode?_of_decode? {kind : Kind} {text : String} {value : Scalar}
    (h : kind.decode? text = some value) : ∃ cs, value.encode? = some cs := by
  have haccepts := accepts_of_decode? h
  cases value with
  | boolean | float | text => exact ⟨_, rfl⟩
  | integer n =>
    cases kind with
    | integer =>
      simp only [decode?] at h
      split at h
      next m hread =>
        cases h
        exact Number.exists_intText?_of_readInt hread
      · cases h
    | boolean | float | text => cases haccepts

/-- What is read of a matched text can be written, and a placeholder matches what is written. -/
theorem encode?_of_matchesText {kind : Kind} {cs : List Char} {value : Scalar}
    (hm : kind.matchesText cs = true) (hd : kind.decode? (String.ofList cs) = some value) :
    ∃ text, value.encode? = some text ∧ kind.matchesText text = true := by
  suffices h : value.isMatchable = true ∧ ∃ text, value.encode? = some text by
    obtain ⟨hvalue, text, htext⟩ := h
    exact ⟨text, htext, (matchesText_encode? (accepts_of_decode? hd) htext).trans hvalue⟩
  cases kind with
  | boolean =>
    obtain ⟨b, -, rfl⟩ := Option.map_eq_some_iff.mp hd
    exact ⟨rfl, _, rfl⟩
  | float =>
    obtain ⟨x, hread, hx⟩ := Option.bind_eq_some_iff.mp hd
    split_ifs at hx
    rw [← Option.some.inj hx]
    rw [String.toList_ofList] at hread
    exact ⟨by simp [Scalar.isMatchable, readFloat?_of_matchesText hm hread], _, rfl⟩
  | integer =>
    simp only [decode?, String.toList_ofList] at hd
    split at hd
    next n hread =>
      rw [← Option.some.inj hd]
      obtain ⟨hnonneg, hsome⟩ := readInt_of_matchesText hm hread
      exact ⟨by simpa [Scalar.isMatchable] using hnonneg, Option.isSome_iff_exists.mp hsome⟩
    · cases hd
  | text =>
    simp only [matchesText, Bool.and_eq_true, Bool.not_eq_true', List.isEmpty_eq_false_iff] at hm
    rw [← Option.some.inj hd, String.toList_ofList]
    have hne := Percent.decode_ne_nil hm.1
    exact ⟨by simpa [Scalar.isMatchable, ← String.toList_inj] using hne, _, rfl⟩

end Kind
end TypedRoutes
