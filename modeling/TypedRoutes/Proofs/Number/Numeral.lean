import Mathlib.Data.List.Induction
import Mathlib.Tactic.Ring
import TypedRoutes.Number.Natural

/-!
# Reading and writing numerals

What a numeral denotes is read from its digits, of whatever script, and a number is written with
ASCII digits. The limit on numerals bounds the numbers that can be read by the numbers that can be
written.
-/
namespace TypedRoutes

/-! ## Digits -/

namespace Text

theorem digitValue?_of_isDigit {c : Char} (h : c.isDigit = true) :
    digitValue? c = some (c.toNat - 48) := by
  have hc : 48 ≤ c.toNat ∧ c.toNat < 58 := by
    have hbounds : 48 ≤ c.toNat ∧ c.toNat ≤ 57 := Char.isDigit_iff_toNat.mp h
    omega
  simp [digitValue?, digitZeros, hc.1, hc.2]

theorem isDigit_of_charIsDigit {c : Char} (h : c.isDigit = true) : isDigit c = true := by
  simp [isDigit, digitValue?_of_isDigit h]

end Text

namespace Number

theorem charIsDigit_of_mem_digits {n : ℕ} {c : Char} (h : c ∈ digits n) : c.isDigit = true :=
  Nat.isDigit_of_mem_toDigits (by decide) (by decide) h

theorem isDigit_of_mem_digits {n : ℕ} {c : Char} (h : c ∈ digits n) : Text.isDigit c = true :=
  Text.isDigit_of_charIsDigit (charIsDigit_of_mem_digits h)

theorem digits_ne_nil (n : ℕ) : digits n ≠ [] :=
  Nat.toDigits_ne_nil

theorem digitCount_le_iff {n k : ℕ} (hk : 0 < k) : digitCount n ≤ k ↔ n < 10 ^ k :=
  Nat.length_toDigits_le_iff (by decide) hk

theorem lt_digitCount_of_pow_le {n k : ℕ} (hk : 0 < k) (h : 10 ^ k ≤ n) : k < digitCount n := by
  by_contra hn
  have := (digitCount_le_iff hk).mp (not_lt.mp hn)
  omega

theorem lt_pow_digitCount (n : ℕ) : n < 10 ^ digitCount n :=
  (digitCount_le_iff (List.length_pos_iff.mpr (digits_ne_nil n))).mp le_rfl

theorem pow_le_of_lt_digitCount {n k : ℕ} (hn : 0 < n) (h : k < digitCount n) : 10 ^ k ≤ n := by
  rcases Nat.eq_zero_or_pos k with rfl | hk
  · exact hn
  · by_contra hlt
    exact h.not_ge ((digitCount_le_iff hk).mpr (not_le.mp hlt))

theorem digitCount_mul_ten {n : ℕ} (hn : 0 < n) : digitCount (n * 10) = digitCount n + 1 := by
  have h := Nat.toDigits_append_toDigits (by decide : 1 < 10) hn (by decide : 0 < 10)
  rw [add_zero, mul_comm] at h
  unfold digitCount digits
  rw [← h]
  simp

theorem digitCount_mul_pow {n : ℕ} (hn : 0 < n) (k : ℕ) :
    digitCount (n * 10 ^ k) = digitCount n + k := by
  induction k with
  | zero => simp
  | succ k ih =>
    rw [pow_succ, ← mul_assoc, digitCount_mul_ten (Nat.mul_pos hn (Nat.pow_pos (by decide))), ih]
    omega

/-! ## What digits denote -/

theorem ofDigits_concat (cs : List Char) (c : Char) :
    ofDigits (cs ++ [c]) = 10 * ofDigits cs + (Text.digitValue? c).getD 0 := by
  simp [ofDigits]

theorem ofDigits_append (cs ds : List Char) :
    ofDigits (cs ++ ds) = ofDigits cs * 10 ^ ds.length + ofDigits ds := by
  induction ds using List.reverseRecOn with
  | nil => simp [ofDigits]
  | append_singleton ds d ih =>
    rw [← List.append_assoc, ofDigits_concat, ofDigits_concat, ih, List.length_append,
      List.length_singleton, pow_succ]
    ring

theorem ofDigits_lt (cs : List Char) : ofDigits cs < 10 ^ cs.length := by
  induction cs using List.reverseRecOn with
  | nil => simp [ofDigits]
  | append_singleton cs c ih =>
    have hc : (Text.digitValue? c).getD 0 < 10 := by
      cases h : Text.digitValue? c with
      | none => simp
      | some d => simpa using Text.digitValue?_lt h
    rw [ofDigits_concat, List.length_append, List.length_singleton, pow_succ]
    omega

theorem ofDigits_eq_ofDigitChars {cs : List Char} (h : ∀ c ∈ cs, c.isDigit = true) (init : ℕ) :
    cs.foldl (fun n c => 10 * n + (Text.digitValue? c).getD 0) init =
      Nat.ofDigitChars 10 cs init := by
  induction cs generalizing init with
  | nil => simp
  | cons c cs ih =>
    have hc := Text.digitValue?_of_isDigit (h c List.mem_cons_self)
    rw [List.foldl_cons, ih fun d hd => h d (List.mem_cons_of_mem c hd), Nat.ofDigitChars_cons, hc]
    rfl

theorem ofDigits_digits (n : ℕ) : ofDigits (digits n) = n :=
  (ofDigits_eq_ofDigitChars (fun _ hc => charIsDigit_of_mem_digits hc) 0).trans
    Nat.ofDigitChars_ten_toDigits

theorem digitCount_ofDigits_le {cs : List Char} (h : cs ≠ []) :
    digitCount (ofDigits cs) ≤ cs.length :=
  (digitCount_le_iff (List.length_pos_iff.mpr h)).mpr (ofDigits_lt cs)

/-! ## Integers -/

theorem splitSign_cons_of_isDigit {c : Char} (h : Text.isDigit c = true) (cs : List Char) :
    splitSign (c :: cs) = (false, c :: cs) := by
  have hminus : c ≠ '-' := by
    rintro rfl
    revert h
    decide
  have hplus : c ≠ '+' := by
    rintro rfl
    revert h
    decide
  simp [splitSign, hminus, hplus]

theorem splitSign_of_digits {cs : List Char} (h : ∀ c ∈ cs, Text.isDigit c = true) :
    splitSign cs = (false, cs) := by
  cases cs with
  | nil => rfl
  | cons c cs => exact splitSign_cons_of_isDigit (h c List.mem_cons_self) cs

theorem splitSign_minus (cs : List Char) : splitSign ('-' :: cs) = (true, cs) := by
  simp [splitSign]

/-- What is read of at least one digit behind an optional sign. -/
theorem readInt_of_splitSign {cs body : List Char} {negative : Bool}
    (hsign : splitSign cs = (negative, body)) (hne : body ≠ [])
    (hd : ∀ c ∈ body, Text.isDigit c = true) :
    readInt cs =
      if body.length ≤ numeralLimit then .value (withSign negative (ofDigits body))
      else .tooLong := by
  have hempty : body.isEmpty = false := by simpa using hne
  have hall : body.all Text.isDigit = true := by simpa using hd
  simp [readInt, hsign, hempty, hall]

/-- What is read as an integer can be written. -/
theorem exists_intText?_of_readInt {cs : List Char} {n : ℤ} (h : readInt cs = .value n) :
    ∃ text, intText? n = some text := by
  unfold readInt at h
  rcases hsign : splitSign cs with ⟨negative, body⟩
  rw [hsign] at h
  dsimp only at h
  split_ifs at h with hbody hlimit
  cases h
  have hne : body ≠ [] := by
    rintro rfl
    exact hbody rfl
  have habs (negative : Bool) (k : ℕ) : (withSign negative k).natAbs = k := by
    cases negative <;> simp [withSign]
  refine ⟨_, if_pos ?_⟩
  rw [habs]
  exact (digitCount_ofDigits_le hne).trans hlimit

/-- An integer is read back from its numeral. -/
theorem readInt_intText? {n : ℤ} {cs : List Char} (h : intText? n = some cs) :
    readInt cs = .value n := by
  simp only [intText?, Option.ite_none_right_eq_some, Option.some.injEq] at h
  obtain ⟨hlimit, rfl⟩ := h
  rw [digitCount] at hlimit
  have hd (c : Char) (hc : c ∈ digits n.natAbs) : Text.isDigit c = true := isDigit_of_mem_digits hc
  unfold intText
  split_ifs with hneg
  · rw [readInt_of_splitSign (splitSign_minus _) (digits_ne_nil _) hd, if_pos hlimit,
      ofDigits_digits]
    simp only [withSign, if_pos]
    congr 1
    omega
  · rw [readInt_of_splitSign (splitSign_of_digits hd) (digits_ne_nil _) hd, if_pos hlimit,
      ofDigits_digits]
    simp only [withSign, Bool.false_eq_true, if_false]
    congr 1
    omega

end Number
end TypedRoutes
