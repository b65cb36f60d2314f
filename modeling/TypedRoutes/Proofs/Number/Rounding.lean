import Mathlib.Data.Nat.Log
import Mathlib.Tactic.Ring
import TypedRoutes.Number.Binary64

/-!
# Rounding to a magnitude

Rounding depends on the quotient alone, and it leaves every magnitude as it is. Both facts are
stated on codes, so that no real number is needed.
-/
namespace TypedRoutes
namespace Binary64

theorem octave_eq : octave = 2 ^ 52 := rfl

/-! ## Quotients -/

theorem roundHalfEven_mul (num den : ℕ) {k : ℕ} (hk : 0 < k) :
    roundHalfEven (num * k) (den * k) = roundHalfEven num den := by
  have hlt : den * k < 2 * (num % den * k) ↔ den < 2 * (num % den) := by
    rw [← mul_assoc]
    exact Nat.mul_lt_mul_right hk
  have heq : 2 * (num % den * k) = den * k ↔ 2 * (num % den) = den := by
    rw [← mul_assoc]
    exact Nat.mul_right_cancel_iff hk
  simp only [roundHalfEven, Nat.mul_div_mul_right _ _ hk, Nat.mul_mod_mul_right, hlt, beq_iff_eq,
    Bool.or_eq_true, Bool.and_eq_true, decide_eq_true_eq, heq]

theorem roundHalfEven_mul_self (m : ℕ) {den : ℕ} (hden : 0 < den) :
    roundHalfEven (m * den) den = m := by
  simp [roundHalfEven, Nat.mul_div_cancel _ hden, hden.ne]

theorem nearestCode_mul (num den : ℕ) {k : ℕ} (hk : 0 < k) :
    nearestCode (num * k) (den * k) = nearestCode num den := by
  simp only [nearestCode, Nat.mul_div_mul_right _ _ hk]
  rw [Nat.mul_right_comm den k, roundHalfEven_mul _ _ hk]

/-! ## Magnitudes -/

theorem units_of_lt {code : ℕ} (h : code < 2 * octave) : units code = code :=
  if_pos h

theorem units_of_le {code : ℕ} (h : 2 * octave ≤ code) :
    units code = (code % octave + octave) * 2 ^ (code / octave - 1) :=
  if_neg h.not_gt

theorem units_pos {code : ℕ} (h : 0 < code) : 0 < units code := by
  rcases lt_or_ge code (2 * octave) with hc | hc
  · rwa [units_of_lt hc]
  · rw [units_of_le hc]
    exact Nat.mul_pos (Nat.add_pos_right _ (by decide)) (Nat.two_pow_pos _)

theorem units_lt {code : ℕ} (h : code < finiteCount) : units code < 2 ^ 2098 := by
  have hm : code % octave < octave := Nat.mod_lt _ (by decide)
  rw [octave_eq] at hm
  rcases lt_or_ge code (2 * octave) with hc | hc
  · have hcode : code < 2 ^ 53 := by
      rw [octave_eq] at hc
      omega
    rw [units_of_lt hc]
    exact hcode.trans_le (pow_le_pow_right₀ one_le_two (show 53 ≤ 2098 by decide))
  · have hq : code / octave < 2047 := Nat.div_lt_of_lt_mul (by rwa [mul_comm])
    rw [units_of_le hc]
    calc
      _ < 2 ^ 53 * 2 ^ (code / octave - 1) := by
        apply Nat.mul_lt_mul_of_pos_right _ (Nat.two_pow_pos _)
        rw [octave_eq]
        omega
      _ = 2 ^ (53 + (code / octave - 1)) := (pow_add ..).symm
      _ ≤ 2 ^ 2098 := pow_le_pow_right₀ one_le_two (by omega)

theorem log2_eq_of_bounds {u k : ℕ} (hlow : 2 ^ k ≤ u) (hhigh : u < 2 ^ (k + 1)) :
    Nat.log2 u = k := by
  have hu : u ≠ 0 := by
    have := Nat.two_pow_pos k
    omega
  exact (Nat.log2_eq_iff hu).mpr ⟨hlow, hhigh⟩

/-- A magnitude above the subnormal ones has a mantissa between one octave and two. -/
theorem nearestCode_scaled_mantissa {m s : ℕ} (hlow : octave ≤ m) (hhigh : m < 2 * octave) :
    nearestCode (m * 2 ^ s) 1 = s * octave + m := by
  have hlog : Nat.log2 (m * 2 ^ s) = 52 + s := by
    rw [octave_eq] at hlow hhigh
    apply log2_eq_of_bounds
    · rw [pow_add]
      exact Nat.mul_le_mul_right _ hlow
    · rw [show 52 + s + 1 = 53 + s by omega, pow_add]
      exact Nat.mul_lt_mul_of_pos_right hhigh (Nat.two_pow_pos s)
  have hround : roundHalfEven (m * 2 ^ s) (2 ^ s) = m :=
    roundHalfEven_mul_self m (Nat.two_pow_pos s)
  simp only [nearestCode, Nat.div_one, hlog, Nat.add_sub_cancel_left, one_mul, Nat.pow_eq, hround]

theorem nearestCode_units (code : ℕ) : nearestCode (units code) 1 = code := by
  rcases lt_or_ge code (2 * octave) with hc | hc
  · have hshift : Nat.log2 code - 52 = 0 := by
      rw [octave_eq] at hc
      rcases Nat.eq_zero_or_pos code with rfl | hpos
      · rfl
      · have := (Nat.log2_lt hpos.ne').mpr (show code < 2 ^ 53 by omega)
        omega
    have hround : roundHalfEven (code * 1) 1 = code := roundHalfEven_mul_self code one_pos
    rw [mul_one] at hround
    simp [nearestCode, units_of_lt hc, hshift, hround]
  · have hm : code % octave < octave := Nat.mod_lt _ (by decide)
    have hq : 2 ≤ code / octave := (Nat.le_div_iff_mul_le (by decide)).mpr hc
    rw [units_of_le hc, nearestCode_scaled_mantissa (by omega) (by omega)]
    calc
      _ = (code / octave - 1 + 1) * octave + code % octave := by ring
      _ = code / octave * octave + code % octave := by rw [Nat.sub_add_cancel (by omega)]
      _ = code := Nat.div_add_mod' code octave

/-- A magnitude that is given as a quotient is nearest to itself. -/
theorem nearestCode_units_mul (code : ℕ) {den : ℕ} (hden : 0 < den) :
    nearestCode (units code * den) den = code := by
  have h := nearestCode_mul (units code) 1 hden
  rw [one_mul, nearestCode_units] at h
  exact h

end Binary64
end TypedRoutes
