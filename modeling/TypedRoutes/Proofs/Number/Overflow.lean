import Mathlib.Algebra.Order.Field.Power
import Mathlib.Tactic.NormNum
import TypedRoutes.Proofs.Number.ShortestDecimal

/-!
# Overflow

A decimal is rounded to infinity exactly if it reaches a threshold halfway between the greatest
finite magnitude and the power of two above it. A decimal on the threshold is a tie, which goes to
the power of two.
-/
namespace TypedRoutes
namespace Binary64

/-- The least number that is rounded to infinity. -/
def overflowThreshold : ℚ :=
  (2 ^ 54 - 1) * 2 ^ 970

/-! ## Codes -/

/-- A quotient is rounded to an even number or above it from half below that number on. -/
theorem le_roundHalfEven_iff {num den k : ℕ} (hden : 0 < den) (heven : k % 2 = 0) :
    k ≤ roundHalfEven num den ↔ 2 * (k * den) ≤ 2 * num + den := by
  have hnum : num = num / den * den + num % den := (Nat.div_add_mod' num den).symm
  have hrest : num % den < den := Nat.mod_lt num hden
  unfold roundHalfEven
  dsimp only
  generalize num / den = q at *
  generalize num % den = r at *
  subst hnum
  rcases lt_trichotomy k (q + 1) with hk | rfl | hk
  · have hmul : k * den ≤ q * den := Nat.mul_le_mul_right den (Nat.lt_succ_iff.mp hk)
    split <;> omega
  · -- The even number is the upper one of the two, which a tie goes to.
    have hmul : (q + 1) * den = q * den + den := Nat.succ_mul q den
    have hodd : q % 2 = 1 := by omega
    simp only [hodd, Bool.or_eq_true, Bool.and_eq_true, decide_eq_true_eq, beq_iff_eq, and_true]
    split <;> omega
  · have hmul : (q + 2) * den ≤ k * den := Nat.mul_le_mul_right den hk
    have hadd : (q + 2) * den = q * den + 2 * den := Nat.add_mul q 2 den
    split <;> omega

theorem roundHalfEven_le {num den k : ℕ} (h : num < k * den) : roundHalfEven num den ≤ k := by
  have hq : num / den < k := Nat.div_lt_of_lt_mul (by rwa [mul_comm])
  unfold roundHalfEven
  dsimp only
  split <;> omega

theorem mul_two_pow_add (den k n : ℕ) : den * 2 ^ (k + n) = 2 ^ n * (den * 2 ^ k) := by
  rw [pow_add]
  ring

theorem two_mul_two_pow_le (den : ℕ) {k n : ℕ} (h : k < n) : 2 * (den * 2 ^ k) ≤ den * 2 ^ n :=
  (mul_two_pow_add den k 1).ge.trans
    (Nat.mul_le_mul_left den (Nat.pow_le_pow_right two_pos h))

/-- A quotient is rounded on a scale on which it has at most 53 binary digits. -/
theorem lt_of_log2_shift {num den shift : ℕ} (hden : 0 < den)
    (hshift : Nat.log2 (num / den) - 52 = shift) : num < 2 ^ 53 * (den * 2 ^ shift) := by
  have hquotient : num / den < 2 ^ (shift + 53) :=
    Nat.lt_log2_self.trans_le (Nat.pow_le_pow_right two_pos (by omega))
  rw [Nat.div_lt_iff_lt_mul hden, mul_comm, mul_two_pow_add] at hquotient
  exact hquotient

theorem le_of_log2_shift {num den shift : ℕ} (hpos : 0 < shift)
    (hshift : Nat.log2 (num / den) - 52 = shift) : 2 ^ 52 * (den * 2 ^ shift) ≤ num := by
  have hne : num / den ≠ 0 := by
    intro hzero
    rw [hzero] at hshift
    exact hpos.ne hshift
  have hquotient : 2 ^ (shift + 52) ≤ num / den := by
    rw [show shift + 52 = Nat.log2 (num / den) by omega]
    exact Nat.log2_self_le hne
  calc 2 ^ 52 * (den * 2 ^ shift)
      _ = den * 2 ^ (shift + 52) := (mul_two_pow_add den shift 52).symm
      _ ≤ den * (num / den) := Nat.mul_le_mul_left den hquotient
      _ ≤ num := Nat.mul_div_le num den

/-- An octave of codes ends where the quotients are nearest to the power of two behind it. -/
theorem nearestCode_lt_iff {num den : ℕ} (hden : 0 < den) (last : ℕ) :
    nearestCode num den < (last + 2) * octave ↔ 2 * num < (2 ^ 54 - 1) * (den * 2 ^ last) := by
  obtain ⟨shift, hshift⟩ : ∃ shift, Nat.log2 (num / den) - 52 = shift := ⟨_, rfl⟩
  have hscale : 0 < den * 2 ^ shift := Nat.mul_pos hden (Nat.two_pow_pos shift)
  have hhigh := lt_of_log2_shift hden hshift
  have hcode : nearestCode num den = shift * 2 ^ 52 + roundHalfEven num (den * 2 ^ shift) := by
    rw [← hshift]
    rfl
  rw [hcode, octave_eq]
  rcases lt_trichotomy shift last with h | rfl | h
  · -- In an earlier octave a quotient that is rounded up stays in front of the end.
    have hround := roundHalfEven_le hhigh
    have hlast := two_mul_two_pow_le den h
    omega
  · -- In the octave itself the end is an even number on the scale of the quotient.
    have hround := @le_roundHalfEven_iff num _ (2 ^ 53) hscale (by decide)
    omega
  · -- A later octave begins behind the end.
    have hlow := le_of_log2_shift (by omega) hshift
    have hround := @le_roundHalfEven_iff num _ (2 ^ 52) hscale (by decide)
    have hlast := two_mul_two_pow_le den h
    omega

/-! ## Decimals -/

theorem isFinite_ofCode (negative : Bool) (code : ℕ) :
    (ofCode negative code).isFinite = true ↔ code < finiteCount := by
  unfold ofCode
  split_ifs with h <;> simp [isFinite, h]

/-- The same of the value of the quotient. -/
theorem nearestCode_lt_iff_div {num den : ℕ} (hden : 0 < den) (last : ℕ) :
    nearestCode num den < (last + 2) * octave ↔
      (num : ℚ) / den < (2 ^ 54 - 1) * 2 ^ last / 2 := by
  have hpos : (0 : ℚ) < den := Nat.cast_pos.mpr hden
  rw [nearestCode_lt_iff hden, ← Nat.cast_lt (α := ℚ), div_lt_div_iff₀ hpos two_pos]
  simp only [Nat.cast_mul, Nat.cast_sub Nat.one_le_two_pow, Nat.cast_pow, Nat.cast_ofNat,
    Nat.cast_one]
  rw [mul_comm 2 (num : ℚ), mul_comm (den : ℚ), mul_assoc]

theorem exists_codeOfDecimal_eq (unit c : ℕ) (e : ℤ) :
    ∃ num den, 0 < den ∧ codeOfDecimal unit c e = nearestCode num den ∧
      (num : ℚ) / den = c * 10 ^ e * unit := by
  unfold codeOfDecimal
  split_ifs with he
  · obtain ⟨m, rfl⟩ := Int.eq_ofNat_of_zero_le he
    exact ⟨_, 1, one_pos, rfl, by simp [mul_right_comm]⟩
  · obtain ⟨m, rfl⟩ : ∃ m : ℕ, e = -m := ⟨(-e).toNat, by omega⟩
    exact ⟨_, _, Nat.pow_pos (by decide), rfl, by simp [div_eq_mul_inv, mul_right_comm]⟩

theorem cast_unitsInOne : (unitsInOne : ℚ) = 2 ^ 1074 := by
  have hunits : unitsInOne = 2 ^ 1074 := by decide +kernel
  rw [hunits, Nat.cast_pow, Nat.cast_ofNat]

theorem unitsInOne_pos : (0 : ℚ) < unitsInOne := by
  rw [cast_unitsInOne]
  positivity

theorem overflowThreshold_mul_unitsInOne :
    overflowThreshold * unitsInOne = (2 ^ 54 - 1) * 2 ^ 2045 / 2 := by
  have hhalf (k n : ℕ) : (2 : ℚ) ^ k * 2 ^ n = 2 ^ (k + n + 1) / 2 := by
    rw [pow_succ, pow_add, mul_div_cancel_right₀ _ two_ne_zero]
  rw [overflowThreshold, cast_unitsInOne, mul_assoc, hhalf, mul_div_assoc]

/-- The threshold lies halfway between the greatest finite magnitude and the power of two above. -/
theorem two_mul_overflowThreshold :
    2 * overflowThreshold = units (finiteCount - 1) / unitsInOne + 2 ^ 1024 := by
  have hunits : units (finiteCount - 1) = (2 ^ 53 - 1) * 2 ^ 971 * unitsInOne := by decide +kernel
  have hgreatest : (units (finiteCount - 1) : ℚ) / unitsInOne = (2 ^ 53 - 1) * 2 ^ 971 := by
    rw [hunits, Nat.cast_mul, mul_div_cancel_right₀ _ unitsInOne_pos.ne']
    simp only [Nat.cast_mul, Nat.cast_sub Nat.one_le_two_pow, Nat.cast_pow, Nat.cast_ofNat,
      Nat.cast_one]
  have hpow (k n : ℕ) : (2 : ℚ) ^ (k + n) = 2 ^ k * 2 ^ n := pow_add 2 k n
  rw [hgreatest, overflowThreshold, show 971 = 1 + 970 from rfl, show 1024 = 54 + 970 from rfl,
    hpow, hpow]
  generalize (2 : ℚ) ^ 970 = step
  ring

theorem codeOfDecimal_lt_finiteCount_iff (c : ℕ) (e : ℤ) :
    codeOfDecimal unitsInOne c e < finiteCount ↔ (c : ℚ) * 10 ^ e < overflowThreshold := by
  obtain ⟨num, den, hden, hcode, hvalue⟩ := exists_codeOfDecimal_eq unitsInOne c e
  rw [hcode, show finiteCount = (2045 + 2) * octave from rfl, nearestCode_lt_iff_div hden, hvalue,
    ← overflowThreshold_mul_unitsInOne, mul_lt_mul_iff_left₀ unitsInOne_pos]

theorem one_le_overflowThreshold : 1 ≤ overflowThreshold := by
  unfold overflowThreshold
  exact one_le_mul_of_one_le_of_one_le (by norm_num) (one_le_pow₀ one_le_two)

theorem cast_overflowThreshold : (((2 ^ 54 - 1) * 2 ^ 970 : ℕ) : ℚ) = overflowThreshold := by
  simp only [Nat.cast_mul, Nat.cast_sub Nat.one_le_two_pow, Nat.cast_pow, Nat.cast_ofNat,
    Nat.cast_one, overflowThreshold]

theorem overflowThreshold_le : overflowThreshold ≤ 10 ^ 310 := by
  have hnat : (2 ^ 54 - 1) * 2 ^ 970 ≤ 10 ^ 310 := by decide +kernel
  rw [← cast_overflowThreshold]
  exact_mod_cast hnat

theorem le_of_lt_places {c : ℕ} {e : ℤ} (hc : 0 < c) (h : 310 < Number.digitCount c + e) :
    (10 : ℚ) ^ 310 ≤ c * 10 ^ e := by
  obtain ⟨n, hn⟩ : ∃ n, Number.digitCount c = n + 1 :=
    Nat.exists_eq_add_one.mpr (List.length_pos_iff.mpr (Number.digits_ne_nil c))
  have hpow : (10 : ℚ) ^ n ≤ c := by
    exact_mod_cast Number.pow_le_of_lt_digitCount hc (show n < Number.digitCount c by omega)
  calc (10 : ℚ) ^ 310
      _ = 10 ^ (310 : ℤ) := (zpow_natCast 10 310).symm
      _ ≤ 10 ^ (n + e) := zpow_le_zpow_right₀ (by norm_num) (by omega)
      _ = 10 ^ n * 10 ^ e := by rw [zpow_add₀ (by norm_num), zpow_natCast]
      _ ≤ c * 10 ^ e := mul_le_mul_of_nonneg_right hpow (by positivity)

theorem lt_of_places_lt {c : ℕ} {e : ℤ} (h : Number.digitCount c + e < -330) :
    (c : ℚ) * 10 ^ e < 1 := by
  have hpow : (c : ℚ) < 10 ^ Number.digitCount c := by
    exact_mod_cast Number.lt_pow_digitCount c
  calc (c : ℚ) * 10 ^ e
      _ < 10 ^ Number.digitCount c * 10 ^ e := mul_lt_mul_of_pos_right hpow (by positivity)
      _ = 10 ^ (Number.digitCount c + e) := by rw [zpow_add₀ (by norm_num), zpow_natCast]
      _ ≤ 10 ^ (0 : ℤ) := zpow_le_zpow_right₀ (by norm_num) (by omega)
      _ = 1 := zpow_zero 10

/-- A decimal is read as a finite value exactly if it is below the threshold. -/
theorem isFinite_ofDecimal_iff (negative : Bool) (c : ℕ) (e : ℤ) :
    (ofDecimal negative c e).isFinite = true ↔ (c : ℚ) * 10 ^ e < overflowThreshold := by
  have hone := one_le_overflowThreshold
  rcases Nat.eq_zero_or_pos c with rfl | hc
  · simp only [ofDecimal_zero, zero, isFinite, Nat.cast_zero, zero_mul, true_iff]
    exact zero_lt_one.trans_le hone
  · rw [ofDecimal_of_pos hc]
    split_ifs with hlarge hsmall
    · simp only [isFinite, Bool.false_eq_true, false_iff, not_lt]
      exact overflowThreshold_le.trans (le_of_lt_places hc hlarge)
    · simp only [zero, isFinite, true_iff]
      exact (lt_of_places_lt hsmall).trans_le hone
    · rw [isFinite_ofCode, codeOfDecimal_lt_finiteCount_iff]

end Binary64
end TypedRoutes
