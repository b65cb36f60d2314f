import TypedRoutes.Number.Shortest
import TypedRoutes.Proofs.Number.Numeral
import TypedRoutes.Proofs.Number.Rounding

/-!
# Shortest decimals read back

Reading a decimal depends on its value alone, not on how a power of ten is divided between the
coefficient and the exponent. With the exactness of rounding this shows that the search for the
shortest decimal always ends in one that reads back.
-/
namespace TypedRoutes
namespace Binary64

/-! ## Reading depends on the value -/

theorem ofDecimal_zero (negative : Bool) (exponent : ℤ) :
    ofDecimal negative 0 exponent = zero negative :=
  rfl

/-- The code of the magnitude nearest to a decimal, of which one has `unit` units. -/
def codeOfDecimal (unit c : ℕ) (e : ℤ) : ℕ :=
  if 0 ≤ e then nearestCode (c * unit * 10 ^ e.toNat) 1
  else nearestCode (c * unit) (10 ^ (-e).toNat)

theorem ofDecimal_of_pos {c : ℕ} (hc : 0 < c) (negative : Bool) (e : ℤ) :
    ofDecimal negative c e =
      if 310 < Number.digitCount c + e then infinite negative
      else if Number.digitCount c + e < -330 then zero negative
      else ofCode negative (codeOfDecimal unitsInOne c e) := by
  unfold ofDecimal codeOfDecimal
  rw [if_neg hc.ne']
  dsimp only
  split_ifs <;> rfl

theorem codeOfDecimal_mul_pow (unit c k : ℕ) (e : ℤ) :
    codeOfDecimal unit (c * 10 ^ k) e = codeOfDecimal unit c (e + k) := by
  have hcomm : c * 10 ^ k * unit = c * unit * 10 ^ k := Nat.mul_right_comm ..
  unfold codeOfDecimal
  rw [hcomm]
  by_cases he : 0 ≤ e
  · obtain ⟨m, rfl⟩ := Int.eq_ofNat_of_zero_le he
    rw [if_pos he, if_pos (by omega), show ((m : ℤ) + k).toNat = k + m by omega, Int.toNat_natCast,
      pow_add, mul_assoc]
  · obtain ⟨m, hm⟩ : ∃ m : ℕ, -e = m := ⟨(-e).toNat, by omega⟩
    have hpow : 0 < 10 ^ m := Nat.pow_pos (by decide)
    rw [if_neg he, hm, Int.toNat_natCast]
    by_cases hek : 0 ≤ e + k
    · obtain ⟨j, hj⟩ := Int.eq_ofNat_of_zero_le hek
      rw [if_pos hek, hj, Int.toNat_natCast, show k = j + m by omega, pow_add, ← mul_assoc]
      simpa using nearestCode_mul (c * unit * 10 ^ j) 1 hpow
    · obtain ⟨j, hj⟩ : ∃ j : ℕ, -(e + k) = j := ⟨(-(e + k)).toNat, by omega⟩
      rw [if_neg hek, hj, Int.toNat_natCast, show m = j + k by omega, pow_add]
      exact nearestCode_mul _ _ (Nat.pow_pos (by decide))

/-- A power of ten can be moved from the coefficient to the exponent. -/
theorem ofDecimal_mul_pow (negative : Bool) (c k : ℕ) (e : ℤ) :
    ofDecimal negative (c * 10 ^ k) e = ofDecimal negative c (e + k) := by
  rcases Nat.eq_zero_or_pos c with rfl | hc
  · rw [zero_mul, ofDecimal_zero, ofDecimal_zero]
  · have hplaces : (Number.digitCount (c * 10 ^ k) : ℤ) + e = Number.digitCount c + (e + k) := by
      rw [Number.digitCount_mul_pow hc]
      push_cast
      ring
    rw [ofDecimal_of_pos (Nat.mul_pos hc (Nat.pow_pos (by decide))), ofDecimal_of_pos hc, hplaces,
      codeOfDecimal_mul_pow]

/-- The sign takes no part in rounding. -/
theorem exists_ofDecimal_eq_ofCode (c : ℕ) (e : ℤ) :
    ∃ code, ∀ negative, ofDecimal negative c e = ofCode negative code := by
  have hzero (negative : Bool) : zero negative = ofCode negative 0 := rfl
  have hinfinite (negative : Bool) : infinite negative = ofCode negative finiteCount := by
    rw [ofCode, dif_neg (lt_irrefl _)]
  rcases Nat.eq_zero_or_pos c with rfl | hc
  · exact ⟨0, fun _ => rfl⟩
  · simp only [ofDecimal_of_pos hc]
    split_ifs
    · exact ⟨finiteCount, hinfinite⟩
    · exact ⟨0, hzero⟩
    · exact ⟨_, fun _ => rfl⟩

theorem ofCode_of_lt {code : ℕ} (h : code < finiteCount) (negative : Bool) :
    ofCode negative code = finite negative code h :=
  dif_pos h

theorem ofCode_eq_finite {negative n : Bool} {code c : ℕ} {h : c < finiteCount}
    (heq : ofCode negative code = finite n c h) : n = negative ∧ c = code := by
  unfold ofCode at heq
  split_ifs at heq
  · injection heq with hn hc
    exact ⟨hn.symm, hc.symm⟩

/-- A decimal denotes a magnitude if it is read as that magnitude with either sign. -/
def Denotes (d : Decimal) (code : ℕ) : Prop :=
  ∀ negative, ofDecimal negative d.coefficient d.exponent = ofCode negative code

theorem denotes_of_readsBack {code : ℕ} {d : Decimal} (h : readsBack code d = true) :
    Denotes d code := by
  obtain ⟨code', hcode⟩ := exists_ofDecimal_eq_ofCode d.coefficient d.exponent
  suffices hc : code' = code by
    rw [← hc]
    exact hcode
  unfold readsBack at h
  split at h
  next hread =>
    obtain ⟨-, hc⟩ := ofCode_eq_finite ((hcode false).symm.trans hread)
    rw [← hc]
    simpa using h
  · simp at h

theorem Denotes.normalize {code : ℕ} {d : Decimal} (h : Denotes d code) :
    Denotes d.normalize code := by
  induction d using Decimal.normalize.induct with
  | case1 d hzero =>
    intro negative
    rw [← h negative, Decimal.normalize, if_pos hzero, hzero, ofDecimal_zero, ofDecimal_zero]
  | case2 d hzero hten ih =>
    rw [Decimal.normalize, if_neg hzero, if_pos hten]
    apply ih
    intro negative
    rw [← h negative]
    have hmove := ofDecimal_mul_pow negative (d.coefficient / 10) 1 d.exponent
    rwa [pow_one, Nat.div_mul_cancel (Nat.dvd_of_mod_eq_zero hten), Nat.cast_one, eq_comm] at hmove
  | case3 d hzero hten => rwa [Decimal.normalize, if_neg hzero, if_neg hten]

/-! ## The shortest decimal -/

/-- Expansions are magnitudes on one decimal scale, fine enough for the least of them and within
the places that are rounded at all. -/
theorem exists_expansion_scale :
    ∃ scale, (∀ code, expansion code = units code * scale) ∧ scale * unitsInOne = 10 ^ 1100 ∧
      10 ^ 770 ≤ scale ∧ 2 ^ 2098 * scale ≤ 10 ^ 1410 :=
  ⟨Nat.pow 2 26 * Nat.pow 5 1100, fun _ => Nat.mul_assoc .., by decide +kernel, by decide +kernel,
    by decide +kernel⟩

theorem denotes_expansion {code : ℕ} (hpos : 0 < code) (h : code < finiteCount) :
    Denotes ⟨expansion code, -1100⟩ code := by
  obtain ⟨scale, hscale, hunits, hfine, hcoarse⟩ := exists_expansion_scale
  have hlow : 10 ^ 770 ≤ expansion code := by
    rw [hscale]
    exact hfine.trans (Nat.le_mul_of_pos_left _ (units_pos hpos))
  have hhigh : expansion code < 10 ^ 1410 := by
    rw [hscale]
    apply lt_of_lt_of_le _ hcoarse
    exact Nat.mul_lt_mul_of_pos_right (units_lt h) (by omega)
  have hlow' := Number.lt_digitCount_of_pow_le (by decide) hlow
  have hhigh' := (Number.digitCount_le_iff (by decide)).mpr hhigh
  have hcode : codeOfDecimal unitsInOne (expansion code) (-1100) = code := by
    unfold codeOfDecimal
    rw [if_neg (by decide), hscale, mul_assoc, hunits, neg_neg,
      show (1100 : ℤ).toNat = 1100 from rfl,
      nearestCode_units_mul code (Nat.pow_pos (by decide))]
  intro negative
  change ofDecimal negative (expansion code) (-1100) = _
  rw [ofDecimal_of_pos (by omega), if_neg (by omega), if_neg (by omega), hcode]

theorem readsBack_of_onGrid? {code exact dropped : ℕ} {d : Decimal}
    (h : onGrid? code exact dropped = some d) : readsBack code d = true := by
  simp only [onGrid?] at h
  split at h
  next hbelow habove =>
    split_ifs at h
    · exact Option.some.inj h ▸ hbelow
    · exact Option.some.inj h ▸ habove
  next hbelow _ => exact Option.some.inj h ▸ hbelow
  next _ habove => exact Option.some.inj h ▸ habove
  · cases h

/-- The shortest decimal of a magnitude reads back as that magnitude. -/
theorem denotes_shortest {code : ℕ} (h : code < finiteCount) : Denotes (shortest code) code := by
  unfold shortest
  split_ifs with hz
  · subst hz
    exact fun _ => rfl
  · dsimp only
    split
    next d hd =>
      obtain ⟨i, -, hgrid⟩ := List.exists_of_findSome?_eq_some hd
      exact (denotes_of_readsBack (readsBack_of_onGrid? hgrid)).normalize
    · exact denotes_expansion (Nat.pos_of_ne_zero hz) h

theorem ofDecimal_shortest {code : ℕ} (h : code < finiteCount) (negative : Bool) :
    ofDecimal negative (shortest code).coefficient (shortest code).exponent =
      finite negative code h :=
  (denotes_shortest h negative).trans (ofCode_of_lt h negative)

end Binary64
end TypedRoutes
