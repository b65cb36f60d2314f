import Mathlib.Data.List.Basic
import TypedRoutes.Text.Blank
import TypedRoutes.Text.LetterCase

/-!
# Letter case of single characters

No character but itself equals one of the marks of ASCII, such as the slash, up to case, so a text
that equals another one up to case is cut at the same places. Among the letters of ASCII the full
upper-case form is the simple one, so a text that is a word of such letters up to their case has
this word as its upper-case form.
-/
namespace TypedRoutes
namespace Text

/-! ## Marks -/

/-- Whether a character is in front of the letters of ASCII. -/
def IsMark (c : Char) : Prop :=
  0 < c.toNat ∧ c.toNat < 0x41

instance : DecidablePred IsMark :=
  fun c => inferInstanceAs (Decidable (0 < c.toNat ∧ c.toNat < 0x41))

variable {c mark : Char} {cs ds : List Char}

theorem eq_toNat_of_ofNat_eq {n : Nat} (hmark : IsMark mark) (h : Char.ofNat n = mark) :
    n = mark.toNat := by
  by_cases hvalid : n.isValidChar
  · have hchar : Char.ofNatAux n hvalid = mark := (dif_pos hvalid).symm.trans h
    have hnat : (Char.ofNatAux n hvalid).toNat = n := rfl
    exact hnat.symm.trans (congrArg Char.toNat hchar)
  · have hzero : '\x00' = mark := (dif_neg hvalid).symm.trans h
    rw [← hzero] at hmark
    exact absurd hmark (by decide)

/-- Ranges that move every character behind the marks move none onto a mark. -/
theorem eq_of_moveCase_eq {ranges : List CaseRange} (hmark : IsMark mark)
    (hranges : ∀ range ∈ ranges, 0x41 ≤ (range.first : Int) + range.offset)
    (h : moveCase ranges c = mark) : c = mark := by
  unfold moveCase at h
  split at h
  next range hrange =>
    have hholds := List.find?_some hrange
    have hbehind := hranges range (List.mem_of_find?_eq_some hrange)
    simp only [CaseRange.holds, Bool.and_eq_true, decide_eq_true_eq] at hholds
    have hmoved := eq_toNat_of_ofNat_eq hmark h
    have hbound := hmark.2
    omega
  · exact h

theorem lowerRanges_behind_marks :
    ∀ range ∈ lowerRanges, 0x41 ≤ (range.first : Int) + range.offset := by
  decide +kernel

theorem caseClasses_behind_marks : ∀ members ∈ caseClasses, ∀ n ∈ members, 0x41 ≤ n := by
  decide +kernel

theorem fold_mark (hmark : IsMark mark) : fold mark = mark := by
  have hall : ∀ n < 0x41, 0 < n → fold (Char.ofNat n) = Char.ofNat n := by
    decide +kernel
  have hfold := hall mark.toNat hmark.2 hmark.1
  rwa [Char.ofNat_toNat] at hfold

theorem fold_eq_mark_iff (hmark : IsMark mark) : fold c = mark ↔ c = mark := by
  constructor
  · intro h
    apply eq_of_moveCase_eq hmark lowerRanges_behind_marks
    simp only [fold] at h
    split at h
    next members leader _ hmembers =>
      have hmem := List.mem_of_find?_eq_some hmembers
      have hbehind := caseClasses_behind_marks _ hmem leader List.mem_cons_self
      have hleader := eq_toNat_of_ofNat_eq hmark h
      exact absurd hmark.2 (by omega)
    · exact h
  · rintro rfl
    exact fold_mark hmark

theorem sameUpToCase_mark_iff (hmark : IsMark mark) : sameUpToCase mark c = true ↔ c = mark := by
  rw [sameUpToCase, beq_iff_eq, fold_mark hmark, eq_comm, fold_eq_mark_iff hmark]

/-- Texts that are the same up to case have the same marks. -/
theorem mark_mem_iff_of_sameText (hmark : IsMark mark) (h : sameText cs ds = true) :
    mark ∈ cs ↔ mark ∈ ds := by
  have hfold (es : List Char) : mark ∈ es.map fold ↔ mark ∈ es := by
    simp [List.mem_map, fold_eq_mark_iff hmark]
  rw [← hfold cs, sameText_iff.mp h, hfold ds]

/-- A text that begins with a mark still does in lower case. -/
theorem lower_cons_mark {s : String} (h : s.toList = mark :: cs) (hmark : IsMark mark) :
    (lower s).toList.head? = some mark := by
  have hall : ∀ n < 0x41, 0 < n → simpleLower (Char.ofNat n) = Char.ofNat n := by
    decide +kernel
  have hlower := hall mark.toNat hmark.2 hmark.1
  rw [Char.ofNat_toNat] at hlower
  have hsigma : mark ≠ capitalSigma := by
    rintro rfl
    exact absurd hmark (by decide)
  have hdotted : mark ≠ Char.ofNat 0x130 := by
    rintro rfl
    exact absurd hmark (by decide)
  rw [lower, String.toList_ofList, h, lowerFrom, lowerAt, if_neg hsigma, if_neg hdotted, hlower]
  rfl

/-! ## Letters of ASCII -/

theorem toNat_lt_of_isAlpha {c : Char} (h : c.isAlpha = true) : c.toNat < 128 := by
  have hZ : 'Z'.val.toNat = 90 := rfl
  have hz : 'z'.val.toNat = 122 := rfl
  have hbound : c.val ≤ 'Z'.val ∨ c.val ≤ 'z'.val := by
    rcases Bool.or_eq_true_iff.mp h with hupper | hlower
    · have hrange : c.val ≥ 'A'.val ∧ c.val ≤ 'Z'.val := of_decide_eq_true hupper
      exact .inl hrange.2
    · have hrange : decide (c.val ≥ 'a'.val) = true ∧ decide (c.val ≤ 'z'.val) = true :=
        Bool.and_eq_true_iff.mp hlower
      exact .inr (of_decide_eq_true hrange.2)
  rw [UInt32.le_iff_toNat_le, UInt32.le_iff_toNat_le] at hbound
  change c.val.toNat < 128
  omega

theorem isAlpha_of_isUpper_toUpper {c : Char} (h : c.toUpper.isUpper = true) :
    c.isAlpha = true := by
  by_cases hlower : 'a'.val ≤ c.val ∧ c.val ≤ 'z'.val
  · have hletter : c.isLower = true :=
      Bool.and_eq_true_iff.mpr ⟨decide_eq_true hlower.1, decide_eq_true hlower.2⟩
    exact Bool.or_eq_true_iff.mpr (.inr hletter)
  · have hsame : c.toUpper = c := dif_neg hlower
    rw [hsame] at h
    exact Bool.or_eq_true_iff.mpr (.inl h)

/-- A letter has its capital as its upper-case form; it is no blank and no bar. -/
theorem upperChar_of_isAlpha {c : Char} (h : c.isAlpha = true) :
    upperChar c = [c.toUpper] ∧ isBlank c = false ∧ c ≠ '|' := by
  have hall : ∀ n < 128, (Char.ofNat n).isAlpha = true →
      upperChar (Char.ofNat n) = [(Char.ofNat n).toUpper] ∧
        isBlank (Char.ofNat n) = false ∧ Char.ofNat n ≠ '|' := by
    decide +kernel
  have hc := hall c.toNat (toNat_lt_of_isAlpha h)
  rw [Char.ofNat_toNat] at hc
  exact hc h

/-- The letters of a text whose capitals are a word of capitals. -/
theorem isAlpha_of_toUpper {s word : String} (h : s.toUpper = word)
    (hword : word.toList.all Char.isUpper = true) {c : Char} (hc : c ∈ s.toList) :
    c.isAlpha = true := by
  refine isAlpha_of_isUpper_toUpper (List.all_eq_true.mp hword _ ?_)
  rw [← h, String.toUpper, String.toList_map]
  exact List.mem_map_of_mem hc

theorem upper_of_toUpper {s word : String} (h : s.toUpper = word)
    (hword : word.toList.all Char.isUpper = true) : upper s = word := by
  have hletters : s.toList.flatMap upperChar = s.toList.map Char.toUpper := by
    rw [List.map_eq_flatMap]
    exact List.flatMap_congr fun c hc => (upperChar_of_isAlpha (isAlpha_of_toUpper h hword hc)).1
  rw [upper, hletters, ← String.toList_map, String.ofList_toList]
  exact h

theorem strip_of_toUpper {s word : String} (h : s.toUpper = word)
    (hword : word.toList.all Char.isUpper = true) : strip s = s := by
  have hblank : ∀ c ∈ s.toList, isBlank c = false := fun c hc =>
    (upperChar_of_isAlpha (isAlpha_of_toUpper h hword hc)).2.1
  rw [strip, trimBoth_eq_self hblank, String.ofList_toList]

end Text
end TypedRoutes
