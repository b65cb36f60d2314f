import Mathlib.Data.List.TakeWhile
import Mathlib.Tactic.SplitIfs
import TypedRoutes.Number.Reading

/-!
# Characters that stand in no numeral

What is read as a number has digits, a sign, a point and the letter of an exponent in it, and
nothing else but the white space around it and the underscores that the lenient readers leave out.
-/
namespace TypedRoutes
namespace Number

variable {cs body : List Char} {c : Char}

theorem mem_dropWhile {p : Char → Bool} (h : c ∈ cs) (hc : p c = false) : c ∈ cs.dropWhile p := by
  have hcs : cs.takeWhile p ++ cs.dropWhile p = cs := List.takeWhile_append_dropWhile
  rw [← hcs] at h
  rcases List.mem_append.mp h with hdropped | hkept
  · rw [List.mem_takeWhile_imp hdropped] at hc
    cases hc
  · exact hkept

theorem mem_splitSign (h : c ∈ cs) (hsign : c ∉ ['-', '+']) : c ∈ (splitSign cs).2 := by
  cases cs with
  | nil => cases h
  | cons d rest =>
    rw [splitSign]
    split_ifs with hminus hplus
    · exact (List.mem_cons.mp h).resolve_left fun heq => hsign (by simp [heq, hminus])
    · exact (List.mem_cons.mp h).resolve_left fun heq => hsign (by simp [heq, hplus])
    · exact h

theorem all_isDigit_of_mem (h : c ∈ cs) (hc : Text.isDigit c = false) :
    cs.all Text.isDigit = false :=
  List.all_eq_false.mpr ⟨c, h, by simp [hc]⟩

/-- An integer has nothing but digits behind its sign. -/
theorem readInt_of_mem (h : c ∈ cs) (hsign : c ∉ ['-', '+']) (hc : Text.isDigit c = false) :
    readInt cs = .notNumeral := by
  rcases hsplit : splitSign cs with ⟨negative, body⟩
  have hbody : c ∈ body := by simpa [hsplit] using mem_splitSign h hsign
  simp [readInt, hsplit, all_isDigit_of_mem hbody hc]

/-- Whether a character stands in no numeral. -/
def IsForeign (c : Char) : Prop :=
  Text.isDigit c = false ∧ c ∉ ['-', '+', '.', 'e', 'E']

namespace IsForeign

theorem not_sign (hc : IsForeign c) : c ∉ ['-', '+'] := by
  intro h
  refine hc.2 ?_
  simp only [List.mem_cons, List.not_mem_nil, or_false] at h
  rcases h with rfl | rfl <;> simp

theorem mem_splitFraction (hc : IsForeign c) (h : c ∈ cs) : c ∈ (splitFraction cs).2 := by
  cases cs with
  | nil => cases h
  | cons d rest =>
    rw [splitFraction]
    split_ifs with hpoint
    · have hrest : c ∈ rest :=
        (List.mem_cons.mp h).resolve_left fun heq => hc.2 (by simp [heq, hpoint])
      exact mem_dropWhile hrest hc.1
    · exact h

theorem readExponent? (hc : IsForeign c) (h : c ∈ cs) : Number.readExponent? cs = none := by
  cases cs with
  | nil => cases h
  | cons d rest =>
    rw [Number.readExponent?]
    split_ifs with hletter
    · have hrest : c ∈ rest := by
        refine (List.mem_cons.mp h).resolve_left fun heq => hc.2 ?_
        simp only [Bool.or_eq_true, decide_eq_true_eq] at hletter
        rcases hletter with rfl | rfl <;> simp [heq]
      rcases hsign : splitSign rest with ⟨negative, body⟩
      have hbody : c ∈ body := by simpa [hsign] using mem_splitSign hrest hc.not_sign
      simp [all_isDigit_of_mem hbody hc.1]
    · rfl

theorem readFloat? (hc : IsForeign c) (h : c ∈ cs) : Number.readFloat? cs = none := by
  rcases hsign : splitSign cs with ⟨negative, body⟩
  have hbody : c ∈ body := by simpa [hsign] using mem_splitSign h hc.not_sign
  rcases hfraction : splitFraction (body.dropWhile Text.isDigit) with ⟨fraction, rest⟩
  have hrest : c ∈ rest := by
    simpa [hfraction] using hc.mem_splitFraction (mem_dropWhile hbody hc.1)
  simp [Number.readFloat?, hsign, hfraction, hc.readExponent? hrest]

end IsForeign

/-! ## Lenient readers -/

theorem mem_trimBoth {p : Char → Bool} (h : c ∈ cs) (hc : p c = false) :
    c ∈ Text.trimBoth p cs := by
  have hfront := mem_dropWhile h hc
  exact List.mem_reverse.mpr (mem_dropWhile (List.mem_reverse.mpr hfront) hc)

theorem mem_joinGroups? {afterDigit : Bool} (h : joinGroups? afterDigit cs = some body)
    (hc : c ∈ cs) (hne : c ≠ '_') : c ∈ body := by
  fun_induction joinGroups? afterDigit cs generalizing body with
  | case1 => cases hc
  | case2 _ d rest hd ih => exact ih h ((List.mem_cons.mp hc).resolve_left hne)
  | case3 => cases h
  | case4 => cases h
  | case5 _ d rest hd ih =>
    obtain ⟨kept, hkept, rfl⟩ := Option.map_eq_some_iff.mp h
    rcases List.mem_cons.mp hc with rfl | hc
    · exact List.mem_cons_self
    · exact List.mem_cons_of_mem _ (ih hkept hc)

theorem mem_compact? (h : compact? cs = some body) (hc : c ∈ cs)
    (hspace : Text.isWhiteSpace c = false) (hne : c ≠ '_') : c ∈ body :=
  mem_joinGroups? h (mem_trimBoth hc hspace) hne

theorem readLooseInt_of_foreign (hc : IsForeign c) (h : c ∈ cs)
    (hspace : Text.isWhiteSpace c = false) (hne : c ≠ '_') : readLooseInt cs = .notNumeral := by
  rw [readLooseInt]
  cases hcompact : compact? cs with
  | none => rfl
  | some body => exact readInt_of_mem (mem_compact? hcompact h hspace hne) hc.not_sign hc.1

theorem readLooseFloat?_of_foreign (hc : IsForeign c) (h : c ∈ cs)
    (hspace : Text.isWhiteSpace c = false) (hne : c ≠ '_') : readLooseFloat? cs = none := by
  rw [readLooseFloat?]
  cases hcompact : compact? cs with
  | none => rfl
  | some body => exact hc.readFloat? (mem_compact? hcompact h hspace hne)

end Number
end TypedRoutes
