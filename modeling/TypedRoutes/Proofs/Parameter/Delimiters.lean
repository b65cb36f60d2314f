import TypedRoutes.Proofs.Number.Notation

/-!
# Delimiters of a URL

A text that a placeholder matches is not empty, and none of its characters ends a path segment, a
path or a query.
-/
namespace TypedRoutes

/-- The characters at which a path is cut. -/
def delimiters : List Char := ['/', '?', '#']

theorem not_mem_delimiters {p : Char → Bool} {c : Char} (hslash : p '/' = false)
    (hquery : p '?' = false) (hfragment : p '#' = false) (h : p c = true) : c ∉ delimiters := by
  have hne {d : Char} (hd : p d = false) : c ≠ d := by
    rintro rfl
    rw [hd] at h
    cases h
  simp [delimiters, hne hslash, hne hquery, hne hfragment]

theorem not_mem_delimiters_of_isDigit {c : Char} (h : Text.isDigit c = true) : c ∉ delimiters :=
  not_mem_delimiters (by decide) (by decide) (by decide) h

/-- The characters of a sequence of unreserved characters and percent escapes. -/
theorem not_mem_delimiters_of_isUrlText {cs : List Char} (h : isUrlText cs = true) :
    ∀ c ∈ cs, c ∉ delimiters := by
  have unreserved {c : Char} (hc : Percent.isUnreserved c = true) : c ∉ delimiters :=
    not_mem_delimiters (by decide) (by decide) (by decide) hc
  have hexDigit {c : Char} (hc : Text.isHexDigit c = true) : c ∉ delimiters :=
    not_mem_delimiters (by decide) (by decide) (by decide) hc
  induction cs using isUrlText.induct with
  | case1 => simp
  | case2 a b rest ih =>
    simp only [isUrlText, if_pos, Bool.and_eq_true] at h
    simp only [List.forall_mem_cons]
    exact ⟨by decide, hexDigit h.1.1, hexDigit h.1.2, ih h.2⟩
  | case3 c a b rest hc ih =>
    simp only [isUrlText, if_neg hc, Bool.and_eq_true] at h
    exact List.forall_mem_cons.mpr ⟨unreserved h.1, ih h.2⟩
  | case4 c rest hrest ih =>
    rw [isUrlText, Bool.and_eq_true] at h
    · exact List.forall_mem_cons.mpr ⟨unreserved h.1, ih h.2⟩
    · exact hrest

namespace Kind

variable {kind : Kind} {cs : List Char}

theorem ne_nil_of_matchesText (h : kind.matchesText cs = true) : cs ≠ [] := by
  rintro rfl
  cases kind <;> exact absurd h (by decide)

theorem not_mem_delimiters_of_matchesText (h : kind.matchesText cs = true) :
    ∀ c ∈ cs, c ∉ delimiters := by
  cases kind with
  | boolean =>
    simp only [matchesText, Bool.or_eq_true, beq_iff_eq] at h
    rcases h with rfl | rfl <;> simp [delimiters]
  | float =>
    obtain ⟨_, _, hplain⟩ := PlainNumeral.exists_of_matchesText h
    cases hplain with
    | whole _ digits => exact fun c hc => not_mem_delimiters_of_isDigit (digits c hc)
    | pointed _ digits _ fraction_digits =>
      intro c hc
      rcases List.mem_append.mp hc with hc | hc
      · exact not_mem_delimiters_of_isDigit (digits c hc)
      · rcases List.mem_cons.mp hc with rfl | hc
        · decide
        · exact not_mem_delimiters_of_isDigit (fraction_digits c hc)
  | integer =>
    obtain ⟨-, hd⟩ := Number.areDigits_iff.mp h
    exact fun c hc => not_mem_delimiters_of_isDigit (hd c hc)
  | text =>
    simp only [matchesText, Bool.and_eq_true] at h
    exact not_mem_delimiters_of_isUrlText h.2

theorem slash_not_mem_of_matchesText (h : kind.matchesText cs = true) : '/' ∉ cs :=
  fun hmem => not_mem_delimiters_of_matchesText h '/' hmem (by decide)

end Kind
end TypedRoutes
