import TypedRoutes.Proofs.Number.Notation
import TypedRoutes.Proofs.Text.Percent
import TypedRoutes.Template.Expression

/-!
# Languages of the kinds

The expression of a kind is written as the pattern has it, and it means the texts that a placeholder
of the kind matches.
-/
namespace TypedRoutes

open Pattern Computability

namespace Pattern.Fragment

variable {cs ds : List Char} {p : Char → Prop} {l : Language Char}

/-! ## One character and many -/

theorem nil_not_mem_single : [] ∉ single p := by
  rintro ⟨c, -, hnil⟩
  cases hnil

theorem mem_kstar_single_iff : cs ∈ (single p)∗ ↔ ∀ c ∈ cs, p c := by
  rw [Language.mem_kstar]
  constructor
  · rintro ⟨parts, rfl, hparts⟩ c hc
    obtain ⟨part, hpart, hc⟩ := List.mem_flatten.mp hc
    obtain ⟨d, hd, rfl⟩ := hparts part hpart
    rwa [List.mem_singleton.mp hc]
  · intro h
    refine ⟨cs.map fun c => [c], by rw [← List.flatMap_def, List.flatMap_singleton'], ?_⟩
    intro part hpart
    obtain ⟨c, hc, rfl⟩ := List.mem_map.mp hpart
    exact ⟨c, h c hc, rfl⟩

theorem append_mem_kstar {part : List Char} (hpart : part ∈ l) (h : cs ∈ l∗) : part ++ cs ∈ l∗ :=
  (mul_kstar_le_kstar : l * l∗ ≤ l∗) (Language.append_mem_mul hpart h)

/-- A repetition of parts that are not empty is not empty either, and nothing else is missing. -/
theorem mem_mul_kstar_iff (hnil : [] ∉ l) : cs ∈ l * l∗ ↔ cs ≠ [] ∧ cs ∈ l∗ := by
  have hstar : cs ∈ l∗ ↔ cs = [] ∨ cs ∈ l * l∗ := by
    rw [← Language.mem_one, ← Language.mem_add, Language.one_add_self_mul_kstar_eq_kstar]
  constructor
  · intro h
    refine ⟨?_, hstar.mpr (.inr h)⟩
    rintro rfl
    obtain ⟨part, hpart, _, -, heq⟩ := Language.mem_mul.mp h
    rw [(List.append_eq_nil_iff.mp heq).1] at hpart
    exact hnil hpart
  · rintro ⟨hne, h⟩
    exact (hstar.mp h).resolve_left hne

theorem mem_word_iff : ds ∈ (word cs).language ↔ ds = cs := by
  induction cs generalizing ds with
  | nil => exact Language.mem_one ds
  | cons c cs ih =>
    have hword : (word (c :: cs)).language = single (· = c) * (word cs).language := rfl
    rw [hword, Language.mem_mul]
    constructor
    · rintro ⟨_, ⟨d, rfl, rfl⟩, rest, hrest, rfl⟩
      rw [ih.mp hrest]
      rfl
    · rintro rfl
      exact ⟨[c], ⟨c, rfl, rfl⟩, cs, ih.mpr rfl, rfl⟩

/-! ## Numbers -/

theorem mem_digits_iff : cs ∈ (oneOrMore digit).language ↔ areDigits cs = true := by
  rw [Number.areDigits_iff, ← mem_kstar_single_iff]
  exact mem_mul_kstar_iff nil_not_mem_single

/-! ## Texts of a URL -/

theorem mem_unreserved_iff :
    cs ∈ unreserved.language ↔ ∃ c, Percent.isUnreserved c = true ∧ cs = [c] := by
  have hclass (c : Char) :
      (∃ range ∈
          [('A', 'Z'), ('a', 'z'), ('0', '9'), ('.', '.'), ('_', '_'), ('~', '~'), ('-', '-')],
        range.1 ≤ c ∧ c ≤ range.2) ↔ Percent.isUnreserved c = true := by
    simp [Percent.isUnreserved, Percent.isAlphanumeric, Char.le_def, UInt32.le_iff_toNat_le,
      ← Char.toNat_inj]
    omega
  simp only [unreserved, language, hclass]
  rfl

theorem mem_octet_iff :
    cs ∈ octet.language ↔
      ∃ a b, Text.isHexDigit a = true ∧ Text.isHexDigit b = true ∧ cs = ['%', a, b] := by
  have hclass (c : Char) :
      (∃ range ∈ [('0', '9'), ('A', 'F'), ('a', 'f')], range.1 ≤ c ∧ c ≤ range.2) ↔
        Text.isHexDigit c = true := by
    simp [Text.isHexDigit, Text.hexValue?, Char.le_def, UInt32.le_iff_toNat_le]
    split_ifs <;> simp <;> omega
  simp only [octet, language, hclass, pow_two]
  constructor
  · rintro ⟨_, ⟨_, rfl, rfl⟩, _, ⟨_, ⟨a, ha, rfl⟩, _, ⟨b, hb, rfl⟩, rfl⟩, rfl⟩
    exact ⟨a, b, ha, hb, rfl⟩
  · rintro ⟨a, b, ha, hb, rfl⟩
    exact ⟨_, ⟨'%', rfl, rfl⟩, _, ⟨_, ⟨a, ha, rfl⟩, _, ⟨b, hb, rfl⟩, rfl⟩, rfl⟩

theorem mem_kstar_urlText_iff :
    cs ∈ (unreserved.language + octet.language)∗ ↔ isUrlText cs = true := by
  constructor
  · rw [Language.mem_kstar]
    rintro ⟨parts, rfl, hparts⟩
    induction parts with
    | nil => rfl
    | cons part parts ih =>
      have hrest := ih fun other hother => hparts other (List.mem_cons_of_mem part hother)
      rcases hparts part List.mem_cons_self with hpart | hpart
      · obtain ⟨c, hc, rfl⟩ := mem_unreserved_iff.mp hpart
        rwa [List.flatten_cons, List.singleton_append, Percent.isUrlText_cons hc]
      · obtain ⟨a, b, ha, hb, rfl⟩ := mem_octet_iff.mp hpart
        simp [isUrlText, ha, hb, hrest]
  · intro h
    induction cs using isUrlText.induct with
    | case1 => exact Language.nil_mem_kstar _
    | case2 a b rest ih =>
      simp only [isUrlText, if_pos, Bool.and_eq_true] at h
      exact append_mem_kstar (.inr (mem_octet_iff.mpr ⟨a, b, h.1.1, h.1.2, rfl⟩)) (ih h.2)
    | case3 c a b rest hc ih =>
      simp only [isUrlText, if_neg hc, Bool.and_eq_true] at h
      exact append_mem_kstar (.inl (mem_unreserved_iff.mpr ⟨c, h.1, rfl⟩)) (ih h.2)
    | case4 c rest hrest ih =>
      rw [isUrlText, Bool.and_eq_true] at h
      · exact append_mem_kstar (.inl (mem_unreserved_iff.mpr ⟨c, h.1, rfl⟩)) (ih h.2)
      · exact hrest

theorem nil_not_mem_urlText : [] ∉ unreserved.language + octet.language := by
  rintro (h | h)
  · exact nil_not_mem_single h
  · obtain ⟨_, _, -, -, hnil⟩ := mem_octet_iff.mp h
    cases hnil

end Pattern.Fragment

namespace Kind

open Fragment

theorem text_expression (kind : Kind) : kind.expression.text = kind.fragment.toList := by
  cases kind <;> rfl

variable {cs : List Char}

theorem mem_float_iff : cs ∈ float.expression.language ↔ float.matchesText cs = true := by
  constructor
  · rintro ⟨ds, hds, _, rfl | ⟨_, ⟨_, rfl, rfl⟩, fs, hfs, rfl⟩, rfl⟩
    · obtain ⟨hne, hd⟩ := Number.areDigits_iff.mp (mem_digits_iff.mp hds)
      simpa using (PlainNumeral.whole hne hd).matchesText
    · obtain ⟨hne, hd⟩ := Number.areDigits_iff.mp (mem_digits_iff.mp hds)
      obtain ⟨hfne, hfd⟩ := Number.areDigits_iff.mp (mem_digits_iff.mp hfs)
      exact (PlainNumeral.pointed hne hd hfne hfd).matchesText
  · intro h
    obtain ⟨_, _, hplain⟩ := PlainNumeral.exists_of_matchesText h
    have digits {ds : List Char} (hne : ds ≠ []) (hd : ∀ c ∈ ds, Text.isDigit c = true) :
        ds ∈ (oneOrMore digit).language :=
      mem_digits_iff.mpr (Number.areDigits_iff.mpr ⟨hne, hd⟩)
    cases hplain with
    | whole hne hd => exact ⟨cs, digits hne hd, [], .inl rfl, List.append_nil cs⟩
    | @pointed ds fs hne hd hfne hfd =>
      exact ⟨ds, digits hne hd, '.' :: fs, .inr ⟨_, ⟨'.', rfl, rfl⟩, fs, digits hfne hfd, rfl⟩, rfl⟩

/-- The expression of a kind means the texts that its placeholders match. -/
theorem mem_language_iff {kind : Kind} :
    cs ∈ kind.expression.language ↔ kind.matchesText cs = true := by
  cases kind with
  | boolean =>
    simp only [expression, language, Language.mem_add, mem_word_iff, matchesText, Bool.or_eq_true,
      beq_iff_eq]
  | float => exact mem_float_iff
  | integer => exact mem_digits_iff
  | text =>
    simp only [expression, language, matchesText, Bool.and_eq_true]
    rw [mem_mul_kstar_iff nil_not_mem_urlText, mem_kstar_urlText_iff]
    simp

end Kind
end TypedRoutes
