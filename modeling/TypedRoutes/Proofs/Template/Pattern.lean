import TypedRoutes.Proofs.Template.Reading
import TypedRoutes.Template.Pattern

/-!
# What a pattern tells of its template

An escaped text is read back by leaving out one backslash before each character that has one, and
only such a backslash lets a special character stand in it. So a pattern, which is cut at its
slashes into the expressions of the segments, tells all of them apart: two templates have the same
pattern exactly if they differ in nothing but the names of their placeholders.
-/
namespace TypedRoutes

namespace Pattern

variable {c : Char} {cs ds : List Char}

/-! ## Escaped texts -/

/-- A text without the backslashes that escape its characters. -/
def unescape : List Char → List Char
  | [] => []
  | [c] => [c]
  | c :: d :: rest => if c = '\\' then d :: unescape rest else c :: unescape (d :: rest)

theorem unescape_cons_of_ne (hc : c ≠ '\\') (cs : List Char) :
    unescape (c :: cs) = c :: unescape cs := by
  cases cs with
  | nil => rfl
  | cons d rest => rw [unescape, if_neg hc]

theorem unescape_escapeChar_append (c : Char) (cs : List Char) :
    unescape (escapeChar c ++ cs) = c :: unescape cs := by
  unfold escapeChar
  split
  · rfl
  next hplain =>
    refine unescape_cons_of_ne ?_ cs
    rintro rfl
    exact hplain (by decide)

theorem unescape_escape (cs : List Char) : unescape (escape cs) = cs := by
  induction cs with
  | nil => rfl
  | cons c cs ih =>
    rw [escape, List.flatMap_cons, unescape_escapeChar_append]
    exact congrArg (c :: ·) ih

theorem escape_inj : escape cs = escape ds ↔ cs = ds := by
  constructor
  · intro h
    rw [← unescape_escape cs, h, unescape_escape]
  · exact congrArg escape

/-- Every special character but the backslash has a backslash in front of it. -/
theorem head?_escape_ne (hspecial : c ∈ specials) (hc : c ≠ '\\') (cs : List Char) :
    (escape cs).head? ≠ some c := by
  cases cs with
  | nil => simp [escape]
  | cons d cs =>
    rw [escape, List.flatMap_cons, escapeChar]
    split
    · simpa using hc.symm
    next hplain =>
      suffices hne : d ≠ c by simpa
      rintro rfl
      exact hplain (List.contains_iff_mem.mpr hspecial)

theorem slash_not_mem_escape (h : '/' ∉ cs) : '/' ∉ escape cs := by
  intro hmem
  obtain ⟨c, hc, hslash⟩ := List.mem_flatMap.mp hmem
  have hne : '/' ≠ c := by
    rintro rfl
    exact h hc
  unfold escapeChar at hslash
  split at hslash <;> simp [hne] at hslash

end Pattern

/-! ## Segments -/

theorem Kind.fragment_inj {kind other : Kind} : kind.fragment = other.fragment ↔ kind = other := by
  cases kind <;> cases other <;> decide

theorem Kind.slash_not_mem_fragment (kind : Kind) : '/' ∉ kind.fragment.toList := by
  cases kind <;> decide +kernel

namespace Segment

open Pattern

variable {segment other : Segment}

/-- Whether two segments are the same up to the name of a placeholder. -/
inductive SameShape : Segment → Segment → Prop
  | literal (text : String) : SameShape (literal text) (literal text)
  | parameter (kind : Kind) (name other : String) :
    SameShape (parameter kind name) (parameter kind other)

theorem ofSegment_literal_ne_parameter (text : String) (kind : Kind) (name : String) :
    ofSegment (literal text) ≠ ofSegment (parameter kind name) := by
  intro h
  apply head?_escape_ne (show '(' ∈ specials by decide) (by decide) text.toList
  change (ofSegment (literal text)).head? = some '('
  rw [h]
  rfl

theorem ofSegment_ne_question (segment : Segment) : ofSegment segment ≠ ['?'] := by
  cases segment with
  | literal text =>
    intro h
    apply head?_escape_ne (show '?' ∈ specials by decide) (by decide) text.toList
    exact congrArg List.head? h
  | parameter kind name =>
    intro h
    cases congrArg List.head? h

theorem ofSegment_parameter_eq_iff {kind kind' : Kind} {name name' : String} :
    ofSegment (parameter kind name) = ofSegment (parameter kind' name') ↔ kind = kind' := by
  constructor
  · intro h
    have hfragment := List.append_cancel_left (List.append_cancel_right h)
    exact Kind.fragment_inj.mp (String.toList_inj.mp hfragment)
  · rintro rfl
    rfl

/-- The expression of a segment tells everything of it but the name of a placeholder. -/
theorem ofSegment_eq_iff : ofSegment segment = ofSegment other ↔ segment.SameShape other := by
  constructor
  · intro h
    cases segment with
    | literal text =>
      cases other with
      | literal text' =>
        rw [String.toList_inj.mp (escape_inj.mp h)]
        exact .literal text'
      | parameter kind name => exact absurd h (ofSegment_literal_ne_parameter text kind name)
    | parameter kind name =>
      cases other with
      | literal text => exact absurd h.symm (ofSegment_literal_ne_parameter text kind name)
      | parameter kind' name' =>
        rw [ofSegment_parameter_eq_iff.mp h]
        exact .parameter kind' name name'
  · rintro (_ | _) <;> rfl

theorem slash_not_mem_ofSegment (h : ∀ text, segment = literal text → '/' ∉ text.toList) :
    '/' ∉ ofSegment segment := by
  cases segment with
  | literal text => exact slash_not_mem_escape (h text rfl)
  | parameter kind name =>
    intro hmem
    rcases List.mem_append.mp hmem with hfront | hclose
    · rcases List.mem_append.mp hfront with hopen | hfragment
      · exact absurd hopen (by decide)
      · exact kind.slash_not_mem_fragment hfragment
    · exact absurd hclose (by decide)

theorem forall₂_sameShape_iff {segments others : List Segment} :
    List.Forall₂ SameShape segments others ↔
      segments.map ofSegment = others.map ofSegment := by
  rw [← List.forall₂_eq_eq_eq, List.forall₂_map_left_iff, List.forall₂_map_right_iff]
  simp only [ofSegment_eq_iff]

end Segment

/-! ## Templates -/

namespace Template

open Pattern

variable {raw raw' : String} {t t' : Template}

/-- A pattern is cut into the expressions of the segments and the mark of a slash that may be
missing. -/
theorem pieces_pattern (ht : t.WellFormed) :
    Text.pieces t.pattern.toList =
      t.segments.map ofSegment ++ if t.trailingSlash then [['?']] else [] := by
  have hne : t.segments.map ofSegment ≠ [] := by simpa using ht.nonempty
  have hslash : ∀ piece ∈ t.segments.map ofSegment, '/' ∉ piece := by
    simp only [List.forall_mem_map]
    intro segment hsegment
    exact Segment.slash_not_mem_ofSegment fun text htext => ht.slash_not_mem text (htext ▸ hsegment)
  rw [pattern, String.toList_ofList]
  cases t.trailingSlash with
  | false =>
    simp only [Bool.false_eq_true, if_false, List.append_nil]
    exact Text.pieces_joinPieces hne hslash
  | true =>
    simp only [if_true]
    rw [← Text.joinPieces_concat hne, Text.pieces_joinPieces (by simp)]
    intro piece hpiece
    rcases List.mem_append.mp hpiece with hsegment | hmark
    · exact hslash piece hsegment
    · rw [List.mem_singleton.mp hmark]
      decide

/-- Two templates have the same pattern if they are the same up to the names of their placeholders,
and only then. The slashes of a pattern are the separators; between them no literal reads like a
placeholder, nor like the mark of a slash that may be missing. -/
theorem pattern_eq_iff (h : parse raw = .ok t) (h' : parse raw' = .ok t') :
    (t.pattern = t'.pattern ↔
      t.trailingSlash = t'.trailingSlash ∧
        List.Forall₂ Segment.SameShape t.segments t'.segments) ∧
    Text.pieces t.pattern.toList =
      t.segments.map ofSegment ++ (if t.trailingSlash then [['?']] else []) ∧
    ∀ text, .literal text ∈ t.segments →
      '/' ∉ ofSegment (.literal text) ∧ ofSegment (.literal text) ≠ ['?'] ∧
        ∀ kind name, ofSegment (.literal text) ≠ ofSegment (.parameter kind name) := by
  have hpieces := pieces_pattern (wellFormed_of_parse h)
  have hpieces' := pieces_pattern (wellFormed_of_parse h')
  have hmark (segments : List Segment) : ['?'] ∉ segments.map ofSegment := by
    intro hmem
    obtain ⟨segment, -, hsegment⟩ := List.mem_map.mp hmem
    exact Segment.ofSegment_ne_question segment hsegment
  refine ⟨⟨?_, ?_⟩, hpieces, ?_⟩
  · intro hpattern
    rw [hpattern, hpieces'] at hpieces
    rw [Segment.forall₂_sameShape_iff]
    cases hslash : t.trailingSlash <;> cases hslash' : t'.trailingSlash <;>
      simp only [hslash, hslash', Bool.false_eq_true, if_false, if_true, List.append_nil,
        List.append_left_inj] at hpieces
    · exact ⟨rfl, hpieces.symm⟩
    · exact absurd (hpieces ▸ by simp) (hmark t.segments)
    · exact absurd (hpieces ▸ by simp) (hmark t'.segments)
    · exact ⟨rfl, hpieces.symm⟩
  · rintro ⟨hslash, hsegments⟩
    rw [pattern, pattern, hslash, Segment.forall₂_sameShape_iff.mp hsegments]
  · intro text htext
    refine ⟨?_, Segment.ofSegment_ne_question _, Segment.ofSegment_literal_ne_parameter text⟩
    exact slash_not_mem_escape ((wellFormed_of_parse h).slash_not_mem text htext)

theorem pattern_eq_iff_marks :
    let t : Template := ⟨[.literal "", .literal "?", .parameter .integer "id"], true⟩
    let t' : Template := ⟨[.literal "", .literal "?", .parameter .integer "n"], true⟩
    parse "/?/\x7bi:id\x7d/" = .ok t ∧ parse "/?/\x7bi:n\x7d/" = .ok t' ∧
      t.pattern = "/\\?/((?-i:\\d+))/?" ∧ t.pattern = t'.pattern := by
  intro t t'
  have hparse : parse "/?/\x7bi:id\x7d/" = .ok t := by rfl
  have hparse' : parse "/?/\x7bi:n\x7d/" = .ok t' := by rfl
  have hsegments : List.Forall₂ Segment.SameShape t.segments t'.segments :=
    .cons (.literal "") (.cons (.literal "?") (.cons (.parameter .integer "id" "n") .nil))
  refine ⟨hparse, hparse', by decide +kernel, ?_⟩
  exact (pattern_eq_iff hparse hparse').1.mpr ⟨rfl, hsegments⟩

end Template
end TypedRoutes
