import TypedRoutes.Proofs.Template.Matching
import TypedRoutes.Proofs.Uri

/-!
# Paths behind a base URI

A URL begins with one slash and ends without one, whatever slashes the template has. It is cut into
the same pieces as the filled template if the template begins with a slash and has no empty
segments at its ends.
-/
namespace TypedRoutes

namespace Template

/-- Whether the paths of a template can be told from a URL: the source begins with a slash, no
literal has the mark of a query or of a fragment, and unless the template is the root, the segments
after the first slash and at the end are not empty. -/
structure IsAddressable (t : Template) : Prop where
  leading_slash : t.raw.toList.head? = some '/'
  literal_plain : ∀ text, .literal text ∈ t.segments → Uri.IsPlain text.toList
  ends_ne_nil : t.raw = "/" ∨
    (∃ segment, t.segments[1]? = some segment ∧ segment.source ≠ []) ∧
      ∃ segment, t.segments.getLast? = some segment ∧ segment.source ≠ []

variable {t : Template} {raw : String} {texts : Captures} {segment : Segment}

/-! ## Filled segments -/

theorem exists_text_of_fit {kind : Kind} {name : String} (hfit : texts.Fit t.parameters)
    (h : .parameter kind name ∈ t.segments) :
    ∃ text, segmentText texts (.parameter kind name) = text ∧ kind.matchesText text = true := by
  obtain ⟨text, hlookup, hmatch⟩ := hfit name kind (List.mem_filterMap.mpr ⟨_, h, rfl⟩)
  exact ⟨text.toList, by simp [segmentText, hlookup], hmatch⟩

theorem segmentText_ne_nil (hfit : texts.Fit t.parameters) (h : segment ∈ t.segments)
    (hsource : segment.source ≠ []) : segmentText texts segment ≠ [] := by
  cases segment with
  | literal text => exact hsource
  | parameter kind name =>
    obtain ⟨text, htext, hmatch⟩ := exists_text_of_fit hfit h
    rw [htext]
    exact Kind.ne_nil_of_matchesText hmatch

theorem not_mem_fill {mark : Char} (hmark : mark ∈ delimiters) (hslash : mark ≠ '/')
    (hliteral : ∀ text, .literal text ∈ t.segments → mark ∉ text.toList)
    (hfit : texts.Fit t.parameters) : mark ∉ (t.fill texts).toList := by
  rw [fill, String.toList_ofList, List.mem_append, not_or]
  refine ⟨fun hmem => ?_, by cases t.trailingSlash <;> simp [hslash]⟩
  obtain ⟨piece, hpiece, hmem⟩ := (Text.mem_joinPieces hmem).resolve_left hslash
  obtain ⟨segment, hsegment, rfl⟩ := List.mem_map.mp hpiece
  cases segment with
  | literal text => exact hliteral text hsegment hmem
  | parameter kind name =>
    obtain ⟨text, htext, hmatch⟩ := exists_text_of_fit hfit hsegment
    rw [htext] at hmem
    exact Kind.not_mem_delimiters_of_matchesText hmatch mark hmem hmark

theorem IsAddressable.isPlain_fill (h : t.IsAddressable) (hfit : texts.Fit t.parameters) :
    Uri.IsPlain (t.fill texts).toList :=
  ⟨not_mem_fill (by decide) (by decide) (fun text htext => (h.literal_plain text htext).1) hfit,
    not_mem_fill (by decide) (by decide) (fun text htext => (h.literal_plain text htext).2) hfit⟩

/-! ## The slashes at the ends -/

theorem WellFormed.head?_source_ne_slash (ht : t.WellFormed) (h : segment ∈ t.segments)
    (hsource : segment.source ≠ []) : segment.source.head? ≠ some '/' := by
  cases segment with
  | literal text => exact fun hhead => ht.slash_not_mem text h (List.mem_of_mem_head? hhead)
  | parameter kind name => simp [Segment.source]

/-- The source begins with a slash only behind an empty first segment. -/
theorem exists_segments_of_leading_slash (ht : t.WellFormed)
    (h : t.raw.toList.head? = some '/') : ∃ rest, t.segments = .literal "" :: rest := by
  obtain ⟨first, rest, hsegments⟩ := List.exists_cons_of_ne_nil ht.nonempty
  refine ⟨rest, ?_⟩
  have hempty : first.source = [] := by
    by_contra hne
    have hmem : first ∈ t.segments := by simp [hsegments]
    apply ht.head?_source_ne_slash hmem hne
    obtain ⟨c, cs, hcs⟩ := List.exists_cons_of_ne_nil hne
    have hhead := Text.head?_joinPieces hne (rest.map Segment.source)
    rw [raw, String.toList_ofList, source, hsegments, List.map_cons, List.head?_append, hhead,
      hcs] at h
    rwa [hcs]
  cases first with
  | literal text => rw [hsegments, String.toList_eq_nil_iff.mp hempty]
  | parameter kind name => cases hempty

theorem parse_root : parse "/" = .ok ⟨[.literal ""], true⟩ := rfl

/-- A path without the slashes at its ends is joined from the filled segments after the first. -/
theorem trimBoth_fill {rest : List Segment} (ht : t.WellFormed) (hfit : texts.Fit t.parameters)
    (hsegments : t.segments = .literal "" :: rest)
    (hfirst : ∃ segment, rest.head? = some segment ∧ segment.source ≠ [])
    (hlast : ∃ segment, rest.getLast? = some segment ∧ segment.source ≠ []) :
    Text.trimBoth Text.isSlash (t.fill texts).toList =
      Text.joinPieces (rest.map (segmentText texts)) := by
  have hmem (segment : Segment) (h : segment ∈ rest) : segment ∈ t.segments := by
    simp [hsegments, h]
  have hslash (segment : Segment) (h : segment ∈ rest) : '/' ∉ segmentText texts segment :=
    slash_not_mem_segmentText ht hfit _ (List.mem_map.mpr ⟨segment, hmem segment h, rfl⟩)
  obtain ⟨first, hhead, hfirstSource⟩ := hfirst
  obtain ⟨last, hlast, hlastSource⟩ := hlast
  obtain ⟨more, rfl⟩ : ∃ more, rest = first :: more := by
    cases rest with
    | nil => cases hhead
    | cons _ more => exact ⟨more, by rw [Option.some.inj hhead]⟩
  have hfirstMem : first ∈ first :: more := List.mem_cons_self
  have hlastMem : last ∈ first :: more := List.mem_of_mem_getLast? hlast
  have hfirstText := segmentText_ne_nil hfit (hmem first hfirstMem) hfirstSource
  have hlastText := segmentText_ne_nil hfit (hmem last hlastMem) hlastSource
  have hjoined : (t.fill texts).toList =
      '/' :: Text.joinPieces ((first :: more).map (segmentText texts)) ++
        (if t.trailingSlash then ['/'] else []) := by
    rw [fill, String.toList_ofList, hsegments, List.map_cons, Text.joinPieces_cons (by simp)]
    rfl
  rw [hjoined, Text.trimBoth_slashes]
  · rw [List.map_cons, Text.head?_joinPieces hfirstText]
    exact fun h => hslash first hfirstMem (List.mem_of_mem_head? h)
  · rw [Text.getLast?_joinPieces (by rw [List.getLast?_map, hlast, Option.map_some]) hlastText]
    exact fun h => hslash last hlastMem (List.mem_of_mem_getLast? h)

/-- The path of a URL is cut into the filled segments. -/
theorem cuts_clean (hparse : parse raw = .ok t) (h : t.IsAddressable)
    (hfit : texts.Fit t.parameters) :
    t.Cuts (String.ofList ('/' :: Text.trimBoth Text.isSlash (t.fill texts).toList))
      (t.segments.map (segmentText texts)) := by
  have ht := wellFormed_of_parse hparse
  rcases h.ends_ne_nil with hroot | ⟨⟨first, hfirst, hfirstSource⟩, last, hlast, hlastSource⟩
  · -- The path of the root is its slash alone, which leaves an empty piece at the end.
    rw [raw_of_parse hparse] at hroot
    rw [hroot, parse_root] at hparse
    cases hparse
    have hfill : fill ⟨[.literal ""], true⟩ texts = "/" := rfl
    rw [hfill]
    exact .inr ⟨rfl, rfl⟩
  · obtain ⟨rest, hsegments⟩ := exists_segments_of_leading_slash ht h.leading_slash
    rw [hsegments, List.getElem?_cons_succ, ← List.head?_eq_getElem?] at hfirst
    have hne : rest ≠ [] := by
      rintro rfl
      cases hfirst
    rw [hsegments, List.getLast?_cons_of_ne_nil hne] at hlast
    rw [trimBoth_fill ht hfit hsegments ⟨first, hfirst, hfirstSource⟩ ⟨last, hlast, hlastSource⟩]
    have hslash := slash_not_mem_segmentText ht hfit
    have hjoined : '/' :: Text.joinPieces (rest.map (segmentText texts)) =
        Text.joinPieces (t.segments.map (segmentText texts)) := by
      rw [hsegments, List.map_cons, Text.joinPieces_cons (by simpa using hne)]
      rfl
    refine .inl ?_
    rw [String.toList_ofList, hjoined, Text.pieces_joinPieces (by simp [hsegments]) hslash]

end Template
end TypedRoutes
