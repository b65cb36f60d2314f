import TypedRoutes.Proofs.Parameter.Delimiters
import TypedRoutes.Proofs.Template.Reading
import TypedRoutes.Route.Generation

/-!
# Matching filled templates

A template matches every path that it is filled to with matched texts, and captures these texts. Of
any path it captures one text for each parameter, which the placeholder matches.
-/
namespace TypedRoutes

/-- The texts of some parameters, in the order of these; a missing text is empty. -/
def Captures.select (texts : Captures) (parameters : Named Kind) : Captures :=
  parameters.map fun (name, _) => (name, (texts.lookup name).getD "")

/-- Whether every parameter has a text that its placeholder matches. -/
def Captures.Fit (texts : Captures) (parameters : Named Kind) : Prop :=
  ∀ name kind, (name, kind) ∈ parameters →
    ∃ text, texts.lookup name = some text ∧ kind.matchesText text.toList = true

/-- Whether a text of a placeholder is one that it matches. -/
def Captures.Matched (_ : String) (kind : Kind) (text : String) : Prop :=
  kind.matchesText text.toList = true

namespace Captures

variable {texts captures : Captures} {parameters : Named Kind}

theorem names_select : Named.names (texts.select parameters) = Named.names parameters := by
  simp [select, Named.names, Function.comp_def]

theorem lookup_select {name : String} (h : name ∈ Named.names parameters) :
    (texts.select parameters).lookup name = some ((texts.lookup name).getD "") := by
  induction parameters with
  | nil => cases h
  | cons parameter rest ih =>
    obtain ⟨n, kind⟩ := parameter
    by_cases hn : name = n
    · subst hn
      exact List.lookup_cons_self
    · rw [select, List.map_cons, List.lookup_cons, beq_eq_false_iff_ne.mpr hn]
      exact ih ((List.mem_cons.mp h).resolve_left hn)

theorem Fit.of_cons {parameter : String × Kind} (h : texts.Fit (parameter :: parameters)) :
    texts.Fit parameters :=
  fun name kind hmem => h name kind (List.mem_cons_of_mem parameter hmem)

end Captures

namespace Segment

variable {segment : Segment} {segments : List Segment} {piece : List Char}
variable {pieces : List (List Char)} {captures texts : Captures}

/-! ## As many pieces as segments -/

theorem captureAll?_cons_eq_some
    (h : captureAll? (segment :: segments) pieces = some captures) :
    ∃ piece rest own others, pieces = piece :: rest ∧ segment.capture? piece = some own ∧
      captureAll? segments rest = some others ∧ captures = own ++ others := by
  cases pieces with
  | nil => cases h
  | cons piece rest =>
    simp only [captureAll?] at h
    split at h
    next own hown =>
      obtain ⟨others, hothers, rfl⟩ := Option.map_eq_some_iff.mp h
      exact ⟨piece, rest, own, others, rfl, hown, hothers, rfl⟩
    · cases h

theorem length_of_captureAll? (h : captureAll? segments pieces = some captures) :
    pieces.length = segments.length := by
  induction segments generalizing pieces captures with
  | nil =>
    cases pieces with
    | nil => rfl
    | cons _ _ => cases h
  | cons segment segments ih =>
    obtain ⟨_, rest, _, _, rfl, -, hrest, -⟩ := captureAll?_cons_eq_some h
    simp [ih hrest]

theorem captureAll?_cons {own others : Captures} (hown : segment.capture? piece = some own)
    (hothers : captureAll? segments pieces = some others) :
    captureAll? (segment :: segments) (piece :: pieces) = some (own ++ others) := by
  simp [captureAll?, hown, hothers]

/-! ## Filled segments -/

theorem captureAll?_segmentText (h : texts.Fit (segments.filterMap parameter?)) :
    captureAll? segments (segments.map (Template.segmentText texts)) =
      some (texts.select (segments.filterMap parameter?)) := by
  induction segments with
  | nil => rfl
  | cons segment segments ih =>
    cases segment with
    | literal text =>
      have hown : (literal text).capture? text.toList = some [] := by
        simp [capture?, Text.sameText_refl]
      exact captureAll?_cons hown (ih h)
    | parameter kind name =>
      obtain ⟨text, hlookup, hmatch⟩ := h name kind (by simp [parameter?])
      have hown : (parameter kind name).capture?
          (Template.segmentText texts (parameter kind name)) = some [(name, text)] := by
        simp [capture?, Template.segmentText, hlookup, hmatch]
      rw [List.map_cons, captureAll?_cons hown (ih h.of_cons)]
      simp [Captures.select, parameter?, hlookup]

theorem align_of_captureAll? (h : captureAll? segments pieces = some captures) :
    Named.Align Captures.Matched captures (segments.filterMap parameter?) := by
  induction segments generalizing pieces captures with
  | nil =>
    cases pieces with
    | nil =>
      cases h
      exact .nil
    | cons _ _ => cases h
  | cons segment segments ih =>
    obtain ⟨piece, rest, own, others, -, hown, hothers, rfl⟩ := captureAll?_cons_eq_some h
    cases segment with
    | literal text =>
      simp only [capture?] at hown
      split_ifs at hown
      cases hown
      exact ih hothers
    | parameter kind name =>
      simp only [capture?] at hown
      split_ifs at hown with hmatch
      cases hown
      exact .cons ⟨rfl, by simpa [Captures.Matched] using hmatch⟩ (ih hothers)

end Segment

namespace Template

variable {t : Template} {path : String} {pieces : List (List Char)} {captures texts : Captures}

/-- The pieces of a path that a template matches, apart from an empty one at the end. -/
def Cuts (t : Template) (path : String) (pieces : List (List Char)) : Prop :=
  Text.pieces path.toList = pieces ∨
    t.trailingSlash = true ∧ Text.pieces path.toList = pieces ++ [[]]

theorem match?_of_cuts (hpath : t.Cuts path pieces)
    (h : Segment.captureAll? t.segments pieces = some captures) :
    t.match? path = some captures := by
  rcases hpath with hpath | ⟨htrailing, hpath⟩
  · simp [match?, hpath, h]
  · -- The empty piece at the end is one too many for the first attempt.
    have hnone : Segment.captureAll? t.segments (pieces ++ [[]]) = none := by
      by_contra hsome
      obtain ⟨others, hothers⟩ := Option.ne_none_iff_exists'.mp hsome
      have hlong := Segment.length_of_captureAll? hothers
      rw [← Segment.length_of_captureAll? h, List.length_append] at hlong
      simp at hlong
    simp [match?, hpath, hnone, htrailing, withoutEmptyEnd?, h]

theorem exists_cuts_of_match? (h : t.match? path = some captures) :
    ∃ pieces, t.Cuts path pieces ∧ Segment.captureAll? t.segments pieces = some captures := by
  simp only [match?] at h
  split at h
  next others hothers =>
    cases h
    exact ⟨_, .inl rfl, hothers⟩
  · split_ifs at h with htrailing
    obtain ⟨pieces, hpieces, hcaptures⟩ := Option.bind_eq_some_iff.mp h
    refine ⟨pieces, .inr ⟨htrailing, ?_⟩, hcaptures⟩
    unfold withoutEmptyEnd? at hpieces
    split_ifs at hpieces with hlast
    rw [← Option.some.inj hpieces]
    exact (List.dropLast_append_getLast? _ hlast).symm

/-- Exactly the parameters are captured, each with a text that its placeholder matches. -/
theorem align_of_match? (h : t.match? path = some captures) :
    Named.Align Captures.Matched captures t.parameters := by
  obtain ⟨_, -, hcaptures⟩ := exists_cuts_of_match? h
  exact Segment.align_of_captureAll? hcaptures

/-! ## Filling -/

theorem slash_not_mem_segmentText (ht : t.WellFormed) (h : texts.Fit t.parameters) :
    ∀ piece ∈ t.segments.map (segmentText texts), '/' ∉ piece := by
  simp only [List.forall_mem_map]
  intro segment hsegment
  cases segment with
  | literal text => exact ht.slash_not_mem text hsegment
  | parameter kind name =>
    have hparameter : (name, kind) ∈ t.parameters :=
      List.mem_filterMap.mpr ⟨_, hsegment, rfl⟩
    obtain ⟨text, hlookup, hmatch⟩ := h name kind hparameter
    simpa [segmentText, hlookup] using Kind.slash_not_mem_of_matchesText hmatch

theorem pieces_fill (ht : t.WellFormed) (h : texts.Fit t.parameters) :
    Text.pieces (t.fill texts).toList =
      t.segments.map (segmentText texts) ++ if t.trailingSlash then [[]] else [] := by
  have hne : t.segments.map (segmentText texts) ≠ [] := by simpa using ht.nonempty
  have hslash := slash_not_mem_segmentText ht h
  unfold fill
  cases t.trailingSlash with
  | false => simp [Text.pieces_joinPieces hne hslash]
  | true => simp [Text.pieces_joinPieces_append_slash hne hslash]

theorem cuts_fill (ht : t.WellFormed) (h : texts.Fit t.parameters) :
    t.Cuts (t.fill texts) (t.segments.map (segmentText texts)) := by
  rw [Cuts, pieces_fill ht h]
  cases t.trailingSlash <;> simp

/-- A filled template is matched, and the texts that fill it are captured. -/
theorem match?_fill (ht : t.WellFormed) (h : texts.Fit t.parameters) :
    t.match? (t.fill texts) = some (texts.select t.parameters) :=
  match?_of_cuts (cuts_fill ht h) (Segment.captureAll?_segmentText h)

theorem fill_select (t : Template) (texts : Captures) :
    t.fill (texts.select t.parameters) = t.fill texts := by
  have hsegments : t.segments.map (segmentText (texts.select t.parameters)) =
      t.segments.map (segmentText texts) := by
    apply List.map_congr_left
    intro segment hsegment
    cases segment with
    | literal text => rfl
    | parameter kind name =>
      have hname : name ∈ Named.names t.parameters :=
        Named.mem_names_iff.mpr ⟨kind, List.mem_filterMap.mpr ⟨_, hsegment, rfl⟩⟩
      simp [segmentText, Captures.lookup_select hname]
  rw [fill, hsegments, fill]

/-- Only the texts of the parameters matter for a filled template. -/
theorem fill_congr {others : Captures}
    (h : ∀ name ∈ Named.names t.parameters, texts.lookup name = others.lookup name) :
    t.fill texts = t.fill others := by
  have hselect : texts.select t.parameters = others.select t.parameters := by
    apply List.map_congr_left
    rintro ⟨name, kind⟩ hmem
    dsimp only
    rw [h name (Named.mem_names_iff.mpr ⟨kind, hmem⟩)]
  rw [← fill_select t texts, hselect, fill_select]

end Template
end TypedRoutes
