import TypedRoutes.Fault.Basic
import TypedRoutes.Proofs.Template.Spans

/-!
# Where diagnostics point

A diagnostic speaks of the leftmost piece that does not go with those before it. Its span is the
one counted along the pieces, its report repeats it, and its display has carets under exactly this
part of the source.
-/
namespace TypedRoutes

/-! ## Lines -/

namespace Text

variable {line : List Char} {lines : List (List Char)}

/-- A text without line breaks is the first of the lines it is joined with. -/
theorem splitOn_intercalate_cons (hline : '\n' ∉ line) (hlines : lines ≠ []) :
    (['\n'].intercalate (line :: lines)).splitOn '\n' =
      line :: (['\n'].intercalate lines).splitOn '\n' := by
  rw [List.intercalate_cons_of_ne_nil hlines, List.append_assoc]
  exact List.splitOn_append_cons_self_of_not_mem hline _

theorem exists_splitOn_intercalate_cons (hline : '\n' ∉ line) (lines : List (List Char)) :
    ∃ rest, (['\n'].intercalate (line :: lines)).splitOn '\n' = line :: rest := by
  cases lines with
  | nil => exact ⟨[], by simpa using List.splitOn_eq_singleton hline⟩
  | cons next lines => exact ⟨_, splitOn_intercalate_cons hline (List.cons_ne_nil next lines)⟩

end Text

/-! ## Carets -/

namespace Span

variable {span : Span} {source text : List Char}

/-- What stands in front of a source that is displayed. -/
def arrow : List Char :=
  "  --> ".toList

/-- Whether a line has carets under exactly a span of a source that is displayed above it. -/
structure IsUnderlined (span : Span) (carets : List Char) : Prop where
  caret_iff : ∀ i : Nat, carets[i]? = some '^' ↔
    ∃ j : Nat, i = arrow.length + j ∧ span.start ≤ j ∧ (j : Int) < span.stop
  caret_or_blank : ∀ c ∈ carets, c = '^' ∨ c = ' '

theorem Marks.underline_eq (h : span.Marks source text) (hne : text ≠ []) :
    span.underline =
      List.replicate (6 + span.start.toNat) ' ' ++ List.replicate text.length '^' := by
  have hcolumn : (span.column - 1).toNat = span.start.toNat := by
    rw [h.column]
    omega
  have hlength : max 1 (span.stop - span.start).toNat = text.length := by
    have hpos := List.length_pos_of_ne_nil hne
    rw [h.stop]
    omega
  rw [underline, hcolumn, hlength]

theorem Marks.isUnderlined (h : span.Marks source text) (hne : text ≠ []) :
    span.IsUnderlined span.underline := by
  have hstart := h.start_nonneg
  have hstop := h.stop
  rw [h.underline_eq hne]
  constructor
  · intro i
    have harrow : arrow.length = 6 := rfl
    rw [harrow]
    constructor
    · intro hi
      rw [List.getElem?_append] at hi
      split_ifs at hi with hblank
      · rw [List.getElem?_replicate] at hi
        split_ifs at hi
        cases hi
      · obtain ⟨hlt, -⟩ := List.getElem?_eq_some_iff.mp hi
        simp only [List.length_replicate] at hblank hlt
        exact ⟨i - 6, by omega, by omega, by omega⟩
    · rintro ⟨j, rfl, hfirst, hlast⟩
      rw [List.getElem?_append_right (by simp; omega), List.getElem?_replicate, if_pos]
      simp only [List.length_replicate]
      omega
  · intro c hc
    rcases List.mem_append.mp hc with hc | hc
    · exact .inr (List.eq_of_mem_replicate hc)
    · exact .inl (List.eq_of_mem_replicate hc)

theorem newline_not_mem_underline (span : Span) : '\n' ∉ span.underline := by
  simp [underline]

theorem Marks.subset (h : span.Marks source text) : text ⊆ source := by
  intro c hc
  rw [← h.part] at hc
  exact List.mem_of_mem_take (List.mem_of_mem_drop hc)

/-- The span at a place along pieces starts behind the pieces before it. -/
theorem getElem?_along (position : Nat) (before : List (List Char)) (piece : List Char)
    (after : List (List Char)) :
    (along position (before ++ piece :: after))[before.length]? =
      some (ofLength (position + Text.offset before) piece.length) := by
  induction before generalizing position with
  | nil => rfl
  | cons p before ih =>
    rw [List.cons_append, along, List.length_cons, List.getElem?_cons_succ, ih, Text.offset]
    congr 2
    omega

end Span

/-! ## Displayed diagnostics -/

namespace Diagnostic

/-- Whether a diagnostic is displayed with a source on its second line and, on the third one, carets
under exactly a span of the source. -/
def PointsAt (d : Diagnostic) (source : List Char) (span : Span) : Prop :=
  ∃ heading carets rest,
    d.format.toList.splitOn '\n' = heading :: (Span.arrow ++ source) :: carets :: rest ∧
      span.IsUnderlined carets

/-- A heading and a source of one line each are the first two lines of the display. -/
theorem exists_lines_format {d : Diagnostic} {span : Span} (hspan : d.span = some span)
    (hreason : '\n' ∉ d.reason.toList) (hsource : '\n' ∉ d.source.toList) :
    ∃ heading rest, d.format.toList.splitOn '\n' =
      heading :: (Span.arrow ++ d.source.toList) :: span.underline :: rest := by
  have hheading : '\n' ∉ (d.complaint.title ++ ": " ++ d.reason).toList := by
    have htitle : '\n' ∉ d.complaint.title.toList := by cases d.complaint <;> decide
    simp [htitle, hreason]
  have hsecond : '\n' ∉ Span.arrow ++ d.source.toList := by
    rw [List.mem_append, not_or]
    exact ⟨by decide, hsource⟩
  simp only [format, hspan, Option.toList_some, List.map_cons, List.map_nil,
    String.toList_intercalate, List.cons_append, List.nil_append, String.toList_ofList]
  have hbreak : "\n".toList = ['\n'] := rfl
  have harrow : ("  --> " ++ d.source).toList = Span.arrow ++ d.source.toList :=
    String.toList_append
  rw [hbreak, harrow, Text.splitOn_intercalate_cons hheading (by simp),
    Text.splitOn_intercalate_cons hsecond (by simp)]
  obtain ⟨rest, hrest⟩ := Text.exists_splitOn_intercalate_cons span.newline_not_mem_underline _
  exact ⟨_, rest, by rw [hrest]⟩

/-- What a diagnostic says of a piece of a source and of where it stands. -/
structure SpeaksOf (d : Diagnostic) (raw : String) (piece : List Char) (span : Span) : Prop where
  source_eq : d.source = raw
  span_eq : d.span = some span
  marks : span.Marks raw.toList piece
  detail : (Fault.templateRejected d).report.details.lookup "span" =
    some (.mapping [(.text "start", .integer span.start), (.text "end", .integer span.stop),
      (.text "column", .integer span.column)])
  display : '\n' ∉ raw.toList → d.PointsAt raw.toList span

/-- Whether a diagnostic suggests another name than that of the first piece with it, and gives the
column of this piece. -/
def NamesFirst (d : Diagnostic) (raw : String) (name : List Char) : Prop :=
  ∃ front other back first, Template.sourcePieces raw = front ++ other :: back ∧
    Segment.IsPlaceholder other name ∧ (∀ earlier ∈ front, ¬Segment.IsPlaceholder earlier name) ∧
    (Span.along 0 (Template.sourcePieces raw))[front.length]? = some first ∧
    d.suggestions = ["Rename one of the '" ++ String.ofList name ++
      "' placeholders (first declared at column " ++ toString first.column ++ ")"]

theorem lookup_span_detail {d : Diagnostic} {span : Span} (h : d.span = some span) :
    (Fault.templateRejected d).report.details.lookup "span" = some (Fault.spanDetail span) := by
  simp only [Fault.report, Report.withDetails, Fault.diagnosticDetails, h, Option.toList_some,
    List.map_cons, List.map_nil, Named.extend, List.foldl_cons, List.foldl_nil, Named.lookup_set,
    if_true]

end Diagnostic

/-! ## Refused sources -/

namespace Segment

variable {raw : String} {before : List (List Char)} {piece : List Char} {d : Diagnostic}

theorem HasForm.subset {code name : List Char} (h : HasForm piece code name) :
    code ⊆ piece ∧ name ⊆ piece := by
  rw [h.eq]
  constructor
  · intro c hc
    simp [hc]
  · intro c hc
    simp [hc]

theorem HasForm.unique {code name code' name' : List Char} (h : HasForm piece code name)
    (h' : HasForm piece code' name') : code = code' ∧ name = name' := by
  have hread := placeholder?_eq_some_iff.mpr h
  rw [placeholder?_eq_some_iff.mpr h', Option.some_inj, Prod.mk.injEq] at hread
  exact ⟨hread.1.symm, hread.2.symm⟩

theorem Violates.span_eq (h : Violates raw before piece d) :
    d.source = raw ∧ d.span = some (Span.ofLength (Text.offset before) piece.length) := by
  cases h <;> exact ⟨rfl, rfl⟩

theorem Violates.ne_nil (h : Violates raw before piece d) : piece ≠ [] := by
  rintro rfl
  cases h with
  | malformed hbrace => exact hbrace ⟨List.not_mem_nil, List.not_mem_nil⟩
  | unknownKind hform => cases hform.eq
  | invalidName hform => cases hform.eq
  | duplicateName hpiece => cases hpiece.mem_open

/-- A reason has a line break only if the piece has one. -/
theorem Violates.newline_not_mem_reason (h : Violates raw before piece d) (hline : '\n' ∉ piece) :
    '\n' ∉ d.reason.toList := by
  have quoted {lead text : String} (hlead : '\n' ∉ lead.toList) (htext : text.toList ⊆ piece) :
      '\n' ∉ (lead ++ text ++ "'").toList := by
    simp only [String.toList_append, List.mem_append, not_or]
    exact ⟨⟨hlead, fun hmem => hline (htext hmem)⟩, by decide⟩
  cases h with
  | malformed => exact quoted (by decide) (by simp)
  | unknownKind hform => exact quoted (by decide) (by simpa using hform.subset.1)
  | invalidName hform => exact quoted (by decide) (by simpa using hform.subset.2)
  | duplicateName hpiece =>
    obtain ⟨_, hform, -, -⟩ := isPlaceholder_iff.mp hpiece
    exact quoted (by decide) (by simpa using hform.subset.2)

/-- With a piece that breaks the grammar no template begins. -/
theorem Violates.not_grammatical (h : Violates raw before piece d) (hbefore : Grammatical before) :
    ¬Grammatical (before ++ [piece]) := by
  intro hall
  obtain ⟨segments, hread⟩ := exists_ofPieces_of_grammatical recorded_nil hall
  obtain ⟨flaw, span, hrefused, -⟩ := ofPieces_of_violates recorded_nil hbefore h []
  cases hread.symm.trans hrefused

/-- A diagnostic complains of the meaning of a piece if the piece is a placeholder. -/
theorem Violates.complaint_eq_meaning_iff (h : Violates raw before piece d) :
    d.complaint = .meaning ↔ ∃ name, IsPlaceholder piece name := by
  cases h with
  | malformed hbrace hform =>
    refine ⟨nofun, ?_⟩
    rintro ⟨name, hname⟩
    obtain ⟨code, hform', -, -⟩ := isPlaceholder_iff.mp hname
    exact absurd hform' (hform code name)
  | unknownKind hform hcode =>
    refine ⟨nofun, ?_⟩
    rintro ⟨name, hname⟩
    obtain ⟨code, hform', hcode', -⟩ := isPlaceholder_iff.mp hname
    rw [(hform.unique hform').1] at hcode
    exact absurd hcode' hcode
  | invalidName hform _ hname =>
    refine ⟨nofun, ?_⟩
    rintro ⟨name, hpiece⟩
    obtain ⟨code, hform', -, hname'⟩ := isPlaceholder_iff.mp hpiece
    rw [(hform.unique hform').2] at hname
    exact absurd hname' hname
  | duplicateName hpiece => exact ⟨fun _ => ⟨_, hpiece⟩, fun _ => rfl⟩

/-- Where a placeholder is refused, an earlier one has its name. -/
theorem Violates.namesFirst {after : List (List Char)} {name : List Char}
    (h : Violates raw before piece d) (hbefore : Grammatical before)
    (heq : Template.sourcePieces raw = before ++ piece :: after)
    (hname : IsPlaceholder piece name) : d.NamesFirst raw name := by
  have hmeaning := h.complaint_eq_meaning_iff.mpr ⟨name, hname⟩
  cases h with
  | malformed => cases hmeaning
  | unknownKind => cases hmeaning
  | invalidName => cases hmeaning
  | @duplicateName front back other declared hpiece hother hcut =>
    obtain rfl := hname.name_unique hpiece
    have hpieces : Template.sourcePieces raw = front ++ other :: (back ++ piece :: after) := by
      rw [heq, hcut, List.append_assoc, List.cons_append]
    have hfirst := Span.getElem?_along 0 front other (back ++ piece :: after)
    rw [← hpieces, Nat.zero_add] at hfirst
    refine ⟨front, other, _, _, hpieces, hother, ?_, hfirst, rfl⟩
    intro earlier hearlier hdeclared
    rw [hcut] at hbefore
    have hapart := (List.pairwise_append.mp hbefore.names).2.2
    exact hapart earlier hearlier other List.mem_cons_self name hdeclared hother

end Segment

namespace Template

variable {raw : String} {d : Diagnostic}

theorem marks_of_sourcePieces {before after : List (List Char)} {piece : List Char} {span : Span}
    (heq : sourcePieces raw = before ++ piece :: after)
    (hspan : (Span.along 0 (sourcePieces raw))[before.length]? = some span) :
    span.Marks raw.toList piece := by
  have hmarks := Span.forall₂_along (sourcePieces raw) []
    (if (splitFinalSlash raw.toList).2 then ['/'] else [])
  rw [List.nil_append, joinPieces_sourcePieces] at hmarks
  have hpiece : (sourcePieces raw)[before.length]? = some piece := by simp [heq]
  obtain ⟨hlt, rfl⟩ := List.getElem?_eq_some_iff.mp hpiece
  obtain ⟨hlt', rfl⟩ := List.getElem?_eq_some_iff.mp hspan
  exact hmarks.get hlt hlt'

/-- A source that is refused has a leftmost piece that breaks the grammar. -/
theorem exists_violates_of_parse (h : parse raw = .error d) :
    ∃ before piece after, sourcePieces raw = before ++ piece :: after ∧
      Segment.Grammatical before ∧ Segment.Violates raw before piece d := by
  rcases Segment.grammatical_or_violates raw (sourcePieces raw) with
    hall | ⟨before, piece, after, d', heq, hbefore, hpiece⟩
  · obtain ⟨segments, hread⟩ :=
      Segment.exists_ofPieces_of_grammatical Segment.recorded_nil hall
    cases (parse_eq_ok_of_ofPieces hread).symm.trans h
  · obtain ⟨flaw, span, hrefused, rfl⟩ :=
      Segment.ofPieces_of_violates Segment.recorded_nil hbefore hpiece after
    cases (parse_eq_error_of_ofPieces (heq ▸ hrefused)).symm.trans h
    exact ⟨before, piece, after, heq, hbefore, hpiece⟩

/-- The diagnostic for a source that is refused speaks of the leftmost piece that does not go with
those before it, which is not empty. Where this piece repeats a name, the suggestion gives the
column of the first piece with this name. -/
theorem parse_points (h : parse raw = .error d) :
    ∃ before piece after span, sourcePieces raw = before ++ piece :: after ∧
      Segment.Grammatical before ∧ ¬Segment.Grammatical (before ++ [piece]) ∧ piece ≠ [] ∧
      (Span.along 0 (sourcePieces raw))[before.length]? = some span ∧
      d.SpeaksOf raw piece span ∧
      (d.complaint = .meaning ↔ ∃ name, Segment.IsPlaceholder piece name) ∧
      ∀ name, Segment.IsPlaceholder piece name → d.NamesFirst raw name := by
  obtain ⟨before, piece, after, heq, hbefore, hpiece⟩ := exists_violates_of_parse h
  obtain ⟨hsource, hspan⟩ := hpiece.span_eq
  have hat : (Span.along 0 (sourcePieces raw))[before.length]? =
      some (Span.ofLength (Text.offset before) piece.length) := by
    rw [heq, Span.getElem?_along, Nat.zero_add]
  have hmarks := marks_of_sourcePieces heq hat
  refine ⟨before, piece, after, _, heq, hbefore, hpiece.not_grammatical hbefore, hpiece.ne_nil, hat,
    ⟨hsource, hspan, hmarks, Diagnostic.lookup_span_detail hspan, fun hline => ?_⟩,
    hpiece.complaint_eq_meaning_iff, fun name => hpiece.namesFirst hbefore heq⟩
  have hreason := hpiece.newline_not_mem_reason fun hmem => hline (hmarks.subset hmem)
  rw [← hsource] at hline ⊢
  obtain ⟨heading, rest, hlines⟩ := Diagnostic.exists_lines_format hspan hreason hline
  exact ⟨heading, _, rest, hlines, hmarks.isUnderlined hpiece.ne_nil⟩

/-- The second of two placeholders with one name, in front of a piece that is worse. -/
theorem parse_points_repeated :
    let raw := "/\x7bi:id\x7d/x/\x7bs:id\x7d/\x7b"
    let span : Span := ⟨10, 16, 1, 11⟩
    let d : Diagnostic := ⟨.meaning, raw, "Duplicate parameter name 'id'", some span,
      ["Rename one of the 'id' placeholders (first declared at column 2)"]⟩
    parse raw = .error d ∧ '\n' ∉ raw.toList ∧ d.PointsAt raw.toList span ∧
      ∃ name, d.NamesFirst raw name := by
  intro raw span d
  have hparse : parse raw = .error d := by decide +kernel
  have hline : '\n' ∉ raw.toList := by decide
  obtain ⟨before, piece, after, span', -, -, -, -, -, hspeaks, hmeaning, hnames⟩ :=
    parse_points hparse
  obtain ⟨name, hname⟩ := hmeaning.mp rfl
  have hspan : span' = span := (Option.some.inj hspeaks.span_eq).symm
  exact ⟨hparse, hline, hspan ▸ hspeaks.display hline, name, hnames name hname⟩

end Template
end TypedRoutes
