import TypedRoutes.Proofs.Template.Grammar
import TypedRoutes.Route.Basic

/-!
# Spans of segments

Nothing of a source is lost when it is read: its segments, joined with slashes, are the source
again. The spans that the segments are read with are the positions counted along its pieces. They
follow each other with one slash between them, from the start of the source to its end or to its final slash.
-/
namespace TypedRoutes

namespace Span

variable {ps : List (List Char)}

/-- The part of a text that a span speaks of. -/
def part (span : Span) (cs : List Char) : List Char :=
  (cs.take span.stop.toNat).drop span.start.toNat

/-- Whether a span says where a text stands in a source of one line. -/
structure Marks (span : Span) (source text : List Char) : Prop where
  part : span.part source = text
  start_nonneg : 0 ≤ span.start
  stop : span.stop = span.start + text.length
  stop_le : span.stop ≤ source.length
  line : span.line = 1
  column : span.column = span.start + 1

/-- The spans of pieces with one slash between them, from a position on. -/
def along (position : Nat) : List (List Char) → List Span
  | [] => []
  | p :: ps => ofLength position p.length :: along (position + p.length + 1) ps

theorem marks_ofLength (before piece after : List Char) :
    (ofLength before.length piece.length).Marks (before ++ piece ++ after) piece where
  part := by
    have hstop : ((before.length : Int) + piece.length).toNat = (before ++ piece).length := by
      rw [List.length_append]
      omega
    simp only [Span.part, ofLength, hstop, List.take_left, Int.toNat_natCast, List.drop_left]
  start_nonneg := Int.natCast_nonneg _
  stop := rfl
  stop_le := by
    simp only [ofLength, List.length_append]
    omega
  line := rfl
  column := rfl

/-! ## Pieces in a row -/

/-- The spans along pieces mark these in every text that joins them behind so many characters. -/
theorem forall₂_along (ps : List (List Char)) (before after : List Char) :
    List.Forall₂ (fun piece span => span.Marks (before ++ Text.joinPieces ps ++ after) piece) ps
      (along before.length ps) := by
  induction ps generalizing before with
  | nil => exact .nil
  | cons p ps ih =>
    cases ps with
    | nil =>
      rw [Text.joinPieces_singleton]
      exact .cons (marks_ofLength before p after) .nil
    | cons q qs =>
      -- The pieces behind `p` stand behind everything up to the slash that ends it.
      have hsource : before ++ Text.joinPieces (p :: q :: qs) ++ after =
          before ++ p ++ ('/' :: Text.joinPieces (q :: qs) ++ after) := by
        rw [Text.joinPieces_cons (List.cons_ne_nil q qs)]
        simp
      have hbehind : before ++ Text.joinPieces (p :: q :: qs) ++ after =
          (before ++ p ++ ['/']) ++ Text.joinPieces (q :: qs) ++ after := by
        rw [hsource]
        simp
      have hlength : (before ++ p ++ ['/']).length = before.length + p.length + 1 := by
        simp [Nat.add_assoc]
      refine .cons ?_ ?_
      · rw [hsource]
        exact marks_ofLength before p _
      · rw [hbehind, ← hlength]
        exact ih (before ++ p ++ ['/'])

theorem head?_along (h : ps ≠ []) (position : Nat) :
    (along position ps).head?.map Span.start = some (position : Int) := by
  obtain ⟨p, ps, rfl⟩ := List.exists_cons_of_ne_nil h
  rfl

theorem isChain_along (position : Nat) (ps : List (List Char)) :
    (along position ps).IsChain fun span next => next.start = span.stop + 1 := by
  induction ps generalizing position with
  | nil => exact .nil
  | cons p ps ih =>
    cases ps with
    | nil => exact .singleton _
    | cons q qs => exact .cons_cons (by simp [ofLength]) (ih _)

theorem getLast?_along (h : ps ≠ []) (position : Nat) :
    (along position ps).getLast?.map Span.stop =
      some ((position : Int) + (Text.joinPieces ps).length) := by
  induction ps generalizing position with
  | nil => exact absurd rfl h
  | cons p ps ih =>
    cases ps with
    | nil =>
      rw [Text.joinPieces_singleton]
      rfl
    | cons q qs =>
      have hlast := ih (List.cons_ne_nil q qs) (position + p.length + 1)
      rw [along, along, List.getLast?_cons_cons, ← along, hlast,
        Text.joinPieces_cons (List.cons_ne_nil q qs), List.length_append, List.length_cons]
      congr 1
      push_cast
      omega

end Span

namespace Segment

variable {piece : List Char}

/-- Segments are read with the spans along their pieces. -/
theorem spans_of_ofPieces {position : Nat} {seen : List (String × Int)} {ps : List (List Char)}
    {placed : List (Segment × Span)} (h : ofPieces position seen ps = .ok placed) :
    placed.map Prod.snd = Span.along position ps := by
  induction ps generalizing position seen placed with
  | nil =>
    cases h
    rfl
  | cons piece rest ih =>
    rcases ofPieces_cons_eq_ok h with ⟨_, _, rfl, -, htail⟩ | ⟨_, _, _, _, rfl, -, -, htail⟩
    · rw [List.map_cons, ih htail, Span.along]
    · rw [List.map_cons, ih htail, Span.along]

/-! ## Placeholders -/

theorem IsPlaceholder.mem_open {name : List Char} (h : IsPlaceholder piece name) :
    '\x7b' ∈ piece := by
  obtain ⟨-, code, -, rfl⟩ := h
  simp

/-- The placeholders that are read are the pieces with a brace. -/
theorem placeholders_of_forall₂ {ps : List (List Char)} {segments : List Segment}
    (h : List.Forall₂ (fun piece segment => ofPiece piece = .ok segment) ps segments) :
    (segments.filterMap parameter?).map (fun (name, kind) => (parameter kind name).source) =
      ps.filter fun piece => '\x7b' ∈ piece := by
  induction h with
  | nil => rfl
  | @cons piece segment ps segments hpiece _ ih =>
    cases segment with
    | literal text =>
      have hplain : '\x7b' ∉ piece := (isLiteral_of_ofPiece hpiece).1
      rw [List.filterMap_cons_none rfl, ih, List.filter_cons_of_neg (by simpa using hplain)]
    | parameter kind name =>
      have hopen : '\x7b' ∈ piece := (isPlaceholder_of_ofPiece hpiece).mem_open
      rw [List.filterMap_cons_some (f := parameter?) rfl, List.map_cons, ih,
        List.filter_cons_of_pos (by simpa using hopen)]
      exact congrArg (· :: _) (source_of_ofPiece hpiece)

end Segment

namespace Template

variable {raw : String} {t : Template}

/-- The source of a template is its body, cut into pieces, and perhaps a final slash. -/
theorem joinPieces_sourcePieces (raw : String) :
    Text.joinPieces (sourcePieces raw) ++ (if (splitFinalSlash raw.toList).2 then ['/'] else []) =
      raw.toList := by
  rw [sourcePieces, Text.joinPieces_pieces]
  exact splitFinalSlash_append raw.toList

theorem read_eq_of_parse (h : parse raw = .ok t) :
    read raw = .ok (t, Span.along 0 (sourcePieces raw)) := by
  obtain ⟨spans, hread⟩ := exists_read_of_parse h
  obtain ⟨placed, hplaced, -, rfl⟩ := exists_ofPieces_of_read hread
  rw [hread, Segment.spans_of_ofPieces hplaced]

/-- Whether spans say where the segments of a template stand in its source, one behind the other. -/
structure Tiles (source : List Char) (t : Template) (spans : List Span) : Prop where
  marks : List.Forall₂ (fun segment span => span.Marks source segment.source) t.segments spans
  first : spans.head?.map Span.start = some 0
  next : spans.IsChain fun span next => next.start = span.stop + 1
  last : spans.getLast?.map Span.stop =
    some ((source.length : Int) - if t.trailingSlash then 1 else 0)

theorem tiles_of_parse (h : parse raw = .ok t) :
    Tiles raw.toList t (Span.along 0 (sourcePieces raw)) := by
  have hne : sourcePieces raw ≠ [] := Text.pieces_ne_nil _
  have hraw := joinPieces_sourcePieces raw
  rw [← trailingSlash_of_parse h] at hraw
  constructor
  · have hmarks := Span.forall₂_along (sourcePieces raw) [] (if t.trailingSlash then ['/'] else [])
    rw [List.nil_append, hraw] at hmarks
    rw [← sources_of_parse h] at hmarks ⊢
    exact List.forall₂_map_left_iff.mp hmarks
  · exact Span.head?_along hne 0
  · exact Span.isChain_along 0 _
  · rw [Span.getLast?_along hne 0, ← hraw, List.length_append]
    cases t.trailingSlash <;> simp

/-- Reading loses nothing of a source, and the spans that its segments are read with are counted
along its pieces and tile it. The parameters of every route with this source are its placeholders
from left to right. -/
theorem parse_tiles (h : parse raw = .ok t) :
    Text.joinPieces (t.segments.map Segment.source) ++ (if t.trailingSlash then ['/'] else []) =
      raw.toList ∧
    (∃ spans, read raw = .ok (t, spans) ∧ spans = Span.along 0 (sourcePieces raw) ∧
      Tiles raw.toList t spans) ∧
    ∀ endpoint name, ∃ route, Route.ofSource raw endpoint name = .ok route ∧
      route.parameters.map (fun (name, kind) => (Segment.parameter kind name).source) =
        (sourcePieces raw).filter (fun piece => '\x7b' ∈ piece) ∧
      (Named.names route.parameters).Nodup := by
  refine ⟨?_, ⟨_, read_eq_of_parse h, rfl, tiles_of_parse h⟩, fun endpoint name => ?_⟩
  · have hraw := joinPieces_sourcePieces raw
    rwa [← sources_of_parse h, ← trailingSlash_of_parse h] at hraw
  · refine ⟨⟨name.getD raw, t, endpoint⟩, by rw [Route.ofSource, h]; rfl, ?_, ?_⟩
    · exact Segment.placeholders_of_forall₂ (forall₂_of_parse h)
    · exact (wellFormed_of_parse h).names_nodup

/-- Empty pieces in the middle and at the end, and a slash behind them that is no piece. -/
theorem parse_tiles_doubled :
    let raw := "a//\x7bi:id\x7d//"
    let t : Template :=
      ⟨[.literal "a", .literal "", .parameter .integer "id", .literal ""], true⟩
    let spans : List Span := [⟨0, 1, 1, 1⟩, ⟨2, 2, 1, 3⟩, ⟨3, 9, 1, 4⟩, ⟨10, 10, 1, 11⟩]
    parse raw = .ok t ∧ read raw = .ok (t, spans) ∧ Tiles raw.toList t spans ∧
      ∃ route, Route.ofSource raw .null none = .ok route ∧
        route.parameters.map (fun (name, kind) => (Segment.parameter kind name).source) =
          ["\x7bi:id\x7d".toList] := by
  intro raw t spans
  have hparse : parse raw = .ok t := by decide +kernel
  have hread : read raw = .ok (t, spans) := by decide +kernel
  obtain ⟨-, ⟨_, hread', -, htiles⟩, hroutes⟩ := parse_tiles hparse
  cases hread.symm.trans hread'
  obtain ⟨route, hroute, hparameters, -⟩ := hroutes .null none
  exact ⟨hparse, hread, htiles, route, hroute, hparameters.trans (by decide +kernel)⟩

end Template
end TypedRoutes
