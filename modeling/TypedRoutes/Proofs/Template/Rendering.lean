import TypedRoutes.Proofs.Template.Grammar
import TypedRoutes.Proofs.Template.Matching

/-!
# The source in a path

A filled template is its source with every placeholder replaced: it is cut into as many pieces, and
every piece is one of the source or the text for its name.
-/
namespace TypedRoutes
namespace Template

/-- How a piece of the source stands in a path: a literal as it is, and in the place of a
placeholder the text for its name. -/
inductive Renders (texts : Captures) : List Char → List Char → Prop
  | literal {piece : List Char} (h : Segment.IsLiteral piece) : Renders texts piece piece
  | placeholder {piece : List Char} {name text : String}
    (h : Segment.IsPlaceholder piece name.toList) (htext : texts.lookup name = some text) :
    Renders texts piece text.toList

variable {t : Template} {raw : String} {texts : Captures} {ps : List (List Char)}
variable {segments : List Segment}

theorem forall₂_renders_segmentText
    (h : List.Forall₂ (fun piece segment => Segment.ofPiece piece = .ok segment) ps segments)
    (hfit : texts.Fit (segments.filterMap Segment.parameter?)) :
    List.Forall₂ (Renders texts) ps (segments.map (segmentText texts)) := by
  induction h with
  | nil => exact .nil
  | @cons piece segment _ _ hpiece _ ih =>
    cases segment with
    | literal text =>
      have hsource : text.toList = piece := Segment.source_of_ofPiece hpiece
      refine .cons ?_ (ih hfit)
      rw [segmentText, hsource]
      exact .literal (Segment.isLiteral_of_ofPiece hpiece)
    | parameter kind name =>
      obtain ⟨text, htext, -⟩ := hfit name kind (by simp [Segment.parameter?])
      refine .cons ?_ (ih hfit.of_cons)
      rw [segmentText, htext]
      exact .placeholder (Segment.isPlaceholder_of_ofPiece hpiece) htext

/-- The pieces of a filled template are those of its source with every placeholder replaced. -/
theorem forall₂_renders_fill (hparse : parse raw = .ok t) (hfit : texts.Fit t.parameters) :
    List.Forall₂ (Renders texts) (Text.pieces raw.toList) (Text.pieces (t.fill texts).toList) := by
  rw [pieces_fill (wellFormed_of_parse hparse) hfit, pieces_of_parse hparse,
    sources_of_parse hparse]
  refine List.rel_append (forall₂_renders_segmentText (forall₂_of_parse hparse) hfit) ?_
  cases t.trailingSlash with
  | false => exact .nil
  | true => exact .cons (.literal ⟨List.not_mem_nil, List.not_mem_nil⟩) .nil

end Template
end TypedRoutes
