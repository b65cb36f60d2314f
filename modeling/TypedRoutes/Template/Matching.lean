import TypedRoutes.Named
import TypedRoutes.Parameter.Form
import TypedRoutes.Template.Basic
import TypedRoutes.Text.LetterCase

/-!
# Matching paths

A path matches a template piece by piece. A literal matches its own text up to case, a placeholder
matches the texts of its kind and captures them. A template with a slash at its end also matches
paths that have one empty piece more.
-/
namespace TypedRoutes

/-- The texts of the placeholders of a template, by name and in order. -/
abbrev Captures := Named String

namespace Segment

/-- What a segment captures of a piece that it matches. -/
def capture? (segment : Segment) (piece : List Char) : Option Captures :=
  match segment with
  | literal text => if Text.sameText text.toList piece then some [] else none
  | parameter kind name =>
    if kind.matchesText piece then some [(name, String.ofList piece)] else none

/-- What segments capture of as many pieces. -/
def captureAll? : List Segment → List (List Char) → Option Captures
  | [], [] => some []
  | segment :: segments, piece :: pieces =>
    match segment.capture? piece with
    | some own => (captureAll? segments pieces).map (own ++ ·)
    | none => none
  | _, _ => none

end Segment

/-- Pieces without an empty piece at the end. -/
def withoutEmptyEnd? (pieces : List (List Char)) : Option (List (List Char)) :=
  if pieces.getLast? = some [] then some pieces.dropLast else none

/-- What a template captures of a path that it matches. -/
def Template.match? (t : Template) (path : String) : Option Captures :=
  let pieces := Text.pieces path.toList
  match Segment.captureAll? t.segments pieces with
  | some captures => some captures
  | none =>
    if t.trailingSlash then (withoutEmptyEnd? pieces).bind (Segment.captureAll? t.segments)
    else none

def Template.matchesPath (t : Template) (path : String) : Bool :=
  (t.match? path).isSome

/-- What a template captures of a path, nothing if it does not match it. -/
def Template.extract (t : Template) (path : String) : Captures :=
  (t.match? path).getD []

end TypedRoutes
