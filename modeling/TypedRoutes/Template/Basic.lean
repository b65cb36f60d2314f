import TypedRoutes.Parameter.Kind
import TypedRoutes.Text.Pieces

/-!
# Templates

A template is a sequence of segments, each a literal or a placeholder, and a flag for an optional
slash at the end. Its source joins the sources of the segments with slashes.
-/
namespace TypedRoutes

inductive Segment where
  | literal (text : String)
  | parameter (kind : Kind) (name : String)
deriving DecidableEq

namespace Segment

/-- The source of a segment: a literal as it is, a placeholder in braces. -/
def source : Segment → List Char
  | literal text => text.toList
  | parameter kind name => '\x7b' :: kind.code :: ':' :: name.toList ++ ['\x7d']

def parameter? : Segment → Option (String × Kind)
  | literal _ => none
  | parameter kind name => some (name, kind)

end Segment

structure Template where
  segments : List Segment
  trailingSlash : Bool
deriving DecidableEq

namespace Template

/-- The source that a template is read from. -/
def source (t : Template) : List Char :=
  Text.joinPieces (t.segments.map Segment.source) ++ (if t.trailingSlash then ['/'] else [])

def raw (t : Template) : String :=
  String.ofList t.source

/-- The names and kinds of the placeholders, from left to right. -/
def parameters (t : Template) : List (String × Kind) :=
  t.segments.filterMap Segment.parameter?

end Template

end TypedRoutes
