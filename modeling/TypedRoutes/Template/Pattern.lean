import TypedRoutes.Template.Basic

/-!
# Regular expressions of templates

The regular expression that describes the paths of a template: literals with their special
characters escaped, one group for each placeholder, and an optional slash at the end if the template
has one there. Groups are case-sensitive in an expression that otherwise ignores case.
-/
namespace TypedRoutes

/-- The expression for the texts of a kind. -/
def Kind.fragment : Kind → String
  | .boolean => "true|false"
  | .float => "\\d+(?:\\.\\d+)?"
  | .integer => "\\d+"
  | .text => "(?:[A-Za-z0-9._~\\-]|%[0-9A-Fa-f]\x7b2\x7d)+"

namespace Pattern

/-- The characters that stand for themselves only after a backslash. -/
def specials : List Char :=
  "()[]\x7b\x7d?*+-|^$\\.&~# \t\n\r\x0b\x0c".toList

def escapeChar (c : Char) : List Char :=
  if specials.contains c then ['\\', c] else [c]

def escape (cs : List Char) : List Char :=
  cs.flatMap escapeChar

def ofSegment : Segment → List Char
  | .literal text => escape text.toList
  | .parameter kind _ => "((?-i:".toList ++ kind.fragment.toList ++ "))".toList

end Pattern

/-- The regular expression of a template. -/
def Template.pattern (t : Template) : String :=
  String.ofList <|
    Text.joinPieces (t.segments.map Pattern.ofSegment) ++
      (if t.trailingSlash then ['/', '?'] else [])

end TypedRoutes
