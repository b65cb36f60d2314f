import TypedRoutes.Text.Pieces

/-!
# Request paths

The path that routes are matched against is a normal form of the request URI: without query and
fragment, without the base URI of the application, with one slash in front and none behind. Joining
paths leaves single slashes between the parts.
-/
namespace TypedRoutes
namespace Uri

/-- The part of a URI before its query and its fragment. -/
def pathPart (uri : List Char) : List Char :=
  Text.upTo (fun c => c == '?' || c == '#') uri

/-- A path without the base URI that it is under. -/
def withoutBase (base path : List Char) : List Char :=
  if base.isEmpty then path
  else
    match Text.afterLead? base path with
    | some rest => rest
    | none => if path = Text.dropTrailingSlashes base then [] else path

/-- The path that routes are matched against. -/
def clean (uri base : String) : String :=
  String.ofList ('/' :: Text.trimBoth Text.isSlash (withoutBase base.toList (pathPart uri.toList)))

def endsWithSlash (cs : List Char) : Bool :=
  cs.getLast? == some '/'

/-- Joins parts with single slashes. A slash at the end of the last part is kept. -/
def join (parts : List String) : String :=
  let trimmed := (parts.map fun part => Text.trimBoth Text.isSlash part.toList).filter (· != [])
  let joined := '/' :: Text.joinPieces trimmed
  let keepsEnd := match parts.getLast? with
    | some last => endsWithSlash last.toList
    | none => false
  String.ofList (if keepsEnd && joined != ['/'] then joined ++ ['/'] else joined)

/-- A text with exactly one slash at its end. -/
def withTrailingSlash (s : String) : String :=
  String.ofList (Text.dropTrailingSlashes s.toList ++ ['/'])

theorem withTrailingSlash_withTrailingSlash (s : String) :
    withTrailingSlash (withTrailingSlash s) = withTrailingSlash s := by
  unfold withTrailingSlash
  rw [String.toList_ofList, Text.dropTrailingSlashes_append_slash,
    Text.dropTrailingSlashes_dropTrailingSlashes]

end Uri
end TypedRoutes
