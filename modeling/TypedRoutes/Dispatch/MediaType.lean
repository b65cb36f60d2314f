import TypedRoutes.Dispatch.MediaTable
import TypedRoutes.Text.LetterCase
import TypedRoutes.Text.Pieces

/-!
# Media types of paths

The media type of a file is told from the extension of its name, after an extension that only says
how the file is compressed. A scheme in front is not part of the path; a `data` URI names its type
itself.
-/
namespace TypedRoutes
namespace MediaType

/-- A path and the extension of its last component. Leading dots begin no extension. -/
def splitExtension (cs : List Char) : List Char × List Char :=
  let endsName := fun c : Char => c == '.' || c == '/'
  let backward := cs.reverse
  match backward.dropWhile fun c => !endsName c with
  | [] => (cs, [])
  | c :: before =>
    if c = '.' && (Text.upTo Text.isSlash before).any (· != '.') then
      (before.reverse, '.' :: (backward.takeWhile fun c => !endsName c).reverse)
    else (cs, [])

/-- The scheme in front of a text, in lower case, and what follows it. -/
def splitScheme (cs : List Char) : Option String × List Char :=
  match Text.cut ':' cs with
  | some (scheme, rest) =>
    if scheme.isEmpty || scheme.contains '/' then (none, cs)
    else (some (Text.lower (String.ofList scheme)), rest)
  | none => (none, cs)

/-- The type that a `data` URI names before its first comma. -/
def ofData? (cs : List Char) : Option String :=
  (Text.cut ',' cs).map fun (head, _) =>
    let named := Text.upTo (· == ';') head
    if named.contains '=' || !named.contains '/' then "text/plain" else String.ofList named

/-- Spells out an extension that stands for two. -/
def spellOut (path : List Char × List Char) : List Char × List Char :=
  match doubled.lookup (Text.lower (String.ofList path.2)) with
  | some both => splitExtension (path.1 ++ both.toList)
  | none => path

/-- The extension that tells the type of a path. -/
def typeExtension (cs : List Char) : String :=
  let path := spellOut (splitExtension cs)
  let extension :=
    if encodings.contains (String.ofList path.2) then (splitExtension path.1).2 else path.2
  Text.lower (String.ofList extension)

/-- The media type of a path, if it can be told. -/
def guess? (path : String) : Option String :=
  match splitScheme path.toList with
  | (some "data", rest) => ofData? rest
  | (_, rest) => types.lookup (typeExtension rest)

/-- The media type of a path. -/
def ofPath (path : String) : String :=
  (guess? path).getD "application/octet-stream"

end MediaType
end TypedRoutes
