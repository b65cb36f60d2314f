import TypedRoutes.Document.Json
import TypedRoutes.Text.LetterCase

/-!
# Guessing the value of a text

Settings that come as text are read as a truth value, a number or a JSON container if they look
like one, and are texts otherwise.
-/
namespace TypedRoutes

/-- The truth value that a text is a word for. -/
def truthWord? (s : String) : Option Bool :=
  [("true", true), ("yes", true), ("false", false), ("no", false)].lookup (Text.lower s)

/-- The number that a text with a point, or one without, is the numeral of. -/
def numeral? (cs : List Char) : Option Value :=
  if cs.contains '.' then (Number.readLooseFloat? cs).map .float
  else
    match Number.readLooseInt cs with
    | .value n => some (.integer n)
    | _ => none

/-- The JSON container that a text is, or the text itself if it is none. -/
def containerOrText (s : String) : Except Failure Value :=
  if s.toList.head? = some '[' || s.toList.head? = some '\x7b' then
    match Json.read s with
    | .error (.malformed _) => .ok (.text s)
    | result => result
  else .ok (.text s)

/-- The value that a text is taken for. -/
def Value.guess (s : String) : Except Failure Value :=
  match truthWord? s with
  | some b => .ok (.boolean b)
  | none =>
    match numeral? s.toList with
    | some value => .ok value
    | none => containerOrText s

end TypedRoutes
