import TypedRoutes.Parameter.Kind
import TypedRoutes.Text.Percent

/-!
# Matchable texts

The texts that a placeholder of each kind matches. They have no sign and no exponent, and no
character that a URL would not hold as it is.
-/
namespace TypedRoutes

/-- A sequence of unreserved characters and percent escapes. -/
def isUrlText : List Char → Bool
  | [] => true
  | c :: a :: b :: rest =>
    if c = '%' then Text.isHexDigit a && Text.isHexDigit b && isUrlText rest
    else Percent.isUnreserved c && isUrlText (a :: b :: rest)
  | c :: rest => Percent.isUnreserved c && isUrlText rest

/-- At least one digit, and nothing else. -/
def areDigits (cs : List Char) : Bool :=
  !cs.isEmpty && cs.all Text.isDigit

/-- What may follow the digits of a number: nothing, or a point with digits. -/
def isFraction : List Char → Bool
  | [] => true
  | c :: cs => c == '.' && areDigits cs

/-- Whether a placeholder of a kind matches a text. -/
def Kind.matchesText : Kind → List Char → Bool
  | .boolean, cs => cs == "true".toList || cs == "false".toList
  | .integer, cs => areDigits cs
  | .float, cs =>
    areDigits (cs.takeWhile Text.isDigit) && isFraction (cs.dropWhile Text.isDigit)
  | .text, cs => !cs.isEmpty && isUrlText cs

end TypedRoutes
