import TypedRoutes.Fault.Basic
import TypedRoutes.Number.Reading
import TypedRoutes.Parameter.Form
import TypedRoutes.Text.LetterCase

/-!
# Reading and writing parameters

A scalar is written as the text of a path segment, and a text is read as a scalar of a kind. Reading
is more generous than matching: it knows further words for the truth values, signs and exponents.
-/
namespace TypedRoutes

/-- The text of a scalar in a path; an integer beyond the limit of numerals has none. -/
def Scalar.encode? : Scalar → Option (List Char)
  | .boolean b => some (if b then "true".toList else "false".toList)
  | .integer n => Number.intText? n
  | .float x => some x.plainText
  | .text s => some (Percent.encode s.toList)

/-- The words for the truth values. -/
def booleanWords : List (String × Bool) :=
  [("1", true), ("true", true), ("yes", true), ("on", true),
   ("0", false), ("false", false), ("no", false), ("off", false)]

def readBoolean? (s : String) : Option Bool :=
  booleanWords.lookup (Text.lower s)

namespace Kind

/-- Reads a text as a scalar of a kind. -/
def decode? (kind : Kind) (s : String) : Option Scalar :=
  match kind with
  | boolean => (readBoolean? s).map .boolean
  | integer =>
    match Number.readInt s.toList with
    | .value n => some (.integer n)
    | _ => none
  | float => (Number.readFloat? s.toList).bind fun x => if x.isFinite then some (.float x) else none
  | text => some (.text (String.ofList (Percent.decode s.toList)))

/-- How a text that cannot be read is shown: of a numeral beyond the limit only the start. -/
def excerpt (kind : Kind) (s : String) : String :=
  match kind, Number.readInt s.toList with
  | integer, .tooLong => String.ofList (s.toList.take 32) ++ "..."
  | _, _ => s

/-- Reads a text as a scalar of a kind, or says that it cannot be read. -/
def decode (kind : Kind) (s : String) : Except Fault Scalar :=
  match kind.decode? s with
  | some value => .ok value
  | none => .error (.textUnreadable (kind.excerpt s) kind.label none none)

end Kind

namespace Value

/-- The scalar that a value supplies for a placeholder of a kind, if it is valid for it. -/
def supplies? (value : Value) (kind : Kind) : Option Scalar :=
  match value with
  | typed t => if t.kind = kind then some t.value else none
  | value => value.toScalar?.filter kind.accepts

/-- The name of what a value is, in messages: the kind of a typed value, else its type. -/
def suppliedType : Value → String
  | typed t => t.kind.label
  | value => value.typeName

end Value

end TypedRoutes
