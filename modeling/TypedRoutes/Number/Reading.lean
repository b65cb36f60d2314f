import TypedRoutes.Number.Binary64
import TypedRoutes.Text.Blank

/-!
# Reading numbers

A floating-point numeral has digits before or after a point, or both, and may have an exponent. The
lenient readers also allow white space around a numeral and single underscores between its digits.
-/
namespace TypedRoutes
namespace Number

/-- Reads what follows the digits of a numeral: nothing, or an exponent. -/
def readExponent? : List Char → Option Int
  | [] => some 0
  | c :: cs =>
    if c = 'e' || c = 'E' then
      let (negative, body) := splitSign cs
      if body.isEmpty || !body.all Text.isDigit then none
      else some (withSign negative (ofDigits body))
    else none

/-- A fraction after a point, and what follows it. -/
def splitFraction : List Char → List Char × List Char
  | [] => ([], [])
  | c :: cs =>
    if c = '.' then (cs.takeWhile Text.isDigit, cs.dropWhile Text.isDigit) else ([], c :: cs)

/-- Reads a floating-point numeral, rounding its exact value. -/
def readFloat? (cs : List Char) : Option Binary64 :=
  let (negative, body) := splitSign cs
  let whole := body.takeWhile Text.isDigit
  let (fraction, rest) := splitFraction (body.dropWhile Text.isDigit)
  if whole.isEmpty && fraction.isEmpty then none
  else
    (readExponent? rest).map fun exponent =>
      Binary64.ofDecimal negative (ofDigits (whole ++ fraction)) (exponent - fraction.length)

/-- Removes underscores that stand between two digits; fails on any other underscore. -/
def joinGroups? (afterDigit : Bool) : List Char → Option (List Char)
  | [] => some []
  | c :: cs =>
    if c = '_' then
      match cs with
      | d :: _ => if afterDigit && Text.isDigit d then joinGroups? false cs else none
      | [] => none
    else (joinGroups? (Text.isDigit c) cs).map (c :: ·)

/-- A numeral without the white space around it and the underscores in it. -/
def compact? (cs : List Char) : Option (List Char) :=
  joinGroups? false (Text.trimBoth Text.isWhiteSpace cs)

def readLooseInt (cs : List Char) : Reading :=
  match compact? cs with
  | some body => readInt body
  | none => .notNumeral

def readLooseFloat? (cs : List Char) : Option Binary64 :=
  (compact? cs).bind readFloat?

/-- Reads a numeral or one of the words for infinity and for no number, in ASCII letters of
either case. White space around it is allowed. -/
def readFloatWord? (cs : List Char) : Option Binary64 :=
  let (negative, body) := splitSign (Text.trimBoth Text.isWhiteSpace cs)
  let word := String.ofList (body.map Char.toLower)
  if word = "inf" || word = "infinity" then some (.infinite negative)
  else if word = "nan" then some (.nan 0)
  else readLooseFloat? cs

end Number
end TypedRoutes
