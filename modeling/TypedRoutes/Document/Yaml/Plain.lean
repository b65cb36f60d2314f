import TypedRoutes.Document.Yaml.Cursor
import TypedRoutes.Number.Reading
import TypedRoutes.Text.Hex

/-!
# The values of plain scalars

A plain scalar is null, a truth value, an integer, a floating-point value or a text, by its form
alone. Numbers may have underscores between their digits, and parts in base 60 between colons.
-/
namespace TypedRoutes
namespace Yaml

def nullWords : List String := ["~", "null", "Null", "NULL", ""]

def trueWords : List String := ["yes", "Yes", "YES", "true", "True", "TRUE", "on", "On", "ON"]

def falseWords : List String := ["no", "No", "NO", "false", "False", "FALSE", "off", "Off", "OFF"]

/-- The word that stands for a value by default; as a key it is a text. -/
def defaultWord : String := "="

/-- The key that brings the entries of other mappings into a mapping. -/
def mergeWord : String := "<<"

def isDigit (c : Char) : Bool :=
  '0' ≤ c && c ≤ '9'

def isDigitOrUnderscore (c : Char) : Bool :=
  isDigit c || c == '_'

def dropUnderscores (cs : List Char) : List Char :=
  cs.filter (· != '_')

/-! ## Integers -/

/-- The number that digits of a base denote; there has to be one. -/
def ofBase (base : Nat) (cs : List Char) : Option Nat :=
  if cs.isEmpty then none
  else some (cs.foldl (fun n c => base * n + (Text.hexValue? c).getD 0) 0)

/-- The ways to write an integer, each by its base. -/
inductive IntegerForm where
  | digits (base : Nat) (cs : List Char)
  | decimal (cs : List Char)
  | sixtieths (leading : List Char) (parts : List (List Char))

/-- Whether a part behind a colon is a number below sixty. -/
def isSixtieth (cs : List Char) : Bool :=
  match cs with
  | [d] => isDigit d
  | [t, d] => '0' ≤ t && t ≤ '5' && isDigit d
  | _ => false

def startsNonzero (cs : List Char) : Bool :=
  match cs with
  | c :: _ => isDigit c && c != '0'
  | [] => false

/-- The form of a text without its sign, if it has the form of an integer. -/
def integerForm? (cs : List Char) : Option IntegerForm :=
  match cs with
  | '0' :: 'b' :: rest =>
    if !rest.isEmpty && rest.all (fun c => c == '0' || c == '1' || c == '_') then
      some (.digits 2 (dropUnderscores rest))
    else none
  | '0' :: 'x' :: rest =>
    if !rest.isEmpty && rest.all (fun c => Text.isHexDigit c || c == '_') then
      some (.digits 16 (dropUnderscores rest))
    else none
  | '0' :: rest =>
    if rest.all (fun c => ('0' ≤ c && c ≤ '7') || c == '_') then
      some (.digits 8 ('0' :: dropUnderscores rest))
    else none
  | cs =>
    match cs.splitOn ':' with
    | leading :: parts =>
      if startsNonzero leading && leading.all isDigitOrUnderscore && parts.all isSixtieth then
        some (if parts.isEmpty then .decimal (dropUnderscores leading)
          else .sixtieths (dropUnderscores leading) parts)
      else none
    | [] => none

def inSixtieths (leading : Nat) (parts : List (List Char)) : Nat :=
  parts.foldl (fun n part => 60 * n + Number.ofDigits part) leading

/-- The magnitude of an integer, if it can be read. -/
def IntegerForm.magnitude? : IntegerForm → Option Nat
  | digits base cs => ofBase base cs
  | decimal cs => if cs.length ≤ Number.numeralLimit then some (Number.ofDigits cs) else none
  | sixtieths leading parts =>
    if leading.length ≤ Number.numeralLimit then
      some (inSixtieths (Number.ofDigits leading) parts)
    else none

/-! ## Floating-point values -/

/-- Whether a text is empty or an exponent with a sign. -/
def isExponentOrNone (cs : List Char) : Bool :=
  match cs with
  | [] => true
  | e :: s :: ds =>
    (e == 'e' || e == 'E') && (s == '-' || s == '+') && !ds.isEmpty && ds.all isDigit
  | _ => false

/-- Whether a text without a sign has digits, a point, further digits and an exponent. -/
def isPointed (cs : List Char) : Bool :=
  match cs with
  | '.' :: d :: rest => isDigit d && isExponentOrNone (rest.dropWhile isDigitOrUnderscore)
  | d :: rest =>
    match rest.dropWhile isDigitOrUnderscore with
    | '.' :: rest => isDigit d && isExponentOrNone (rest.dropWhile isDigitOrUnderscore)
    | _ => false
  | [] => false

/-- The numerals between the colons of a text without a sign, if it has parts in base 60 of which
the last has a point. -/
def pointedParts? (cs : List Char) : Option (List (List Char)) :=
  match Text.cut '.' cs with
  | none => none
  | some (whole, fraction) =>
    match whole.splitOn ':' with
    | leading :: part :: parts =>
      let starts := match leading with
        | d :: _ => isDigit d
        | [] => false
      if starts && leading.all isDigitOrUnderscore && (part :: parts).all isSixtieth &&
          fraction.all isDigitOrUnderscore then
        some ((dropUnderscores cs).splitOn ':')
      else none
    | _ => none

/-- What fits where it is needed. -/
def fitting {α : Type} : Option α → Except Failure α
  | some x => .ok x
  | none => .error .tooLarge

/-- Adds parts in base 60, the lowest first, to a total: every part times its power of sixty, each
step being rounded. -/
def addSixtieths (power : Nat) (total : Binary64) : List Binary64 → Except Failure Binary64
  | [] => .ok total
  | part :: rest =>
    (fitting (Binary64.ofNat? power)).bind fun factor =>
      addSixtieths (60 * power) (total.add (part.mul factor)) rest

/-- The value of parts in base 60, the highest first. -/
def sixtieths (parts : List (List Char)) : Except Failure Binary64 :=
  addSixtieths 1 (.zero false) (parts.filterMap Number.readFloat?).reverse

def infinityWords : List String := [".inf", ".Inf", ".INF"]

def nanWords : List String := [".nan", ".NaN", ".NAN"]

/-- The floating-point value of a text that has the form of one. All texts for no number stand for
one value. -/
def float? (cs : List Char) : Option (Except Failure Binary64) :=
  let (negative, body) := Number.splitSign cs
  if nanWords.contains (String.ofList cs) then some (.ok (.nan 0))
  else if infinityWords.contains (String.ofList body) then some (.ok (.infinite negative))
  else if isPointed body && (body.head? != some '.' || cs.head? == some '.') then
    (Number.readFloat? (dropUnderscores cs)).map .ok
  else
    (pointedParts? body).map fun parts =>
      (sixtieths parts).map fun x => if negative then x.negate else x

/-! ## All forms -/

/-- The value of a plain scalar. -/
def plainValue (cs : List Char) : Except Failure Value :=
  let s := String.ofList cs
  if nullWords.contains s then .ok .null
  else if trueWords.contains s then .ok (.boolean true)
  else if falseWords.contains s then .ok (.boolean false)
  else if s = defaultWord || s = mergeWord then malformed
  else
    let (negative, body) := Number.splitSign cs
    match integerForm? body with
    | some form =>
      match form.magnitude? with
      | some n => .ok (.integer (Number.withSign negative n))
      | none => .error .outOfRange
    | none =>
      match float? cs with
      | some x => x.map .float
      | none => .ok (.text s)

end Yaml
end TypedRoutes
