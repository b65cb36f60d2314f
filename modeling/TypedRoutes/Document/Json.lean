import TypedRoutes.Document.Nesting
import TypedRoutes.Number.Reading
import TypedRoutes.Text.Hex
import TypedRoutes.Text.Utf8

/-!
# Reading JSON

Besides the standard forms, the words `NaN`, `Infinity` and `-Infinity` are read. Of the entries of
an object with the same name the last gives the value. A number with a fraction or an exponent is a
floating-point value, every other number an integer. Containers within containers are followed to
a greatest depth only. A text holds no half of a surrogate pair: where an escape gives one without
the other half, the replacement character is read.
-/
namespace TypedRoutes
namespace Json

/-- What is read from the front of a text, and the rest of the text. -/
abbrev Reader (α : Type) := List Char → Except Failure (α × List Char)

def malformed {α : Type} : Except Failure α :=
  .error (.malformed .json)

def isSpace (c : Char) : Bool :=
  c == ' ' || c == '\t' || c == '\n' || c == '\r'

def skipSpace (cs : List Char) : List Char :=
  cs.dropWhile isSpace

def isAsciiDigit (c : Char) : Bool :=
  '0' ≤ c && c ≤ '9'

/-! ## Texts -/

/-- The character that an escape of one letter stands for. -/
def escaped? (c : Char) : Option Char :=
  [('"', '"'), ('\\', '\\'), ('/', '/'), ('b', Char.ofNat 0x8), ('f', Char.ofNat 0xC),
    ('n', '\n'), ('r', '\r'), ('t', '\t')].lookup c

/-- The number that four hexadecimal digits denote. -/
def unit? (a b c d : Char) : Option Nat :=
  match Text.hexValue? a, Text.hexValue? b, Text.hexValue? c, Text.hexValue? d with
  | some a, some b, some c, some d => some (((a * 16 + b) * 16 + c) * 16 + d)
  | _, _, _, _ => none

def isHighUnit (n : Nat) : Bool :=
  0xD800 ≤ n && n ≤ 0xDBFF

def isLowUnit (n : Nat) : Bool :=
  0xDC00 ≤ n && n ≤ 0xDFFF

/-- A high unit that no low unit follows is no character. -/
def loneUnit (pending : Option Nat) : List Char :=
  if pending.isSome then [Utf8.replacement] else []

/-- What is written when a unit follows a pending high unit, and the unit that is pending then. -/
def pushUnit (pending : Option Nat) (n : Nat) : List Char × Option Nat :=
  if isHighUnit n then (loneUnit pending, some n)
  else if isLowUnit n then
    match pending with
    | some high => ([Char.ofNat (0x10000 + (high - 0xD800) * 0x400 + (n - 0xDC00))], none)
    | none => ([Utf8.replacement], none)
  else (loneUnit pending ++ [Char.ofNat n], none)

/-- Reads on in a text up to its closing quote. The characters so far are given, the last first. -/
def readChars (done : List Char) (pending : Option Nat) : Reader (List Char)
  | '"' :: rest => .ok ((loneUnit pending ++ done).reverse, rest)
  | '\\' :: 'u' :: a :: b :: c :: d :: rest =>
    match unit? a b c d with
    | some n => readChars ((pushUnit pending n).1.reverse ++ done) (pushUnit pending n).2 rest
    | none => malformed
  | '\\' :: e :: rest =>
    match escaped? e with
    | some c => readChars (c :: loneUnit pending ++ done) none rest
    | none => malformed
  | c :: rest =>
    if c = '\\' || c.toNat < 0x20 then malformed
    else readChars (c :: loneUnit pending ++ done) none rest
  | [] => malformed

/-- Reads a text behind its opening quote. -/
def readText : Reader String := fun cs =>
  (readChars [] none cs).map fun (text, rest) => (String.ofList text, rest)

/-! ## Numbers -/

/-- The digits before the point: one zero, or digits that begin with no zero. -/
def splitWhole (cs : List Char) : List Char × List Char :=
  match cs with
  | '0' :: rest => (['0'], rest)
  | cs => (cs.takeWhile isAsciiDigit, cs.dropWhile isAsciiDigit)

/-- A point with digits behind it. -/
def splitFraction (cs : List Char) : List Char × List Char :=
  match cs with
  | '.' :: rest =>
    if (rest.takeWhile isAsciiDigit).isEmpty then ([], cs)
    else ('.' :: rest.takeWhile isAsciiDigit, rest.dropWhile isAsciiDigit)
  | _ => ([], cs)

/-- The sign in front of an exponent. -/
def splitExponentSign (cs : List Char) : List Char × List Char :=
  match cs with
  | c :: rest => if c = '+' || c = '-' then ([c], rest) else ([], cs)
  | [] => ([], [])

/-- The letter of an exponent with digits behind it. -/
def splitExponent (cs : List Char) : List Char × List Char :=
  match cs with
  | c :: rest =>
    let (sign, body) := splitExponentSign rest
    if (c = 'e' || c = 'E') && !(body.takeWhile isAsciiDigit).isEmpty then
      (c :: sign ++ body.takeWhile isAsciiDigit, body.dropWhile isAsciiDigit)
    else ([], cs)
  | [] => ([], [])

def integerOf (cs : List Char) : Except Failure Value :=
  match Number.readInt cs with
  | .value n => .ok (.integer n)
  | .tooLong => .error .outOfRange
  | .notNumeral => malformed

def floatOf (cs : List Char) : Except Failure Value :=
  match Number.readFloat? cs with
  | some x => .ok (.float x)
  | none => malformed

/-- Reads the longest number in front. -/
def readNumber : Reader Value := fun cs =>
  let (sign, body) := match cs with
    | '-' :: rest => (['-'], rest)
    | cs => ([], cs)
  let (whole, afterWhole) := splitWhole body
  let (fraction, afterFraction) := splitFraction afterWhole
  let (exponent, rest) := splitExponent afterFraction
  if whole.isEmpty then malformed
  else if fraction.isEmpty && exponent.isEmpty then
    (integerOf (sign ++ whole)).map fun value => (value, rest)
  else (floatOf (sign ++ whole ++ fraction ++ exponent)).map fun value => (value, rest)

/-! ## Values -/

def words : List (String × Value) :=
  [("null", .null), ("true", .boolean true), ("false", .boolean false), ("NaN", .float (.nan 0)),
   ("Infinity", .float (.infinite false)), ("-Infinity", .float (.infinite true))]

/-- Reads a word or a number. -/
def readAtom : Reader Value := fun cs =>
  let word := words.findSome? fun (text, value) =>
    (Text.afterLead? text.toList cs).map fun rest => (value, rest)
  match word with
  | some found => .ok found
  | none => readNumber cs

mutual

/-- Reads a value, with at most `depth` containers around each other. -/
def readValue : Nat → Nat → Reader Value
  | 0, _, _ => malformed
  | fuel + 1, depth, cs =>
    match cs with
    | '"' :: rest =>
      (readText rest).map fun (text, after) => (.text text, after)
    | '[' :: rest =>
      Nesting.deeper depth fun depth =>
        match skipSpace rest with
        | ']' :: after => .ok (.list [], after)
        | inner => readItems fuel depth [] inner
    | '\x7b' :: rest =>
      Nesting.deeper depth fun depth =>
        match skipSpace rest with
        | '\x7d' :: after => .ok (.mapping [], after)
        | inner => readEntries fuel depth [] inner
    | cs => readAtom cs

/-- Reads the items of a list up to its closing bracket. Those so far are given, the last first. -/
def readItems : Nat → Nat → List Value → Reader Value
  | 0, _, _, _ => malformed
  | fuel + 1, depth, done, cs =>
    match readValue fuel depth cs with
    | .error failure => .error failure
    | .ok (item, rest) =>
      match skipSpace rest with
      | ']' :: after => .ok (.list (item :: done).reverse, after)
      | ',' :: more => readItems fuel depth (item :: done) (skipSpace more)
      | _ => malformed

/-- Reads the entries of an object up to its closing brace. -/
def readEntries : Nat → Nat → Entries → Reader Value
  | 0, _, _, _ => malformed
  | fuel + 1, depth, done, cs =>
    match cs with
    | '"' :: inner =>
      match readText inner with
      | .error failure => .error failure
      | .ok (name, afterName) =>
        match skipSpace afterName with
        | ':' :: beforeValue =>
          match readValue fuel depth (skipSpace beforeValue) with
          | .error failure => .error failure
          | .ok (value, afterValue) =>
            let entries := done.insert (.text name) value
            match skipSpace afterValue with
            | '\x7d' :: after => .ok (.mapping entries, after)
            | ',' :: more => readEntries fuel depth entries (skipSpace more)
            | _ => malformed
        | _ => malformed
    | _ => malformed

end

def byteOrderMark : Char := Char.ofNat 0xFEFF

/-- Reads a document: one value with nothing but space around it. -/
def readWithin (depth : Nat) (s : String) : Except Failure Value :=
  let cs := s.toList
  if cs.head? = some byteOrderMark then malformed
  else
    match readValue (2 * cs.length + 2) depth (skipSpace cs) with
    | .error failure => .error failure
    | .ok (value, rest) => if (skipSpace rest).isEmpty then .ok value else malformed

/-- Reads a document that is not nested too deeply. -/
def read (s : String) : Except Failure Value :=
  readWithin Nesting.maxJson s

end Json
end TypedRoutes
