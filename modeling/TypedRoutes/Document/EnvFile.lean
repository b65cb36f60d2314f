import TypedRoutes.Named
import TypedRoutes.Text.Pieces

/-!
# Reading environment files

An environment file gives values to names, one binding after another. Quoted values may go over
several lines; a plain value ends at a comment. What has not the form of a binding is passed over to
the end of its line, and a name alone gives no value. A value may refer to other names, which have
the values of the lines above or of the environment.
-/
namespace TypedRoutes
namespace EnvFile

/-- What is read from the front of a text, and the rest of the text. -/
abbrev Reader (α : Type) := List Char → Option (α × List Char)

/-- Like a reader, but a failure says where the text could not be read. -/
abbrev Locator (α : Type) := List Char → Except (List Char) (α × List Char)

def Reader.locate {α : Type} (reader : Reader α) : Locator α := fun cs =>
  match reader cs with
  | some found => .ok found
  | none => .error cs

def isLineEnd (c : Char) : Bool :=
  c == '\n' || c == '\r'

def isBlankInLine (c : Char) : Bool :=
  Text.isBlank c && !isLineEnd c

def skipBlanks (cs : List Char) : List Char :=
  cs.dropWhile isBlankInLine

def restOfLine (cs : List Char) : List Char :=
  cs.dropWhile fun c => !isLineEnd c

/-- What follows the end of the current line. -/
def nextLine (cs : List Char) : List Char :=
  match restOfLine cs with
  | '\r' :: '\n' :: rest => rest
  | _ :: rest => rest
  | [] => []

/-- What follows the word `export`, if blanks do. -/
def skipExport (cs : List Char) : List Char :=
  match Text.afterLead? "export".toList cs with
  | some rest => if (rest.takeWhile isBlankInLine).isEmpty then cs else skipBlanks rest
  | none => cs

/-! ## Names -/

def isNameChar (c : Char) : Bool :=
  c != '=' && c != '#' && !Text.isBlank c

/-- Reads a name, which may be in single quotes. A comment stands for a line without a name. -/
def readName : Reader (Option (List Char))
  | '#' :: rest => some (none, '#' :: rest)
  | '\'' :: rest =>
    match Text.cut '\'' rest with
    | some (name, after) => if name.isEmpty then none else some (some name, after)
    | none => none
  | cs =>
    let name := cs.takeWhile isNameChar
    if name.isEmpty then none else some (some name, cs.dropWhile isNameChar)

/-! ## Values -/

/-- A text before its first quote that no backslash precedes, and what follows that quote. -/
def cutQuoted (quote : Char) (escaped : Bool) : Reader (List Char)
  | [] => none
  | c :: rest =>
    if c = quote && !escaped then some ([], rest)
    else (cutQuoted quote (c == '\\') rest).map fun (body, after) => (c :: body, after)

/-- A text before its last quote, and what follows that quote. -/
def cutAtLast (quote : Char) (cs : List Char) : Option (List Char × List Char) :=
  (Text.cut quote cs.reverse).map fun (after, before) => (before.reverse, after.reverse)

/-- The body of a quoted text. Where every quote has a backslash before it, the last one closes. -/
def readQuoted (quote : Char) : Reader (List Char) := fun cs =>
  match cutQuoted quote false cs with
  | some found => some found
  | none => cutAtLast quote cs

def singleEscapes : List (Char × Char) := [('\\', '\\'), ('\'', '\'')]

def doubleEscapes : List (Char × Char) :=
  [('\\', '\\'), ('\'', '\''), ('"', '"'), ('a', Char.ofNat 0x7), ('b', Char.ofNat 0x8),
   ('f', Char.ofNat 0xC), ('n', '\n'), ('r', '\r'), ('t', '\t'), ('v', Char.ofNat 0xB)]

/-- Replaces the escapes of a table. -/
def unescape (escapes : List (Char × Char)) : List Char → List Char
  | '\\' :: e :: rest =>
    match escapes.lookup e with
    | some c => c :: unescape escapes rest
    | none => '\\' :: unescape escapes (e :: rest)
  | c :: rest => c :: unescape escapes rest
  | [] => []

/-- A value without quotes: what stands before a comment, and blanks before it are no part. -/
def beforeComment : List Char → List Char
  | [] => []
  | c :: rest =>
    if Text.isBlank c && ((c :: rest).dropWhile Text.isBlank).head? == some '#' then []
    else c :: beforeComment rest

def readValue : Reader (List Char)
  | '\'' :: rest =>
    (readQuoted '\'' rest).map fun (body, after) => (unescape singleEscapes body, after)
  | '"' :: rest =>
    (readQuoted '"' rest).map fun (body, after) => (unescape doubleEscapes body, after)
  | cs =>
    some (Text.trimEnd Text.isBlank (beforeComment (cs.takeWhile fun c => !isLineEnd c)),
      restOfLine cs)

/-! ## Bindings -/

/-- Reads to the end of a line that has nothing left but a comment. -/
def readLineEnd : Reader Unit := fun cs =>
  let after := skipBlanks cs
  let stop := if after.head? = some '#' then restOfLine after else after
  match skipBlanks stop with
  | [] => some ((), [])
  | c :: rest => if isLineEnd c then some ((), nextLine (c :: rest)) else none

/-- A name, if the line has one, with the value that follows an equals sign. -/
abbrev Binding := Option (List Char × Option (List Char))

/-- Reads the value behind a name, if there is an equals sign. -/
def readAssigned : Locator (Option (List Char)) := fun cs =>
  match skipBlanks cs with
  | '=' :: rest => (Reader.locate readValue (skipBlanks rest)).map fun (value, r) => (some value, r)
  | rest => .ok (none, rest)

/-- Reads a binding to the end of its line. -/
def readBinding : Locator Binding := fun cs => do
  let (name, afterName) ← Reader.locate readName (skipExport cs)
  let (value, afterValue) ← readAssigned afterName
  let (_, rest) ← Reader.locate readLineEnd afterValue
  return (name.map fun n => (n, value), rest)

/-- The bindings of a text, each line that has none being passed over. -/
def readBindings : Nat → List Char → List Binding
  | 0, _ => []
  | fuel + 1, cs =>
    match cs.dropWhile Text.isBlank with
    | [] => []
    | start =>
      match readBinding start with
      | .ok (binding, rest) => binding :: readBindings fuel rest
      | .error place => readBindings fuel (nextLine place)

/-! ## References -/

/-- Reads what follows the dollar sign and the opening brace of a reference: a name, and what
stands in for it if it has no value. -/
def readReference : Reader (List Char × List Char) := fun cs =>
  let ends := fun c => c == '\x7d' || c == ':'
  let name := Text.upTo ends cs
  match cs.drop name.length with
  | ':' :: '-' :: rest =>
    (Text.cut '\x7d' rest).map fun (standIn, after) => ((name, standIn), after)
  | '\x7d' :: rest => some ((name, []), rest)
  | _ => none

/-- Replaces the references in a text, which has no more characters than the fuel. -/
def expand (value? : String → Option String) : Nat → List Char → List Char
  | fuel + 1, '$' :: '\x7b' :: rest =>
    match readReference rest with
    | some ((name, standIn), after) =>
      ((value? (String.ofList name)).map String.toList).getD standIn ++ expand value? fuel after
    | none => '$' :: expand value? fuel ('\x7b' :: rest)
  | fuel + 1, c :: rest => c :: expand value? fuel rest
  | _, _ => []

/-- The value that a name refers to: its value in the file so far, or in the environment. A name
that stands alone in the file has an empty value. -/
def referent? (environment : Named String) (done : Named (Option String)) (name : String) :
    Option String :=
  match done.lookup name with
  | some value => some (value.getD "")
  | none => environment.lookup name

/-- Sets a name to the value of a binding. -/
def bind (environment : Named String) (done : Named (Option String))
    (binding : List Char × Option (List Char)) : Named (Option String) :=
  let value := binding.2.map fun cs =>
    String.ofList (expand (referent? environment done) cs.length cs)
  Named.set done (String.ofList binding.1) value

/-- The values of the names in a file, each name in its first place and with its last value. -/
def read (environment : Named String) (s : String) : Named (Option String) :=
  ((readBindings (s.length + 1) s.toList).filterMap id).foldl (bind environment) []

end EnvFile
end TypedRoutes
