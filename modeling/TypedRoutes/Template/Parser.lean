import TypedRoutes.Template.Basic
import TypedRoutes.Template.Diagnostic
import TypedRoutes.Text.Percent

/-!
# Reading templates

At most one slash is removed from the end of the source, and the rest is cut at its slashes. A
piece without braces is a literal. A piece in braces has a code and a name with a colon between
them. Each segment is read with its span, which says where in the source it stands. The leftmost
piece that is neither, or that repeats a name, decides the diagnostic.
-/
namespace TypedRoutes

/-- What is wrong with a piece of a template. -/
inductive Flaw where
  | malformed (piece : String)
  | unknownKind (code : String)
  | invalidName (name : String)
  | duplicateName (name : String) (firstColumn : Int)
deriving DecidableEq

namespace Flaw

def complaint : Flaw → Complaint
  | duplicateName .. => .meaning
  | _ => .form

def reason : Flaw → String
  | malformed piece => "Malformed placeholder '" ++ piece ++ "'"
  | unknownKind code => "Unknown parameter type '" ++ code ++ "'"
  | invalidName name => "Invalid parameter name '" ++ name ++ "'"
  | duplicateName name _ => "Duplicate parameter name '" ++ name ++ "'"

def suggestions : Flaw → List String
  | malformed _ =>
    ["Placeholders fill a whole segment: \x7b<type>:<name>\x7d",
      "<type> is one of " ++
        String.intercalate ", " (Kind.codes.map fun code => String.ofList [code])]
  | unknownKind _ =>
    Kind.all.map fun kind => String.ofList [kind.code] ++ " (" ++ kind.label ++ ")"
  | invalidName _ => ["Parameter names use letters and digits only: [A-Za-z0-9]+"]
  | duplicateName name firstColumn =>
    ["Rename one of the '" ++ name ++ "' placeholders (first declared at column " ++
      toString firstColumn ++ ")"]

def diagnostic (flaw : Flaw) (source : String) (span : Span) : Diagnostic :=
  ⟨flaw.complaint, source, flaw.reason, some span, flaw.suggestions⟩

end Flaw

def isBrace (c : Char) : Bool :=
  c == '\x7b' || c == '\x7d'

/-- The text before a closing brace at the end. -/
def beforeClosing? (cs : List Char) : Option (List Char) :=
  if cs.getLast? = some '\x7d' then some cs.dropLast else none

/-- The code and the name of a piece that has the form of a placeholder. -/
def placeholder? : List Char → Option (List Char × List Char)
  | [] => none
  | c :: inner =>
    if c = '\x7b' then
      match Text.cut ':' inner with
      | none => none
      | some (code, rest) =>
        match beforeClosing? rest with
        | none => none
        | some name => if code.any isBrace || name.any isBrace then none else some (code, name)
    else none

/-- Reads one piece. -/
def Segment.ofPiece (piece : List Char) : Except Flaw Segment :=
  match placeholder? piece with
  | none =>
    if piece.any isBrace then .error (.malformed (String.ofList piece))
    else .ok (.literal (String.ofList piece))
  | some (code, name) =>
    match Kind.ofCode? code with
    | none => .error (.unknownKind (String.ofList code))
    | some kind =>
      if name.isEmpty || !name.all Percent.isAlphanumeric then
        .error (.invalidName (String.ofList name))
      else .ok (.parameter kind (String.ofList name))

/-- Reads pieces that stand from a position on, given the columns of the names before them. -/
def Segment.ofPieces (position : Nat) (seen : List (String × Int)) :
    List (List Char) → Except (Flaw × Span) (List (Segment × Span))
  | [] => .ok []
  | piece :: rest =>
    let span := Span.ofLength position piece.length
    let next := position + piece.length + 1
    match Segment.ofPiece piece with
    | .error flaw => .error (flaw, span)
    | .ok (.literal text) =>
      (Segment.ofPieces next seen rest).map fun placed => (.literal text, span) :: placed
    | .ok (.parameter kind name) =>
      match seen.lookup name with
      | some column => .error (.duplicateName name column, span)
      | none =>
        (Segment.ofPieces next ((name, span.column) :: seen) rest).map fun placed =>
          (.parameter kind name, span) :: placed

/-- A text without its final slash, and whether it had one. -/
def splitFinalSlash (cs : List Char) : List Char × Bool :=
  if cs.getLast? = some '/' then (cs.dropLast, true) else (cs, false)

/-- Reads a template, with the spans of its segments. -/
def Template.read (raw : String) : Except Diagnostic (Template × List Span) :=
  let (body, trailingSlash) := splitFinalSlash raw.toList
  match Segment.ofPieces 0 [] (Text.pieces body) with
  | .ok placed => .ok (⟨placed.map Prod.fst, trailingSlash⟩, placed.map Prod.snd)
  | .error (flaw, span) => .error (flaw.diagnostic raw span)

/-- The template that a source is read as. -/
def Template.parse (raw : String) : Except Diagnostic Template :=
  (Template.read raw).map Prod.fst

end TypedRoutes
