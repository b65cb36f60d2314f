/-!
# Diagnostics of templates

A diagnostic says what is wrong with the source of a template and where. It is displayed with the
source on a line of its own, and carets under the part that it speaks of.
-/
namespace TypedRoutes

/-- A part of a source text: positions count characters from zero, columns from one. -/
structure Span where
  start : Int
  stop : Int
  line : Int
  column : Int
deriving DecidableEq

namespace Span

/-- The part of one line from a position on. -/
def ofLength (start length : Nat) : Span :=
  ⟨start, start + length, 1, start + 1⟩

def text (span : Span) : String :=
  s!"Line {span.line}:{span.column} (pos {span.start}-{span.stop})"

/-- The line under a source that points at a part of it. -/
def underline (span : Span) : List Char :=
  List.replicate (6 + (span.column - 1).toNat) ' ' ++
    List.replicate (max 1 (span.stop - span.start).toNat) '^'

end Span

/-- What a diagnostic complains of. -/
inductive Complaint where
  | general
  | form
  | meaning
deriving DecidableEq

def Complaint.title : Complaint → String
  | general => "TemplateDiagnostic"
  | form => "TemplateSyntaxError"
  | meaning => "TemplateSemanticError"

structure Diagnostic where
  complaint : Complaint
  source : String
  reason : String
  span : Option Span
  suggestions : List String
deriving DecidableEq

namespace Diagnostic

/-- The suggestions as a numbered list. -/
def numbered (suggestions : List String) : List String :=
  suggestions.zipIdx.map fun (text, i) => s!"  {i + 1}) {text}"

/-- The diagnostic for display. -/
def format (d : Diagnostic) : String :=
  let heading := d.complaint.title ++ ": " ++ d.reason
  let source := "  --> " ++ d.source
  let carets := d.span.toList.map fun span => String.ofList span.underline
  let advice := if d.suggestions.isEmpty then [] else "\nSuggestions:" :: numbered d.suggestions
  String.intercalate "\n" (heading :: source :: carets ++ advice)

end Diagnostic

end TypedRoutes
