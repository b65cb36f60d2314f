import TypedRoutes.Log
import TypedRoutes.Route.Basic

/-!
# Paths from values

A path is built from a template by putting the text of a value in the place of every placeholder.
Every supplied value either fills a placeholder or is complained of; a placeholder that nothing
fills leaves no path.
-/
namespace TypedRoutes

namespace Template

/-- The text of a segment, a placeholder being filled from a table. -/
def segmentText (texts : Captures) : Segment → List Char
  | .literal text => text.toList
  | .parameter _ name => ((texts.lookup name).getD "").toList

/-- The path with every placeholder filled from a table. -/
def fill (t : Template) (texts : Captures) : String :=
  String.ofList <|
    Text.joinPieces (t.segments.map (segmentText texts)) ++ (if t.trailingSlash then ['/'] else [])

end Template

/-- What building a path comes to: the complaints about supplied values, and the path or the fault
that names the parameters left without a value. -/
structure Generation where
  complaints : List Fault
  result : Except Fault String

namespace Generation

def path? (g : Generation) : Option String :=
  g.result.toOption

def diagnostics (g : Generation) : List Fault :=
  match g.result with
  | .ok _ => g.complaints
  | .error fault => g.complaints ++ [fault]

/-- The records of the complaints, where these are only warned of. -/
def records (g : Generation) : List LogRecord :=
  g.complaints.map fun fault => ⟨.warning, .templates, fault.message⟩

/-- The path if there is nothing to complain of, else the first complaint. -/
def strict (g : Generation) : Except Fault String :=
  match g.complaints with
  | fault :: _ => .error fault
  | [] => g.result

end Generation

namespace Route

/-- The text that a supplied value puts in the place of a parameter, or the complaint about it. -/
def place (route : Route) (name : String) (value : Value) : Except Fault String :=
  match route.parameters.lookup name with
  | none => .error (.parameterUnknown name route.name)
  | some kind =>
    match value.supplies? kind with
    | none => .error (.parameterMistyped name kind.label value.suppliedType)
    | some scalar =>
      match scalar.encode?.filter kind.matchesText with
      | some text => .ok (String.ofList text)
      | none =>
        .error (.parameterMistyped name kind.label
          (value.suppliedType ++ " outside the matchable range"))

/-- The texts of the supplied values that fill a placeholder. -/
def placed (route : Route) (values : Named Value) : Captures :=
  values.filterMap fun (name, value) =>
    (route.place name value).toOption.map fun text => (name, text)

/-- The complaints about the other supplied values, in order. -/
def complaints (route : Route) (values : Named Value) : List Fault :=
  values.filterMap fun (name, value) =>
    match route.place name value with
    | .ok _ => none
    | .error fault => some fault

/-- Builds a path from values. -/
def build (route : Route) (values : Named Value) : Generation :=
  let texts := route.placed values
  { complaints := route.complaints values
    result :=
      match route.namesMissingFrom texts with
      | [] => .ok (route.template.fill texts)
      | missing => .error (.parametersMissing route.name missing) }

end Route

end TypedRoutes
