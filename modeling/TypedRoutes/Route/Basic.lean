import TypedRoutes.Parameter.Codec
import TypedRoutes.Template.Matching
import TypedRoutes.Template.Parser

/-!
# Routes

A route is a template with a name and an endpoint. It accepts a path by its template and decodes
what the placeholders captured.
-/
namespace TypedRoutes

structure Route where
  name : String
  template : Template
  endpoint : Value

/-- The values of the parameters of a route, by name and in order. -/
abbrev Arguments := Named Scalar

namespace Route

/-- A route from the source of its template, which also names it if no name is given. -/
def ofSource (source : String) (endpoint : Value) (name : Option String) :
    Except Diagnostic Route :=
  (Template.parse source).map fun template => ⟨name.getD source, template, endpoint⟩

def parameters (route : Route) : Named Kind :=
  route.template.parameters

/-- Reads the captured text of one parameter. -/
def decodeParameter (route : Route) (name : String) (kind : Kind) (text : String) :
    Except Fault Scalar :=
  match kind.decode? text with
  | some value => .ok value
  | none => .error (.textUnreadable text kind.label (some name) (some route.name))

/-- Reads the captured texts of parameters, the first unreadable one in order deciding the fault. -/
def decodeAll (route : Route) (captures : Captures) : Named Kind → Except Fault Arguments
  | [] => .ok []
  | (name, kind) :: rest =>
    match route.decodeParameter name kind ((captures.lookup name).getD "") with
    | .error fault => .error fault
    | .ok value => (decodeAll route captures rest).map fun values => (name, value) :: values

/-- The declared names without an entry in a table. -/
def namesMissingFrom {α : Type} (route : Route) (table : Named α) : List String :=
  (Named.names route.parameters).filter fun name => (table.lookup name).isNone

/-- The values of the parameters of a route, from their texts. -/
def decode (route : Route) (captures : Captures) : Except Fault Arguments :=
  match route.namesMissingFrom captures with
  | [] => route.decodeAll captures route.parameters
  | missing => .error (.parametersMissing route.name missing)

end Route

/-- A route that accepts a path, with the texts that its placeholders captured. -/
structure RouteMatch where
  route : Route
  captures : Captures

namespace RouteMatch

def decode (m : RouteMatch) : Except Fault Arguments :=
  m.route.decode m.captures

end RouteMatch

namespace Route

def match? (route : Route) (path : String) : Option RouteMatch :=
  (route.template.match? path).map fun captures => ⟨route, captures⟩

/-- The matches of the routes that accept a path, in order. -/
def matchAll (routes : List Route) (path : String) : List RouteMatch :=
  routes.filterMap fun route => route.match? path

/-- The match of the first route that accepts a path. -/
def matchFirst? (routes : List Route) (path : String) : Option RouteMatch :=
  routes.findSome? fun route => route.match? path

theorem matchFirst?_eq_head? (routes : List Route) (path : String) :
    matchFirst? routes path = (matchAll routes path).head? := by
  rw [matchFirst?, matchAll, List.head?_filterMap]

end Route

end TypedRoutes
