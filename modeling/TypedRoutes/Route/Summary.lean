import TypedRoutes.Route.Basic
import TypedRoutes.Template.Pattern
import TypedRoutes.Value.Json

/-!
# Summaries of routes

A route as plain data. An endpoint that is not a text is given by its name or by its text, which it
has only within the limit of numerals.
-/
namespace TypedRoutes

namespace Segment

def summary : Segment → Value
  | literal text => .mapping [(.text "kind", .text "static"), (.text "value", .text text)]
  | parameter kind name =>
    .mapping [(.text "kind", .text "param"), (.text "name", .text name),
      (.text "type", .text kind.label)]

end Segment

namespace Route

/-- The endpoint as a text, if there is one. -/
def endpointText (route : Route) : Except Failure (Option String) :=
  match route.endpoint with
  | .null => .ok none
  | .text s => .ok (some s)
  | .handler _ name => .ok (some name)
  | value => if value.isShowable then .ok (some value.display) else .error .outOfRange

/-- The entries of a summary, given the text of the endpoint. -/
def summaryWith (route : Route) (endpoint : Option String) : Entries :=
  [(.text "name", .text route.name),
   (.text "raw", .text route.template.raw),
   (.text "endpoint", (endpoint.map Value.text).getD .null),
   (.text "parameters",
     .mapping (route.parameters.map fun (name, kind) => (.text name, .text kind.label))),
   (.text "pattern", .text route.template.pattern),
   (.text "segments", .list (route.template.segments.map Segment.summary))]

/-- A route as plain data. -/
def summary (route : Route) : Except Failure Entries :=
  route.endpointText.map route.summaryWith

/-- A route as JSON text. -/
def toJson (route : Route) (indent : Option Int) : Except Failure String :=
  route.summary.map fun entries => Json.ofValue indent (.mapping entries)

end Route

end TypedRoutes
