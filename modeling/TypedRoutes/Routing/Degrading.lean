import TypedRoutes.Route.Operation
import TypedRoutes.Routing.Resolver

/-!
# Reversing step by step

The URL of a named route is found in steps of which any may end with a fault. A resolver catches the
faults of generation alone: a strict one passes them on, a lenient one records them and gives what
every URL begins with.
-/
namespace TypedRoutes

/-- Whether a fault is one of generation. -/
def Fault.isOfGeneration : Fault → Bool
  | parameterUnknown .. | parameterMistyped .. | parametersMissing .. | routeUnknown _ => true
  | _ => false

namespace Resolver

/-- Passes a fault on, or records it and goes on with a URL that has no path. -/
def degrade (resolver : Resolver) (url : String) (fault : Fault) : Generating String := do
  if resolver.settings.strictGeneration then
    throw (some fault)
  modify fun records => records ++ [warning fault]
  return url

/-- What is done about the end of a generation: only faults of generation are caught. -/
def recover (resolver : Resolver) (url : String) : Option Fault → Generating String
  | some fault => if fault.isOfGeneration then resolver.degrade url fault else throw (some fault)
  | none => throw none

/-- The URL of a named route, step by step. -/
def reverseEach (resolver : Resolver) (name : String) (values : Named Value) (withHost : Bool) :
    Generating String :=
  let url := resolver.urlPrefix withHost
  match resolver.registry.findByName? name with
  | none => resolver.degrade url (.routeUnknown name)
  | some route =>
    tryCatch (do
      let path ← route.generate values resolver.settings.strictGeneration
      return appendPath url path) (resolver.recover url)

end Resolver

end TypedRoutes
