import TypedRoutes.Config.Settings
import TypedRoutes.Route.Generation
import TypedRoutes.Routing.Registry

/-!
# Resolving requests and reversing names

A request resolves to the first registered route for its method that accepts its path. The URL of a
named route is its path behind the base URI; where no path can be built, a lenient resolver gives
the base URI alone and warns.
-/
namespace TypedRoutes

structure Resolver where
  registry : Registry
  settings : Settings

/-- The URL of a named route, or why there is none, with the records that finding it leaves. -/
structure Reversal where
  records : List LogRecord
  result : Except Fault String

namespace Resolver

/-- The matches of the routes for a method that accept a path, in order of registration. -/
def matchAll (resolver : Resolver) (method path : String) : List RouteMatch :=
  Route.matchAll (resolver.registry.routesForToken method) path

/-- The match of the first route for a method that accepts a path. -/
def resolve? (resolver : Resolver) (method path : String) : Option RouteMatch :=
  Route.matchFirst? (resolver.registry.routesForToken method) path

/-- What the URL of every route begins with. -/
def urlPrefix (resolver : Resolver) (withHost : Bool) : String :=
  let base := resolver.settings.baseUri
  if withHost && resolver.settings.appUrl != "" then
    String.ofList (Text.dropTrailingSlashes resolver.settings.appUrl.toList) ++ base
  else base

/-- A path behind a URL. -/
def appendPath (url path : String) : String :=
  url ++ String.ofList (Text.dropLeadingSlashes path.toList)

def warning (fault : Fault) : LogRecord :=
  ⟨.warning, .routing, fault.message⟩

/-- The URL of a route with values in the places of its parameters. -/
def urlOf (resolver : Resolver) (route : Route) (values : Named Value) (withHost : Bool) :
    Reversal :=
  let url := resolver.urlPrefix withHost
  let generation := route.build values
  if resolver.settings.strictGeneration then
    ⟨[], generation.strict.map (appendPath url)⟩
  else
    match generation.result with
    | .ok path => ⟨generation.records, .ok (appendPath url path)⟩
    | .error fault => ⟨generation.records ++ [warning fault], .ok url⟩

/-- The URL of a named route. -/
def reverse (resolver : Resolver) (name : String) (values : Named Value) (withHost : Bool) :
    Reversal :=
  match resolver.registry.findByName? name with
  | some route => resolver.urlOf route values withHost
  | none =>
    if resolver.settings.strictGeneration then ⟨[], .error (.routeUnknown name)⟩
    else ⟨[warning (.routeUnknown name)], .ok (resolver.urlPrefix withHost)⟩

end Resolver

end TypedRoutes
