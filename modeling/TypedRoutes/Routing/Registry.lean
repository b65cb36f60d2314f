import TypedRoutes.Log
import TypedRoutes.Route.Summary
import TypedRoutes.Routing.Method

/-!
# The registry of routes

A registry keeps two tables of its routes: under their names, and for each method under their names
once more. Both keep the order of registration. A registration is accepted or refused as a whole,
and once a registry is frozen it accepts no more.
-/
namespace TypedRoutes

/-- A route with the methods it is registered for. -/
structure Registration where
  route : Route
  methods : List Method

/-- The routes of every method that has some, by name. -/
abbrev MethodTable := List (Method × Named Route)

namespace MethodTable

/-- Enters a route under a method; a method without routes gets its place at the end. -/
def enter (route : Route) : MethodTable → Method → MethodTable
  | [], method => [(method, [(route.name, route)])]
  | (m, routes) :: rest, method =>
    if m = method then (m, routes.set route.name route) :: rest
    else (m, routes) :: enter route rest method

def methods (table : MethodTable) : List Method :=
  table.map (·.1)

/-- The routes under a method. -/
def routesAt (table : MethodTable) (method : Method) : Named Route :=
  (table.lookup method).getD []

end MethodTable

structure Registry where
  byMethod : MethodTable
  byName : Named Route
  isFrozen : Bool

namespace Registry

def empty : Registry := ⟨[], [], false⟩

/-! ## Views -/

def routes (registry : Registry) : List Route :=
  registry.byName.map (·.2)

def names (registry : Registry) : List String :=
  Named.names registry.byName

def size (registry : Registry) : Nat :=
  registry.byName.length

def contains (registry : Registry) (name : String) : Bool :=
  (registry.byName.lookup name).isSome

def find? (registry : Registry) (name : String) : Option Route :=
  registry.byName.lookup name

/-- The routes that are registered for a method, in order of registration. -/
def routesFor (registry : Registry) (method : Method) : List Route :=
  (registry.byMethod.routesAt method).map (·.2)

/-- The routes that are registered for the method that a token names in any letter case. -/
def routesForToken (registry : Registry) (token : String) : List Route :=
  match Method.ofName? token with
  | some method => registry.routesFor method
  | none => []

/-- The methods that some route is registered for, in the order in which they first appear. -/
def methods (registry : Registry) : List Method :=
  registry.byMethod.methods

/-- The methods that a named route is registered for. -/
def methodsFor (registry : Registry) (name : String) : List Method :=
  MethodTable.methods (registry.byMethod.filter fun (_, routes) => (routes.lookup name).isSome)

/-- The named route, looked for under one method after the other. -/
def findByName? (registry : Registry) (name : String) : Option Route :=
  registry.methods.findSome? fun method => (registry.byMethod.routesAt method).lookup name

/-! ## Changes -/

def freeze (registry : Registry) : Registry :=
  { registry with isFrozen := true }

/-- Enters a route in both tables. -/
def add (registry : Registry) (registration : Registration) : Registry :=
  let route := registration.route
  { registry with
    byMethod := registration.methods.foldl (MethodTable.enter route) registry.byMethod
    byName := registry.byName.set route.name route }

/-- What a registration comes to, or why it is refused: the registry is frozen, the name is taken,
the methods are not all supported, or the template cannot be read. -/
def check (registry : Registry) (methods : Value) (source : String) (endpoint : Value)
    (name : String) : Except Failure Registration :=
  if registry.isFrozen then .error (.fault (.registryFrozen name))
  else if registry.contains name then
    .error (.fault (.nameTaken name ((registry.methodsFor name).map Method.token)))
  else
    match Method.ofValue methods with
    | .error failure => .error failure
    | .ok methods =>
      match Route.ofSource source endpoint (some name) with
      | .error diagnostic => .error (.fault (.templateRejected diagnostic))
      | .ok route => .ok ⟨route, methods⟩

/-- Registers a route. A refused registration leaves nothing behind. -/
def register (registry : Registry) (methods : Value) (source : String) (endpoint : Value)
    (name : String) : Except Failure (Registry × Registration) :=
  (registry.check methods source endpoint name).map fun registration =>
    (registry.add registration, registration)

/-! ## Records -/

def freezeRecord (registry : Registry) : LogRecord :=
  ⟨.debug, .routing, "Registry frozen with " ++ toString registry.size ++ " routes"⟩

/-- The text of a registry: how many routes it has, and whether it is frozen. -/
def display (registry : Registry) : String :=
  "RouteRegistry(routes=" ++ toString registry.size ++ ", frozen=" ++
    Scalar.display (.boolean registry.isFrozen) ++ ")"

end Registry

namespace Registration

def methodText (methods : List Method) : String :=
  String.intercalate "|" (methods.map Method.token)

/-- The records that a registration leaves. -/
def records (registration : Registration) : List LogRecord :=
  let route := registration.route
  [⟨.debug, .templates,
      "Compiled template '" ++ route.template.raw ++ "' -> " ++ route.template.pattern⟩,
    ⟨.debug, .routing,
      "Registered route '" ++ route.name ++ "' " ++ methodText registration.methods ++ " " ++
        route.template.raw⟩]

end Registration

end TypedRoutes
