import TypedRoutes.Routing.Table

/-!
# Registering step by step

A registration as a sequence of checks and writes, and loading as a sequence of registrations. A
check may refuse and end the sequence, and nothing takes back what was written before it.
-/
namespace TypedRoutes
namespace Registry

/-- A sequence of checks and writes on a registry. -/
abbrev Operation (α : Type) := ExceptT Failure (StateM Registry) α

namespace Operation

variable {α : Type}

/-- What an operation comes to on a registry, and the registry that it leaves. -/
def on (operation : Operation α) (registry : Registry) : Except Failure α × Registry :=
  StateT.run (ExceptT.run operation) registry

/-- A check: goes on with a result or refuses. -/
def require (result : Except Failure α) : Operation α :=
  ExceptT.mk (pure result)

/-- A write to the routes of a method. -/
def enterAt (route : Route) (method : Method) : Operation Unit :=
  modify fun registry => { registry with byMethod := registry.byMethod.enter route method }

/-- A write to the named routes. -/
def enterName (route : Route) : Operation Unit :=
  modify fun registry => { registry with byName := registry.byName.set route.name route }

/-- Registers a route: first the checks in their order, then one write for each method and one for
the name. -/
def register (methods : Value) (source : String) (endpoint : Value) (name : String) :
    Operation Registration := do
  let registry ← get
  if registry.isFrozen then
    throw (.fault (.registryFrozen name))
  if registry.contains name then
    throw (.fault (.nameTaken name ((registry.methodsFor name).map Method.token)))
  let methods ← require (Method.ofValue methods)
  let route ← require <|
    (Route.ofSource source endpoint (some name)).mapError fun diagnostic =>
      .fault (.templateRejected diagnostic)
  methods.forM (enterAt route)
  enterName route
  return ⟨route, methods⟩

/-- Reads the entry at an index of a table and registers it. -/
def registerEntry (index : Nat) (value : Value) : Operation Registration := do
  let entry ← require ((RouteTable.Entry.ofValue index value).mapError .fault)
  register entry.methods entry.template entry.endpoint entry.name

/-- Registers entries, of which the first stands at `index`. An entry is read only after those
before it are registered. -/
def loadEntries (index : Nat) : List Value → Operation (List Route)
  | [] => return []
  | value :: rest => do
    let registration ← registerEntry index value
    let others ← loadEntries (index + 1) rest
    return registration.route :: others

/-- Registers the routes of a table. -/
def load (table : Value) : Operation (List Route) := do
  let values ← require ((RouteTable.entriesOf table).mapError .fault)
  loadEntries 0 values

end Operation
end Registry
end TypedRoutes
