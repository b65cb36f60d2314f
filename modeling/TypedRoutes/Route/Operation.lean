import TypedRoutes.Route.Generation

/-!
# Generating step by step

Building goes through the supplied values one by one and keeps the complaints and the texts so far.
Generating then goes through the diagnostics: a strict generation ends with the first of them, a
lenient one leaves a record of each and ends only where there is no path.
-/
namespace TypedRoutes

def Fault.isParametersMissing : Fault → Bool
  | parametersMissing .. => true
  | _ => false

/-- The diagnostic that tells of parameters without a value, if there is one. -/
def Generation.missing? (g : Generation) : Option Fault :=
  g.diagnostics.find? Fault.isParametersMissing

namespace Route

/-- What building has come to so far. -/
structure Progress where
  complaints : List Fault
  texts : Captures

/-- Goes on with one supplied value. -/
def Progress.next (route : Route) (progress : Progress) (entry : String × Value) : Progress :=
  match route.place entry.1 entry.2 with
  | .ok text => { progress with texts := Named.set progress.texts entry.1 text }
  | .error fault => { progress with complaints := progress.complaints ++ [fault] }

/-- Builds a path value by value. -/
def buildEach (route : Route) (values : Named Value) : Generation :=
  let progress := values.foldl (Progress.next route) ⟨[], []⟩
  { complaints := progress.complaints
    result :=
      match route.namesMissingFrom progress.texts with
      | [] => .ok (route.template.fill progress.texts)
      | missing => .error (.parametersMissing route.name missing) }

end Route

/-- A sequence of steps that leaves records. It ends with a result or with a fault; to end without
either would be an error of its own. -/
abbrev Generating (α : Type) := ExceptT (Option Fault) (StateM (List LogRecord)) α

namespace Generating

variable {α : Type}

/-- What steps come to behind some records, and the records that they leave. -/
def on (steps : Generating α) (records : List LogRecord) :
    Except (Option Fault) α × List LogRecord :=
  StateT.run (ExceptT.run steps) records

/-- Tells of one diagnostic: a strict generation ends with it. -/
def tell (strict : Bool) (fault : Fault) : Generating Unit := do
  if strict then
    throw (some fault)
  unless fault.isParametersMissing do
    modify fun records => records ++ [⟨.warning, .templates, fault.message⟩]

end Generating

/-- Generates a path of a route from values. -/
def Route.generate (route : Route) (values : Named Value) (strict : Bool) : Generating String := do
  let generation := route.build values
  generation.diagnostics.forM (Generating.tell strict)
  match generation.path? with
  | some path => return path
  | none => throw generation.missing?

end TypedRoutes
