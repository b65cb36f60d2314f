import TypedRoutes.Command.Invocation
import TypedRoutes.Command.Layout
import TypedRoutes.Routing.Resolver
import TypedRoutes.Routing.Table

/-!
# Actions on route tables

The routes of a table can be listed and checked, a request can be resolved against them, and the URL
of one of them can be built. Faults are complained of and end an action.
-/
namespace TypedRoutes

/-- What an action works with. -/
structure ActionContext where
  files : FileTree
  settings : Settings
  options : GeneralOptions
  /-- The width of lines. -/
  width : Nat

namespace ActionContext

def log (context : ActionContext) (records : List LogRecord) : Transcript Unit :=
  .log context.options.logLevel records

/-- A line that is left out of quiet output. -/
def unlessQuiet (context : ActionContext) (transcript : Transcript Unit) : Transcript Unit :=
  if context.options.isQuiet then pure () else transcript

def ifVerbose (context : ActionContext) (transcript : Transcript Unit) : Transcript Unit :=
  if context.options.isVerbose then transcript else pure ()

def crossed : String := "  " ++ Layout.cross ++ " "

def ticked : String := "  " ++ Layout.check ++ " "

/-- A resolver for the routes of the table in a file. -/
def buildResolver (context : ActionContext) (file : String) : Transcript Resolver := do
  let loading := Registry.empty.loadFile context.files file
  context.log loading.records
  let _ ← Transcript.orRefuse crossed loading.result
  context.log [loading.registry.freezeRecord]
  return ⟨loading.registry.freeze, context.settings⟩

/-! ## Listing -/

/-- A route as plain data, with its methods. -/
def summaryOf (registry : Registry) (route : Route) : Except Failure Value :=
  route.summary.map fun entries =>
    let methods := (registry.methodsFor route.name).map fun method => Value.text method.token
    .mapping (entries ++ [(.text "methods", .list methods)])

/-- The cells of a route in a table of routes. -/
def rowOf (registry : Registry) (route : Route) : Except Failure (List String) :=
  route.endpointText.map fun endpoint =>
    [Registration.methodText (registry.methodsFor route.name), route.name, route.template.raw,
      endpoint.getD ""]

/-- Lists the routes of a table. -/
def listRoutes (context : ActionContext) (file : String) (asJson : Bool) : Transcript Unit := do
  let registry := (← context.buildResolver file).registry
  if asJson then
    let summaries ← Transcript.orRefuse crossed (registry.routes.mapM (summaryOf registry))
    .line (Json.ofValue (some 2) (.list summaries))
  else
    let rows ← Transcript.orRefuse crossed (registry.routes.mapM (rowOf registry))
    context.unlessQuiet
      (Layout.sectionHeader context.width ("Routes (" ++ toString rows.length ++ ")"))
    Layout.table ["Method", "Name", "Template", "Endpoint"] rows

/-! ## Checking -/

/-- A table with a single entry. -/
def tableOf (entry : Value) : Value :=
  .mapping [(.text "routes", .list [entry])]

/-- Loads entries one by one, each as a table of its own, going on after every fault. -/
def loadEach (registry : Registry) : List Value → List Loading
  | [] => []
  | entry :: rest =>
    let loading := registry.load (tableOf entry)
    loading :: loadEach loading.registry rest

/-- What an entry is called in complaints: its name if it has one, else its place. -/
def labelOf (index : Nat) (entry : Value) : Value :=
  (entry.get? "name").getD (.text ("#" ++ toString index))

/-- Reports what loading one entry came to, and whether it failed. -/
def reportEntry (context : ActionContext) (index : Nat) (entry : Value) (loading : Loading) :
    Transcript Bool := do
  context.log loading.records
  match loading.failure with
  | some (.fault fault) =>
    let label := labelOf index entry
    if label.isShowable then
      .complain (crossed ++ label.plain ++ ": " ++ fault.text)
      return true
    else .stop (.failed .outOfRange)
  | some failure => .stop (.failed failure)
  | none =>
    context.ifVerbose <| loading.routes.forM fun route =>
      .dim (ticked ++ route.name ++ "  " ++ route.template.raw)
    return false

/-- Reports on entries, of which the first stands at `index`, and counts the failures. -/
def reportEntries (context : ActionContext) (index : Nat) :
    List (Value × Loading) → Transcript Nat
  | [] => pure 0
  | (entry, loading) :: rest => do
    let failed ← context.reportEntry index entry loading
    let more ← reportEntries context (index + 1) rest
    return (if failed then 1 else 0) + more

/-- What is checked: what can be gone through under `routes`, if anything is there. -/
def checkedEntries (table : Entries) : Except Failure (List Value) :=
  let value := (table.get? "routes").getD .null
  if value.isPresent then
    match value.items? with
    | some entries => .ok entries
    | none => .error .wrongShape
  else .ok []

/-- Checks every entry of a table. -/
def check (context : ActionContext) (file : String) : Transcript Unit := do
  let table ← Transcript.orRefuse crossed (RouteTable.read context.files file)
  let entries ← Transcript.orRefuse crossed (checkedEntries table)
  let failures ← context.reportEntries 0 (entries.zip (loadEach .empty entries))
  if failures = 0 then
    context.unlessQuiet (.success (ticked ++ toString entries.length ++ " routes compiled"))
  else
    .refuse (crossed ++ toString failures ++ " of " ++ toString entries.length ++ " routes failed")

/-! ## Resolving -/

/-- The first method that a text names. -/
def firstMethod (text : String) : Except Failure String :=
  match Method.ofValue (.text text) with
  | .error failure => .error failure
  | .ok methods => .ok ((methods.head?.map Method.token).getD "")

/-- Resolves a request. -/
def find (context : ActionContext) (file method uri : String) (showAll : Bool) :
    Transcript Unit := do
  let method ← Transcript.orRefuse crossed (firstMethod method)
  let resolver ← context.buildResolver file
  let path := Uri.clean uri resolver.settings.baseUri
  match resolver.matchAll method path with
  | [] => .refuse (crossed ++ "No route matches " ++ method ++ " " ++ path)
  | found :: others =>
    let route := found.route
    let values ← Transcript.orRefuse (crossed ++ route.name ++ ": ")
      (found.decode.mapError Failure.fault)
    .success (ticked ++ method ++ " " ++ path ++ " " ++ Layout.arrow ++ " " ++
      Style.apply { bold := true } route.name)
    context.unlessQuiet do
      Layout.pair "Template" route.template.raw
      values.forM fun (name, value) => Layout.pair name value.display
    if showAll then
      others.forM fun other =>
        .dim ("  shadowed: " ++ other.route.name ++ "  " ++ other.route.template.raw)

/-! ## Building URLs -/

/-- Reads the arguments that give values to parameters. -/
def readValues (route : Route) (done : Named Value) : List String → Transcript (Named Value)
  | [] => pure done
  | argument :: rest =>
    match Text.cut '=' argument.toList with
    | none => .refuse (crossed ++ "Expected key=value, got '" ++ argument ++ "'")
    | some (key, text) => do
      let name := String.ofList key
      match route.parameters.lookup name with
      | none =>
        .warning ("  Ignoring unknown parameter '" ++ name ++ "'")
        readValues route done rest
      | some kind =>
        let value ← Transcript.orRefuse (crossed ++ name ++ ": ")
          ((kind.decode (String.ofList text)).mapError Failure.fault)
        readValues route (Named.set done name (.ofScalar value)) rest

/-- Builds the URL of a named route. -/
def buildUrl (context : ActionContext) (file name : String) (arguments : List String)
    (withHost : Bool) : Transcript Unit := do
  let resolver ← context.buildResolver file
  match resolver.registry.findByName? name with
  | none => .refuse (crossed ++ "Unknown route '" ++ name ++ "'")
  | some route =>
    let values ← readValues route [] arguments
    match (route.build values).result with
    | .error fault => .refuse (crossed ++ fault.text)
    | .ok _ =>
      context.ifVerbose (.info ("  " ++ route.template.raw))
      let reversal := resolver.reverse name values withHost
      context.log reversal.records
      match reversal.result with
      | .ok url => .line url
      | .error fault => .stop (.failed (.fault fault))

/-- Runs an action on the table in a file. -/
def run (context : ActionContext) (file : String) : Action → Transcript Unit
  | .routes asJson => context.listRoutes file asJson
  | .check => context.check file
  | .find method uri showAll => context.find file method uri showAll
  | .url name values withHost => context.buildUrl file name values withHost

end ActionContext

end TypedRoutes
