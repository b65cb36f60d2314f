import TypedRoutes.Document.Yaml
import TypedRoutes.Document.Json
import TypedRoutes.Files.Tree
import TypedRoutes.Routing.Registry

/-!
# Route tables

A route table is a mapping with a list of entries under `routes`, each of which names a route. The
entries are registered in order up to the first one that is malformed or refused; what was
registered before it stays.
-/
namespace TypedRoutes

namespace RouteTable

/-! ## Reading -/

def invalid {α : Type} (key reason : String) : Except Failure α :=
  .error (.fault (.configInvalid key reason))

def formatName : DocumentFormat → String
  | .json => "JSON"
  | .yaml => "YAML"

/-- Reads the document of a table in the format that the suffix of its name tells. -/
def readDocument (path : Pathname) (content : String) : Except Failure Value :=
  let document :=
    if path.suffix = ".json".toList then Json.read content else Yaml.read content
  match document with
  | .error (.malformed format) =>
    invalid (String.ofList path.text)
      ("route table could not be parsed: malformed " ++ formatName format)
  | result => result

/-- Reads the table in a file. A document that is empty or zero is an empty table. -/
def read (tree : FileTree) (name : String) : Except Failure Entries :=
  let path := Pathname.ofText name.toList
  let text := String.ofList path.text
  match tree.find path.text with
  | .error failure => .error failure
  | .ok none => invalid text "route table file does not exist"
  | .ok (some .directory) => .error (.isDirectory text)
  | .ok (some (.file content)) =>
    match readDocument path (FileTree.textOf content) with
    | .error failure => .error failure
    | .ok document =>
      match document with
      | .mapping entries => .ok entries
      | value =>
        if value.isPresent then invalid text "route table must be a mapping with a 'routes' list"
        else .ok []

/-! ## Entries -/

/-- An entry of a table: what a route is registered with. -/
structure Entry where
  name : String
  methods : Value
  template : String
  endpoint : Value

/-- The place of an entry or of a part of it, in messages. -/
def placeOf (index : Nat) (part : String) : String :=
  "routes[" ++ toString index ++ "]" ++ part

def requiredText (index : Nat) (entries : Entries) (key : String) : Except Fault String :=
  match entries.get? key with
  | none => .error (.configInvalid (placeOf index ("." ++ key)) "required key is missing")
  | some (.text s) => .ok s
  | some _ => .error (.configInvalid (placeOf index ("." ++ key)) "expected a string")

/-- Whether a value has the shape of methods in a table. -/
def areMethods : Value → Bool
  | .text _ | .list _ => true
  | _ => false

/-- Reads the entry at an index. -/
def Entry.ofValue (index : Nat) (value : Value) : Except Fault Entry :=
  match value with
  | .mapping entries => do
    let name ← requiredText index entries "name"
    let template ← requiredText index entries "template"
    let methods := (Entries.get? entries "methods").getD (.text "GET")
    if areMethods methods then
      return ⟨name, methods, template, (Entries.get? entries "endpoint").getD .null⟩
    else
      .error (.configInvalid (placeOf index ".methods")
        "expected a method string or a list of methods")
  | _ => .error (.configInvalid (placeOf index "") "expected a mapping")

/-- The list of entries of a table. -/
def entriesOf (table : Value) : Except Fault (List Value) :=
  match table with
  | .mapping entries =>
    match (Entries.get? entries "routes").getD .null with
    | .list items => .ok items
    | value =>
      if value.isPresent then .error (.configInvalid "routes" "expected a list of route entries")
      else .ok []
  | _ => .error (.configInvalid "routes" "route table must be a mapping with a 'routes' list")

end RouteTable

/-- What loading comes to: the registry after it, what was registered, and the failure that ended
it early. -/
structure Loading where
  registry : Registry
  registered : List Registration
  failure : Option Failure

namespace Loading

def routes (loading : Loading) : List Route :=
  loading.registered.map (·.route)

def result (loading : Loading) : Except Failure (List Route) :=
  match loading.failure with
  | some failure => .error failure
  | none => .ok loading.routes

/-- The records that loading leaves; the last one only if nothing failed. -/
def records (loading : Loading) : List LogRecord :=
  loading.registered.flatMap Registration.records ++
    if loading.failure.isSome then []
    else [⟨.debug, .routing, "Loaded " ++ toString loading.registered.length ++ " routes"⟩]

end Loading

namespace Registry

/-- Registers the entry at an index of a table. -/
def registerEntry (registry : Registry) (index : Nat) (value : Value) :
    Except Failure (Registry × Registration) :=
  match RouteTable.Entry.ofValue index value with
  | .error fault => .error (.fault fault)
  | .ok entry => registry.register entry.methods entry.template entry.endpoint entry.name

/-- Registers entries, of which the first stands at `index`, up to the first failing one. -/
def loadEntries (registry : Registry) (index : Nat) : List Value → Loading
  | [] => ⟨registry, [], none⟩
  | value :: rest =>
    match registry.registerEntry index value with
    | .error failure => ⟨registry, [], some failure⟩
    | .ok (next, registration) =>
      let more := loadEntries next (index + 1) rest
      { more with registered := registration :: more.registered }

/-- Registers the routes of a table. -/
def load (registry : Registry) (table : Value) : Loading :=
  match RouteTable.entriesOf table with
  | .error fault => ⟨registry, [], some (.fault fault)⟩
  | .ok entries => registry.loadEntries 0 entries

/-- Registers the routes of the table in a file. -/
def loadFile (registry : Registry) (tree : FileTree) (name : String) : Loading :=
  match RouteTable.read tree name with
  | .error failure => ⟨registry, [], some failure⟩
  | .ok entries => registry.load (.mapping entries)

end Registry

end TypedRoutes
