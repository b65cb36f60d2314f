import TypedRoutes.Dispatch.MediaType
import TypedRoutes.Files.Tree
import TypedRoutes.Routing.Resolver

/-!
# Dispatching requests

A request is cleaned, resolved and decoded, and the endpoint of its route is classified: a handler
is to be called, a script to be run, any other file to be sent. Whatever is missing on the way, or
cannot be read, is answered with a status and perhaps a redirect.
-/
namespace TypedRoutes

/-- What a request leads to. -/
inductive Outcome where
  | handler (route : Route) (arguments : Arguments)
  | script (route : Route) (arguments : Arguments) (file : String)
  | file (route : Route) (arguments : Arguments) (file : String)
  /-- No registered route accepts the path. -/
  | notRouted (fault : Fault)
  /-- The parameters of the route cannot be read. -/
  | unreadable (route : Route) (fault : Fault)
  /-- The endpoint of the route is not there. -/
  | notFound (route : Route) (fault : Fault)

/-- A resolver with the settings that requests are dispatched by, and the files that endpoints can
be. -/
structure Dispatcher where
  resolver : Resolver
  settings : Settings
  files : FileTree

/-- A request in the form in which it is routed. -/
structure Request where
  method : String
  path : String
deriving DecidableEq

namespace Dispatcher

def clean (dispatcher : Dispatcher) (uri : String) : String :=
  Uri.clean uri dispatcher.settings.baseUri

/-- A request from a method in any letter case and a URI. -/
def request (dispatcher : Dispatcher) (method uri : String) : Request :=
  ⟨Text.upper method, dispatcher.clean uri⟩

/-- The file that a text names as an endpoint. -/
def endpointPath (dispatcher : Dispatcher) (endpoint : String) : Pathname :=
  (Pathname.ofText dispatcher.settings.pagesDirectory.toList).join (.ofText endpoint.toList)

/-- Classifies an endpoint by what the path that it names leads to. -/
def serve (route : Route) (arguments : Arguments) (path : Pathname) :
    Option FileTree.Entry → Outcome
  | some (.file _) =>
    let file := String.ofList path.text
    if path.suffix = ".py".toList then .script route arguments file
    else .file route arguments file
  | _ => .notFound route (.endpointMissing (String.ofList path.text) route.name)

/-- Classifies the endpoint of a route. -/
def classify (dispatcher : Dispatcher) (route : Route) (arguments : Arguments) :
    Except Failure Outcome :=
  match route.endpoint with
  | .null => .ok (.notFound route (.endpointMissing "<none>" route.name))
  | .text endpoint =>
    let path := dispatcher.endpointPath endpoint
    (dispatcher.files.find path.text).map (serve route arguments path)
  | _ => .ok (.handler route arguments)

/-- What a request leads to. -/
def outcome (dispatcher : Dispatcher) (request : Request) : Except Failure Outcome :=
  match dispatcher.resolver.resolve? request.method request.path with
  | none => .ok (.notRouted (.routeNotFound request.path request.method))
  | some found =>
    match found.decode with
    | .error fault => .ok (.unreadable found.route fault)
    | .ok arguments => dispatcher.classify found.route arguments

/-- What a method and a URI lead to. -/
def dispatch (dispatcher : Dispatcher) (method uri : String) : Except Failure Outcome :=
  dispatcher.outcome (dispatcher.request method uri)

/-! ## Other services -/

/-- The URL of a static file. -/
def staticUrl (dispatcher : Dispatcher) (path : String) : String :=
  Uri.join [dispatcher.settings.baseUri, dispatcher.settings.staticDirectoryUri, path]

/-- The absolute URL of a request. -/
def calledUrl (dispatcher : Dispatcher) (uri : String) : String :=
  Resolver.appendPath dispatcher.settings.appUrl uri

/-- The name of the route that a request resolves to. -/
def calledRoute? (dispatcher : Dispatcher) (method uri : String) : Option String :=
  let request := dispatcher.request method uri
  (dispatcher.resolver.resolve? request.method request.path).map fun found => found.route.name

end Dispatcher

namespace Outcome

def status : Outcome → Nat
  | handler .. | script .. | file .. => 200
  | unreadable .. => 400
  | notRouted _ | notFound .. => 404

def fault? : Outcome → Option Fault
  | notRouted fault | unreadable _ fault | notFound _ fault => some fault
  | _ => none

def route? : Outcome → Option Route
  | notRouted _ => none
  | handler route _ | script route _ _ | file route _ _ | unreadable route _ | notFound route _ =>
    some route

def arguments : Outcome → Arguments
  | handler _ arguments | script _ arguments _ | file _ arguments _ => arguments
  | _ => []

/-- What is to be done with the endpoint, if there is one. -/
def kind? : Outcome → Option String
  | handler .. => some "handler"
  | script .. => some "script"
  | file .. => some "file"
  | _ => none

/-- The endpoint: a file by its name, anything else as it is. -/
def endpoint? : Outcome → Option Value
  | handler route _ => some route.endpoint
  | script _ _ name | file _ _ name => some (.text name)
  | _ => none

def mediaType? : Outcome → Option String
  | file _ _ name => some (MediaType.ofPath name)
  | _ => none

/-- Where a failed request is sent. -/
def redirect? (settings : Settings) (outcome : Outcome) : Option String :=
  let target := match outcome with
    | unreadable .. => settings.error400Route
    | notRouted _ | notFound .. => settings.error404Route
    | _ => ""
  if target = "" then none else some target

/-- The records that dispatching leaves. -/
def records : Outcome → List LogRecord
  | unreadable route fault =>
    [⟨.warning, .dispatch, fault.message ++ " for route '" ++ route.name ++ "'"⟩]
  | notFound _ fault => [⟨.warning, .dispatch, fault.message⟩]
  | _ => []

end Outcome

/-- All that is decided about a request. -/
structure Decision where
  request : Request
  status : Nat
  route? : Option Route
  arguments : Arguments
  endpoint? : Option Value
  kind? : Option String
  mediaType? : Option String
  redirect? : Option String
  fault? : Option Fault

/-- The decision about a request that has an outcome. -/
def Outcome.decision (settings : Settings) (request : Request) (outcome : Outcome) : Decision where
  request := request
  status := outcome.status
  route? := outcome.route?
  arguments := outcome.arguments
  endpoint? := outcome.endpoint?
  kind? := outcome.kind?
  mediaType? := outcome.mediaType?
  redirect? := outcome.redirect? settings
  fault? := outcome.fault?

/-- What is decided about a method and a URI. -/
def Dispatcher.decision (dispatcher : Dispatcher) (method uri : String) :
    Except Failure Decision :=
  (dispatcher.dispatch method uri).map
    (Outcome.decision dispatcher.settings (dispatcher.request method uri))

end TypedRoutes
