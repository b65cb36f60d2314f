import TypedRoutes.Fault.Report
import TypedRoutes.Template.Diagnostic

/-!
# Faults

Everything that can go wrong by the rules of routing, one constructor for each cause, and the
report of each.
-/
namespace TypedRoutes

inductive Fault where
  | configInvalid (key reason : String)
  | settingInvalid (key reason : String)
  | nameTaken (name : String) (methods : List String)
  | methodInvalid (token : String) (supported : List String)
  | registryFrozen (name : String)
  | routeNotFound (path method : String)
  | templateInvalid (source reason : String)
  | templateRejected (diagnostic : Diagnostic)
  | textUnreadable (text expected : String) (parameter : Option String) (route : Option String)
  | parameterUnknown (parameter route : String)
  | parameterMistyped (parameter expected actual : String)
  | parametersMissing (route : String) (missing : List String)
  | routeUnknown (name : String)
  | endpointMissing (endpoint route : String)
deriving DecidableEq

namespace Fault

def texts (items : List String) : Value :=
  .list (items.map .text)

def listed (items : List String) : String :=
  String.intercalate ", " items

def configReport (key reason : String) : Report :=
  .inDomain .config "CONFIG_INVALID" ("Configuration key '" ++ key ++ "' is invalid: " ++ reason)
    (some .fatal) none false [("key", .text key), ("reason", .text reason)]

def templateReport (source reason : String) : Report :=
  .inDomain .routing "PATTERN_INVALID" ("Invalid route template '" ++ source ++ "': " ++ reason)
    (some .fatal) (some 500) false [("pattern", .text source), ("reason", .text reason)]

def spanDetail (span : Span) : Value :=
  .mapping [(.text "start", .integer span.start), (.text "end", .integer span.stop),
    (.text "column", .integer span.column)]

def diagnosticDetails (d : Diagnostic) : Details :=
  ("suggestions", texts d.suggestions) ::
    d.span.toList.map fun span => ("span", spanDetail span)

/-- How a parameter is spoken of: an empty name is no name. -/
def subject : Option String → String
  | some name => if name.isEmpty then "value" else "parameter '" ++ name ++ "'"
  | none => "value"

def unreadableReport (text expected : String) (parameter route : Option String) : Report :=
  .inDomain .routing "PARAMETER_PARSE_FAILED"
    ("Could not parse " ++ subject parameter ++ " with value '" ++ text ++ "' to type " ++ expected)
    (some .warn) (some 400) true
    ([("raw", .text text), ("expected_type", .text expected),
      ("param_name", (parameter.map Value.text).getD .null)] ++
      route.toList.map fun name => ("route", .text name))

def registryReport (code message : String) (details : Details) : Report :=
  .inDomain .registry code message (some .fatal) none false details

def generationReport (code message : String) (severity : Severity) (details : Details) : Report :=
  .inDomain .generation code message (some severity) none false details

/-- The report of a fault. -/
def report : Fault → Report
  | configInvalid key reason | settingInvalid key reason => configReport key reason
  | nameTaken name methods =>
    registryReport "ROUTE_NAME_DUPLICATE"
      ("Route name '" ++ name ++ "' already registered for " ++ listed methods)
      [("name", .text name), ("methods", texts methods)]
  | methodInvalid token supported =>
    registryReport "METHOD_INVALID"
      ("Invalid HTTP method '" ++ token ++ "' (supported: " ++ listed supported ++ ")")
      [("method", .text token), ("supported", texts supported)]
  | registryFrozen name =>
    registryReport "REGISTRY_FROZEN"
      ("Cannot register route '" ++ name ++ "': registry is frozen") [("name", .text name)]
  | routeNotFound path method =>
    .inDomain .routing "ROUTE_NOT_FOUND" ("Route not found: " ++ method ++ " " ++ path)
      (some .error) (some 404) true [("path", .text path), ("method", .text method)]
  | templateInvalid source reason => templateReport source reason
  | templateRejected d =>
    (templateReport d.source d.reason).withDetails (diagnosticDetails d)
  | textUnreadable text expected parameter route => unreadableReport text expected parameter route
  | parameterUnknown parameter route =>
    generationReport "PARAMETER_UNKNOWN"
      ("Unknown parameter '" ++ parameter ++ "' for route '" ++ route ++ "'") .warn
      [("param_name", .text parameter), ("route", .text route)]
  | parameterMistyped parameter expected actual =>
    generationReport "PARAMETER_TYPE_INVALID"
      ("Invalid parameter type for parameter '" ++ parameter ++ "': expected " ++ expected ++
        ", got " ++ actual) .warn
      [("param_name", .text parameter), ("expected_type", .text expected),
        ("actual_type", .text actual)]
  | parametersMissing route missing =>
    generationReport "PARAMETERS_MISSING"
      ("Missing parameters for route '" ++ route ++ "': " ++ listed missing) .error
      [("route", .text route), ("missing", texts missing)]
  | routeUnknown name =>
    generationReport "ROUTE_NAME_NOT_FOUND" ("No route registered with name '" ++ name ++ "'") .warn
      [("name", .text name)]
  | endpointMissing endpoint route =>
    .inDomain .io "ENDPOINT_NOT_FOUND"
      ("Could not find file '" ++ endpoint ++ "' for route '" ++ route ++ "'")
      none (some 404) false [("endpoint", .text endpoint), ("route", .text route)]

def message (fault : Fault) : String :=
  fault.report.message

/-- The code in brackets, and the message. -/
def text (fault : Fault) : String :=
  fault.report.text

end Fault

/-- The formats of documents. -/
inductive DocumentFormat where
  | json
  | yaml
deriving DecidableEq

/-- How an operation ends without a result: by a fault, or because what it was given does not have
the shape that the operation works on. -/
inductive Failure where
  | fault (cause : Fault)
  /-- A value without items or entries stands where they are needed. -/
  | wrongShape
  /-- A document that is no mapping was to be merged. -/
  | notMapping
  /-- Something else than a text is to be taken apart like one. -/
  | notText
  | outOfRange
  /-- A number does not fit where it is needed. -/
  | tooLarge
  | malformed (format : DocumentFormat)
  | isDirectory (path : String)
  /-- A file was asked for by a name that is longer than any name can be. -/
  | nameTooLong
  /-- Collections within collections go deeper than they are followed. -/
  | tooDeep
deriving DecidableEq

end TypedRoutes
