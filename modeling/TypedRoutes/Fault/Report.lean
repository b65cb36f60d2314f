import TypedRoutes.Named
import TypedRoutes.Value.Display

/-!
# Reports of faults

A report is what a fault looks like from outside: a stable code, a message, the area it belongs to,
how severe it is, the status to answer a request with, and details by name. An area has a default
severity and status.
-/
namespace TypedRoutes

inductive Severity where
  | info
  | warn
  | error
  | fatal
deriving DecidableEq

namespace Severity

def text : Severity → String
  | info => "info"
  | warn => "warn"
  | error => "error"
  | fatal => "fatal"

/-- A severity by its name or by the name of its rank. -/
def ofName? : String → Option Severity
  | "INFO" | "LOW" => some info
  | "WARN" | "MEDIUM" => some warn
  | "ERROR" | "HIGH" => some error
  | "FATAL" | "CRITICAL" => some fatal
  | _ => none

end Severity

/-- An area of faults, known by its name. -/
structure Domain where
  name : String
deriving DecidableEq

namespace Domain

def config : Domain := ⟨"config"⟩
def registry : Domain := ⟨"registry"⟩
def routing : Domain := ⟨"routing"⟩
def generation : Domain := ⟨"generation"⟩
def io : Domain := ⟨"io"⟩

/-- The severity and status of the faults of an area, if it is one of the standard ones. -/
def defaults? (domain : Domain) : Option (Severity × Int) :=
  if domain = config || domain = registry then some (.fatal, 500)
  else if domain = routing then some (.error, 404)
  else if domain = generation then some (.warn, 500)
  else if domain = io then some (.warn, 404)
  else none

/-- The severity and status of the faults of an area. -/
def defaults (domain : Domain) : Severity × Int :=
  domain.defaults?.getD (.error, 500)

def display (domain : Domain) : String :=
  "FaultDomain(name='" ++ domain.name ++ "')"

end Domain

/-- Details by name. -/
abbrev Details := Named Value

structure Report where
  code : String
  message : String
  domain : Domain
  severity : Severity
  httpStatus : Int
  isPublic : Bool
  details : Details

namespace Report

/-- A report with the defaults of its area where no severity or status is given. -/
def inDomain (domain : Domain) (code message : String) (severity : Option Severity)
    (httpStatus : Option Int) (isPublic : Bool) (details : Details) : Report :=
  { code, message, domain
    severity := severity.getD domain.defaults.1
    httpStatus := httpStatus.getD domain.defaults.2
    isPublic, details }

/-- A report from parts of which some may be left out; it needs a code, a message and an area. -/
def ofParts? (domain : Option Domain) (code message : Option String) (severity : Option Severity)
    (httpStatus : Option Int) (isPublic : Bool) (details : Details) : Option Report :=
  match domain, code, message with
  | some domain, some code, some message =>
    some (inDomain domain code message severity httpStatus isPublic details)
  | _, _, _ => none

/-- What is said of parts that make no report. -/
def incomplete : String :=
  "Fault missing required code, message, or domain"

/-- A code in brackets, and a message. -/
def headline (code message : String) : String :=
  "[" ++ code ++ "] " ++ message

/-- The display of a report whose parts have the given texts. -/
def signature (code domain severity isPublic : String) : String :=
  "Fault(code=" ++ code ++ ", domain=" ++ domain ++ ", severity=" ++ severity ++
    ", public=" ++ isPublic ++ ")"

def text (report : Report) : String :=
  headline report.code report.message

def display (report : Report) : String :=
  signature (Text.quoted report.code) report.domain.name report.severity.text
    (Scalar.display (.boolean report.isPublic))

/-- A report with further details, which override those of the same name. -/
def withDetails (report : Report) (extra : Details) : Report :=
  { report with details := Named.extend report.details extra }

end Report

end TypedRoutes
