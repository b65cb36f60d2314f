import TypedRoutes.Fault.Report

/-!
# Loose reports

The parts of a report may come as values of any type. Such a report is displayed by the texts of
its parts, as any other report is, and its summary holds the parts themselves.
-/
namespace TypedRoutes

structure LooseReport where
  code : Value
  message : Value
  domain : Value
  severity : Severity
  httpStatus : Value
  isPublic : Value
  details : Value

namespace LooseReport

def ofReport (report : Report) : LooseReport where
  code := .text report.code
  message := .text report.message
  domain := .text report.domain.name
  severity := report.severity
  httpStatus := .integer report.httpStatus
  isPublic := .boolean report.isPublic
  details := .mapping (report.details.map fun (name, value) => (.text name, value))

def text (report : LooseReport) : String :=
  Report.headline report.code.plain report.message.plain

def display (report : LooseReport) : String :=
  Report.signature report.code.display report.domain.plain report.severity.text
    report.isPublic.plain

theorem text_ofReport (report : Report) : (ofReport report).text = report.text := rfl

theorem display_ofReport (report : Report) : (ofReport report).display = report.display := rfl

/-- A report as plain data. -/
def summary (report : LooseReport) : Entries :=
  [(.text "code", report.code), (.text "message", report.message),
   (.text "domain", report.domain), (.text "severity", .text report.severity.text),
   (.text "http_status", report.httpStatus), (.text "public", report.isPublic),
   (.text "metadata", report.details)]

end LooseReport

/-- A report as plain data. -/
def Report.summary (report : Report) : Entries :=
  (LooseReport.ofReport report).summary

end TypedRoutes
