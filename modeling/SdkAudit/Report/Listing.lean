import SdkAudit.Json
import SdkAudit.Report.Basic

/-!
# The JSON listing of a report

All findings as one JSON document, under counts of what was read and found.
-/

namespace SdkAudit

/-- A finding as JSON, with its position among its members. -/
def Diagnostic.toJson (d : Diagnostic) : Json :=
  .object ([("severity", .string d.severity.label), ("message", .string d.message),
    ("line", .number d.position.line), ("column", .number d.position.column),
    ("category", .string d.category.id)] ++
    Json.field? "suggestion" (d.suggestion.map .string))

def FileReport.toJson (r : FileReport) : Json :=
  .object [("path", .string r.path), ("technology", .string r.technology.id),
    ("mode", .string r.mode.label), ("initialized", .bool r.initialized),
    ("diagnostics", .array (r.diagnostics.map (·.toJson)))]

def Findings.toJson (f : Findings) : Json :=
  .object [("critical_issues", Json.strings f.critical),
    ("missing_implementations", Json.strings f.missing),
    ("improvements", Json.strings f.improvements),
    ("security_concerns", Json.strings f.security)]

namespace Report

def listing (path : String) (r : Report) : Json :=
  .object ([("version", .string toolVersion), ("path", .string path),
    ("passed", .bool !r.hasErrors),
    ("files_scanned", .number r.scanned), ("files_analyzed", .number r.files.length),
    ("errors", .number (r.count .error)), ("warnings", .number (r.count .warning)),
    ("infos", .number (r.count .info)),
    ("files", .array (r.files.map (·.toJson))),
    ("project", .array (r.project.map (·.toJson)))] ++
    Json.field? "advisory" (r.advisory.map fun findings =>
      .object [("findings", findings.toJson),
        ("diagnostics", .array (findings.diagnostics.map (·.toJson)))]))

end Report

end SdkAudit
