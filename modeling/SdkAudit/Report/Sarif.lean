import SdkAudit.Json
import SdkAudit.Report.Basic

/-!
# The SARIF log of a report

All findings in the Static Analysis Results Interchange Format, for editors and build servers.  A
log lists every kind of finding with its usual level, and every finding with its own; lines and
columns count from one.
-/

namespace SdkAudit

def Severity.sarifLevel : Severity → String
  | .error => "error"
  | .warning => "warning"
  | .info => "note"

def Category.sarifRule (c : Category) : Json :=
  .object [("id", .string c.id), ("shortDescription", .object [("text", .string c.description)]),
    ("defaultConfiguration", .object [("level", .string c.usualSeverity.sarifLevel)])]

/-- A path with slashes between its components. -/
def slashed (path : String) : String := path.map fun c => if c = '\\' then '/' else c

def Diagnostic.sarifResult (path : String) (d : Diagnostic) : Json :=
  .object [("ruleId", .string d.category.id), ("level", .string d.severity.sarifLevel),
    ("message", .object [("text", .string d.message)]),
    ("locations", .array [.object [("physicalLocation", .object [
      ("artifactLocation", .object [("uri", .string (slashed path))]),
      ("region", .object [("startLine", .number (d.position.line + 1)),
        ("startColumn", .number (d.position.column + 1))])])]])]

namespace Report

/-- The findings of a report in the order of the log, each with the path it is filed under. -/
def located (path : String) (r : Report) : List (String × Diagnostic) :=
  r.files.flatMap (fun file => file.diagnostics.map fun d => (file.path, d)) ++
    r.pathDiagnostics.map fun d => (path, d)

def sarif (path : String) (r : Report) : Json :=
  .object [("version", .string "2.1.0"),
    ("$schema", .string ("https://raw.githubusercontent.com/oasis-tcs/sarif-spec/master/" ++
      "Schemata/sarif-schema-2.1.0.json")),
    ("runs", .array [.object [
      ("tool", .object [("driver", .object [("name", .string toolName),
        ("version", .string toolVersion),
        ("rules", .array (Category.all.map (·.sarifRule)))])]),
      ("results", .array ((r.located path).map fun (path, d) => d.sarifResult path))]])]

end Report

end SdkAudit
