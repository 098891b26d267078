import SdkAudit.Json
import SdkAudit.Report.Basic

/-!
# Editor diagnostics

The findings in the form in which editors show them: by file, each with a range of one character.
Findings about the project and advisory ones are filed under the checked path.
-/

namespace SdkAudit

def Position.editorJson (p : Position) : Json :=
  .object [("line", .number p.line), ("character", .number p.column)]

def Diagnostic.editorJson (d : Diagnostic) : Json :=
  .object [
    ("range", .object [("start", d.position.editorJson),
      ("end", ({ d.position with column := d.position.column + 1 } : Position).editorJson)]),
    ("message", .string d.message), ("severity", .number d.severity.editorCode),
    ("code", .string d.category.id), ("source", .string toolName)]

namespace Report

/-- The findings that are filed under `key` in a report on `path`. -/
def filedUnder (path : String) (r : Report) (key : String) : List Diagnostic :=
  (r.files.filter (·.path == key)).flatMap (·.diagnostics) ++
    (if key = path then r.pathDiagnostics else [])

/-- The paths under which findings are filed, in order: those of the files, and the checked path if
something is filed under it alone. -/
def editorKeys (path : String) (r : Report) : List String :=
  sortedNames (r.files.map (·.path) ++ (if r.pathDiagnostics.isEmpty then [] else [path]))

def editorJson (path : String) (r : Report) : Json :=
  .object ((r.editorKeys path).map fun key =>
    (key, .array ((r.filedUnder path key).map (·.editorJson))))

end Report

end SdkAudit
