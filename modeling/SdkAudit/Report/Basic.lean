import SdkAudit.Advisory.Findings
import SdkAudit.Compliance

/-!
# Reports

The findings about a project: those about each file that uses the SDK, those about the project as a
whole, and those of an advisory exchange if there was one.
-/

namespace SdkAudit

/-- The findings about a file. -/
structure FileReport where
  path : String
  technology : Technology
  mode : ScanMode
  /-- Whether the file calls the initializer, rightly or not. -/
  initialized : Bool
  diagnostics : List Diagnostic
deriving DecidableEq, Repr

def FileReport.hasErrors (r : FileReport) : Bool := r.diagnostics.any (·.severity == .error)

/-- The findings about a project. -/
structure Report where
  files : List FileReport := []
  /-- The findings about the project as a whole. -/
  project : List Diagnostic := []
  /-- The number of files that were read. -/
  scanned : Nat := 0
  /-- The findings of the advisory exchange, if there was one. -/
  advisory : Option Findings := none
deriving DecidableEq, Repr

namespace Report

/-- The findings about the project and its files, without the advisory ones. -/
def diagnostics (r : Report) : List Diagnostic := r.project ++ r.files.flatMap (·.diagnostics)

def hasErrors (r : Report) : Bool := r.diagnostics.any (·.severity == .error)

/-- The number of findings, without the advisory ones. -/
def total (r : Report) : Nat := r.diagnostics.length

/-- The number of findings of a severity, without the advisory ones. -/
def count (r : Report) (severity : Severity) : Nat :=
  (r.diagnostics.filter (·.severity == severity)).length

def advisoryDiagnostics (r : Report) : List Diagnostic :=
  match r.advisory with
  | some findings => findings.diagnostics
  | none => []

/-- The findings that belong to the checked path and to no file: those about the project, then the
advisory ones. -/
def pathDiagnostics (r : Report) : List Diagnostic := r.project ++ r.advisoryDiagnostics

end Report

end SdkAudit
