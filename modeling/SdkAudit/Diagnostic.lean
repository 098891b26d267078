import SdkAudit.Source.Place
import SdkAudit.Text.Character

/-!
# Diagnostics

A diagnostic says at a position what is wrong there, how grave it is, and which of eight kinds of
finding it is.  Each kind has an identifier, a description and a usual severity.  Reports and
endpoints are told the name and the version of the tool that makes the findings.
-/

namespace SdkAudit

def toolName : String := "mappcheck"

def toolVersion : String := "0.1.0"

/-- How grave a finding is. -/
inductive Severity where
  | error
  | warning
  | info
deriving DecidableEq, Repr

/-- A text that names no severity. -/
structure UnknownSeverity where
  /-- The text as it was given. -/
  text : String
deriving DecidableEq, Repr

def UnknownSeverity.message (e : UnknownSeverity) : String := "unknown severity: " ++ e.text

namespace Severity

def label : Severity → String
  | .error => "error"
  | .warning => "warning"
  | .info => "info"

/-- Reads the word for a severity in any case. -/
def read (text : String) : Except UnknownSeverity Severity :=
  match [Severity.error, .warning, .info].find? (·.label == Text.lowerString text) with
  | some severity => .ok severity
  | none => .error ⟨text⟩

def editorCode : Severity → Nat
  | .error => 1
  | .warning => 2
  | .info => 3

/-- The number by which an editor knows the severity of this word; what is no word for a severity
counts as information. -/
def editorCodeOfLabel (text : String) : Nat :=
  match read text with
  | .ok severity => severity.editorCode
  | .error _ => Severity.info.editorCode

end Severity

/-- A kind of finding. -/
inductive Category where
  | missingInitialization
  | invalidInitialization
  | initializationOrder
  | methodArity
  | errorHandling
  | missingRequiredMethod
  | advisoryCritical
  | advisoryMissing
deriving DecidableEq, Repr

namespace Category

/-- Every kind of finding, in reporting order. -/
def all : List Category := [
  .missingInitialization, .invalidInitialization, .initializationOrder, .methodArity,
  .errorHandling, .missingRequiredMethod, .advisoryCritical, .advisoryMissing]

def id : Category → String
  | .missingInitialization => "missing_initialization"
  | .invalidInitialization => "invalid_initialization"
  | .initializationOrder => "initialization_order"
  | .methodArity => "method_arity"
  | .errorHandling => "error_handling"
  | .missingRequiredMethod => "missing_required_method"
  | .advisoryCritical => "advisory_critical"
  | .advisoryMissing => "advisory_missing"

def ofId? (text : String) : Option Category := all.find? (·.id == text)

def description : Category → String
  | .missingInitialization => "SDK initializer call not found"
  | .invalidInitialization => "SDK initializer called without all required parameters"
  | .initializationOrder => "SDK method used in a file without an initializer call"
  | .methodArity => "SDK method called with too few arguments"
  | .errorHandling => "SDK call not wrapped in a try/catch block"
  | .missingRequiredMethod => "Required SDK method not found"
  | .advisoryCritical => "Critical issue reported by advisory analysis"
  | .advisoryMissing => "Missing implementation reported by advisory analysis"

def usualSeverity : Category → Severity
  | .missingInitialization | .invalidInitialization | .methodArity => .error
  | .errorHandling | .missingRequiredMethod | .advisoryCritical => .warning
  | .initializationOrder | .advisoryMissing => .info

end Category

/-- A finding at a position. -/
structure Diagnostic where
  severity : Severity
  message : String
  position : Position
  category : Category
  /-- Code that would be right. -/
  suggestion : Option String := none
deriving DecidableEq, Repr

/-- A finding.  How grave it is, is said with the finding; `Category.usualSeverity` is only told to
the readers of a report. -/
def Diagnostic.of (severity : Severity) (category : Category) (position : Position)
    (message : String) (suggestion : Option String) : Diagnostic :=
  { severity, message, position, category, suggestion }

end SdkAudit
