import SdkAudit.Json
import SdkAudit.Rules.Basic

/-!
# Rule sets as documents

The parts of a rule set as JSON, as they are listed for people and shown to the advisor.  The
patterns are left out: they are means of the tool and no documentation.
-/

namespace SdkAudit

def Parameter.toJson (p : Parameter) : Json :=
  .object ([("name", .string p.name), ("type", .string p.typeName), ("required", .bool p.required),
    ("description", .string p.description)] ++
    Json.field? "valid_values" (p.validValues.map Json.strings))

def Initialization.toJson (i : Initialization) : Json :=
  .object [("required", .bool i.required), ("method", .string i.method),
    ("parameters", .array (i.parameters.map (·.toJson))), ("example", .string i.sample)]

def Method.toJson (m : Method) : Json :=
  .object [("name", .string m.name), ("required", .bool m.required),
    ("parameters", .array (m.parameters.map (·.toJson))), ("example", .string m.sample),
    ("requires_initialization", .bool m.needsInitialization),
    ("description", .string m.description)]

def ErrorHandling.toJson (e : ErrorHandling) : Json :=
  .object [("recommendations", Json.strings e.recommendations), ("example", .string e.sample)]

def RuleSet.toJson (r : RuleSet) : Json :=
  .object [("technology", .string r.technology.id), ("name", .string r.name),
    ("file_extensions", Json.strings r.fileExtensions), ("facade", .string r.facade),
    ("initialization", r.initialization.toJson),
    ("methods", .array (r.methods.map (·.toJson))),
    ("best_practices", Json.strings r.bestPractices),
    ("error_handling", r.errorHandling.toJson),
    ("required_methods", Json.strings r.requiredMethods)]

end SdkAudit
