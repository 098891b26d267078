import SdkAudit.CommandLine.Command
import SdkAudit.CommandLine.Outcome
import SdkAudit.Rules.Catalogue
import SdkAudit.Rules.Rendering
import SdkAudit.Text.Styled

/-!
# The rules command

The rules of a technology, or of all of them, as lines for people or as JSON.
-/

namespace SdkAudit

/-- The line of a method: its parameters, and whether it has to be used. -/
def RuleSet.methodLine (rules : RuleSet) (color : Bool) (m : Method) : String :=
  let call := m.name ++ "(" ++ ", ".intercalate (m.parameters.map (·.name)) ++ ")"
  let marker :=
    if rules.requiredMethods.contains m.name then Text.styled color .red "required"
    else Text.styled color .dimmed "optional"
  "    " ++ Text.padded 40 call ++ " " ++ marker ++ "\n"

/-- A rule set as lines for people. -/
def RuleSet.pretty (rules : RuleSet) (color : Bool) : String :=
  "\n  " ++ Text.styled color .boldCyan rules.name ++
  "  " ++ Text.styled color .dimmed ("[" ++ rules.technology.id ++ "]") ++ "\n" ++
  "  " ++ Text.styled color .dimmed "Extensions: " ++ ", ".intercalate rules.fileExtensions ++
  "\n\n" ++
  "  " ++ Text.styled color .bold "Initialization:" ++ "\n" ++
  "    " ++ rules.qualifiedInitializer ++ "(" ++
    ", ".intercalate rules.initialization.requiredParameters ++ ")\n\n" ++
  "  " ++ Text.styled color .bold "Methods:" ++ "\n" ++
  String.join (rules.methods.map (rules.methodLine color)) ++ "\n" ++
  "  " ++ Text.styled color .bold "Best practices:" ++ "\n" ++
  String.join (rules.bestPractices.map fun practice => "    - " ++ practice ++ "\n")

namespace RulesOptions

def run (options : RulesOptions) (color : Bool) : Outcome :=
  let technologies := options.technology.elim Technology.all fun technology => [technology]
  let ruleSets := technologies.map Catalogue.ruleSet
  match options.format with
  | "json" =>
    { stdout := (Json.array (ruleSets.map (·.toJson))).text ++ "\n", exit := Outcome.successCode }
  | "pretty" =>
    { stdout := String.join (ruleSets.map (·.pretty color)), exit := Outcome.successCode }
  | format =>
    .ofError ("invalid format " ++ Text.quoted format ++ ", must be 'pretty' or 'json'")

end RulesOptions

end SdkAudit
