import SdkAudit.Advisory.Narrative
import SdkAudit.Advisory.Prompt

/-!
# The advisory exchange

An advisor answers a prompt with a text, or fails.  The exchange turns either into findings: it
never fails itself, and it is not entered for a project without code.
-/

namespace SdkAudit

/-- Why an advisor gave no answer. -/
inductive AdvisorError where
  /-- The endpoint could not be reached. -/
  | network (reason : String)
  | timeout
  /-- The endpoint answered with an HTTP status that is no success. -/
  | status (code : Nat) (body : String)
  /-- The environment variable that should hold the key is not set. -/
  | missingKey (name : String)
  /-- The answer does not have the expected form. -/
  | malformed (reason : String)
deriving DecidableEq, Repr

def AdvisorError.message : AdvisorError → String
  | .network reason => "network error: " ++ reason
  | .timeout => "request timed out"
  | .status code body => "endpoint returned HTTP " ++ toString code ++ ": " ++ body
  | .missingKey name => "environment variable " ++ name ++ " is not set"
  | .malformed reason => "malformed response: " ++ reason

/-- Whatever answers a prompt, with effects. -/
abbrev AdvisorIn (m : Type → Type) := Prompt → m (Except AdvisorError String)

/-- Whatever answers a prompt, and does nothing else. -/
abbrev Advisor := Prompt → Except AdvisorError String

namespace Advisor

/-- The prompt that is put to an advisor about a project's code; there is none if the code is
blank. -/
def prompt? (rules : RuleSet) (code : String) : Option Prompt :=
  if Text.isBlankText code.toList then none else some (rules.prompt code)

/-- The findings that an answer amounts to. -/
def findings (rules : RuleSet) : Except AdvisorError String → Findings
  | .error e => .ofCritical ("Analysis failed: " ++ e.message)
  | .ok text =>
    if Text.isBlankText text.toList then .ofCritical "AI analysis failed to provide results"
    else Narrative.read rules.qualifiedInitializer text

/-- Puts a project's code to an advisor that answers with effects. -/
def consultIn {m : Type → Type} [Monad m] (advisor : AdvisorIn m) (rules : RuleSet)
    (code : String) : m Findings :=
  match prompt? rules code with
  | none => return .ofCritical "No Mapp SDK implementation found in the project"
  | some prompt => return findings rules (← advisor prompt)

def consult (advisor : Advisor) (rules : RuleSet) (code : String) : Findings :=
  Id.run (consultIn (fun prompt => pure (advisor prompt)) rules code)

end Advisor

end SdkAudit
