import SdkAudit.Rules.Catalogue
import SdkAudit.Pattern.Notation
import SdkAudit.Text.Quoted

/-!
# Consistent rule sets

A rule set is consistent when no method is documented twice, every required method and every method
with a pattern is documented, every pattern is one, and an initializer that has to be called asks
for a parameter.

* `RuleSet.checkWith`: the first inconsistency, for any notation of patterns;
* `RuleSet.check`: the same for the notation in which patterns are written here.
-/

namespace SdkAudit

/-- What is wrong with a rule set. -/
inductive RuleDefect where
  | duplicateMethod (rules method : String)
  | undocumentedRequired (rules method : String)
  | undocumentedPattern (rules method : String)
  | unreadablePattern (rules pattern reason : String)
  | noRequiredParameter (rules : String)
  /-- The rule set is listed under another technology than its own. -/
  | misplaced (rules technology : String)
deriving DecidableEq, Repr

def RuleDefect.message : RuleDefect → String
  | .duplicateMethod rules method => rules ++ ": duplicate method " ++ Text.quoted method
  | .undocumentedRequired rules method =>
    rules ++ ": required method " ++ Text.quoted method ++ " is not documented in methods"
  | .undocumentedPattern rules method =>
    rules ++ ": pattern for undocumented method " ++ Text.quoted method
  | .unreadablePattern rules pattern reason =>
    rules ++ ": invalid pattern " ++ Text.quoted pattern ++ ": " ++ reason
  | .noRequiredParameter rules => rules ++ ": initializer declares no required parameters"
  | .misplaced rules technology => rules ++ ": registered under " ++ technology

/-- The first name that occurs a second time. -/
def firstRepeated? (seen : List String) : List String → Option String
  | [] => none
  | name :: rest => if seen.contains name then some name else firstRepeated? (name :: seen) rest

namespace RuleSet

def methodNames (rules : RuleSet) : List String := rules.methods.map (·.name)

/-- What is wrong with a method pattern of the rule set.  Which texts are patterns is for a notation
of patterns to say: `refusal?` tells why it refuses a text, if it does. -/
def patternDefect? (refusal? : String → Option String) (rules : RuleSet) (p : MethodPattern) :
    Option RuleDefect :=
  if !rules.methodNames.contains p.method then some (.undocumentedPattern rules.name p.method)
  else (refusal? p.pattern).map (.unreadablePattern rules.name p.pattern)

/-- The first thing that is wrong with a rule set. -/
def defect? (refusal? : String → Option String) (rules : RuleSet) : Option RuleDefect :=
  ((firstRepeated? [] rules.methodNames).map (.duplicateMethod rules.name)) <|>
  ((rules.requiredMethods.find? (!rules.methodNames.contains ·)).map
    (.undocumentedRequired rules.name)) <|>
  (rules.methodPatterns.findSome? (rules.patternDefect? refusal?)) <|>
  (if rules.initialization.required ∧ rules.initialization.requiredParameters = [] then
    some (.noRequiredParameter rules.name)
  else none)

/-- Accepts a rule set without defect, for a notation that tells which texts are no patterns. -/
def checkWith (refusal? : String → Option String) (rules : RuleSet) : Except RuleDefect Unit :=
  match rules.defect? refusal? with
  | some defect => .error defect
  | none => .ok ()

/-- Accepts a rule set without defect. -/
def check (rules : RuleSet) : Except RuleDefect Unit := rules.checkWith Pattern.refusal?

end RuleSet

namespace Catalogue

/-- What is wrong with the entry of a technology. -/
def defectAt? (technology : Technology) : Option RuleDefect :=
  let rules := ruleSet technology
  if rules.technology = technology then rules.defect? Pattern.refusal?
  else some (.misplaced rules.name technology.id)

/-- Accepts the catalogue if every entry is consistent and under its own technology. -/
def check : Except RuleDefect Unit :=
  match Technology.all.findSome? defectAt? with
  | some defect => .error defect
  | none => .ok ()

end Catalogue

end SdkAudit
