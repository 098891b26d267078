import SdkAudit.Advisory.Exchange
import SdkAudit.FileTree
import SdkAudit.Report.Basic

/-!
# Checking a project

A project is checked file by file.  Files that cannot be read are passed over, files that show no
sign of the SDK are only counted, and all others are analyzed.  Afterwards the project as a whole is
judged, by the rules of the technology with the most analyzed files, and an advisor is consulted on
the code of those files if one is at hand.

* `isCandidate`: whether a text shows a sign of the SDK;
* `Audit.analyze`: the findings about one file;
* `projectFinding?`: the finding about the initialization of a project;
* `Audit.runIn`, `Audit.run`: the report on a project, with effects of the advisor and without.
-/

namespace SdkAudit

/-- Whether a text shows a sign of the SDK: it holds the first name of the facade, or the name of
the initializer with a round bracket right after it. -/
def isCandidate (rules : RuleSet) (source : String) : Bool :=
  Text.holdsString rules.facadeRoot source ||
    Text.holdsString (rules.initialization.method ++ "(") source

/-- The finding about the initialization of a project.  There is none if a file calls the
initializer, or has that finding itself. -/
def projectFinding? (rules : RuleSet) (files : List FileReport) : Option Diagnostic :=
  if files.any (·.diagnostics.any (·.category == .missingInitialization)) then none
  else if files.any (·.initialized) then none
  else
    let message :=
      if files.isEmpty then "No Mapp SDK code found in the project"
      else "Missing SDK initialization: " ++ rules.qualifiedInitializer ++
        "() not found in any file"
    some (.of .error .missingInitialization .origin message (some rules.initialization.sample))

/-- How a project is to be checked. -/
structure Audit where
  /-- The technology of files whose extension says nothing. -/
  usual : Technology
  /-- The technology of every file, whatever its extension. -/
  forced : Option Technology := none

namespace Audit

/-- The check that settings ask for, with the technology forced if one is given. -/
def ofSettings (settings : Settings) (forced : Option Technology) : Audit :=
  ⟨settings.technology, forced⟩

def technologyOf (audit : Audit) (path : String) : Technology :=
  audit.forced.getD (Technology.ofFileName path audit.usual)

def rulesOf (audit : Audit) (path : String) : RuleSet := Catalogue.ruleSet (audit.technologyOf path)

/-- The findings about one file. -/
def analyze (audit : Audit) (path source : String) : FileReport :=
  let analysis := (audit.rulesOf path).analyzeFile path source
  { path, technology := audit.technologyOf path, mode := analysis.mode
    initialized := analysis.initialized, diagnostics := analysis.diagnostics }

/-- The files of a store that can be read, each with its path as shown and its text. -/
def readable (store : Store) : List (String × String) :=
  store.paths.filterMap fun path => (store.text? path).map fun text => (store.label path, text)

/-- The files of a store that are analyzed, each with its path as shown and its text. -/
def candidates (audit : Audit) (store : Store) : List (String × String) :=
  (readable store).filter fun file => isCandidate (audit.rulesOf file.1) file.2

/-- A file as the advisor reads it. -/
def fileCode (file : String × String) : String :=
  "\n// File: " ++ file.1 ++ "\n" ++ file.2 ++ "\n"

/-- The code of a project as the advisor reads it. -/
def projectCode (files : List (String × String)) : String := String.join (files.map fileCode)

/-- The technology that occurs most often, the earliest in registry order among equals. -/
def mostFrequent? (technologies : List Technology) : Option Technology :=
  Technology.all.foldl (fun best technology =>
    let n := technologies.count technology
    let most := (best.map (technologies.count ·)).getD 0
    if most < n then some technology else best) none

/-- The technology that a project as a whole is judged by. -/
def projectTechnology (audit : Audit) (files : List (String × String)) : Technology :=
  (mostFrequent? (files.map fun file => audit.technologyOf file.1)).getD audit.usual

/-- The prompt that the check of a project puts to an advisor, if it puts one. -/
def prompt? (audit : Audit) (store : Store) : Option Prompt :=
  let files := audit.candidates store
  Advisor.prompt? (Catalogue.ruleSet (audit.projectTechnology files)) (projectCode files)

/-- The report on a project, with an advisor that answers with effects. -/
def runIn {m : Type → Type} [Monad m] (audit : Audit) (advisor : Option (AdvisorIn m))
    (store : Store) : m Report := do
  let files := audit.candidates store
  let reports := files.map fun file => audit.analyze file.1 file.2
  let rules := Catalogue.ruleSet (audit.projectTechnology files)
  let findings ← advisor.mapM fun advisor => Advisor.consultIn advisor rules (projectCode files)
  return {
    files := reports
    project := (projectFinding? rules reports).toList
    scanned := (readable store).length
    advisory := findings }

/-- The report on a project. -/
def run (audit : Audit) (advisor : Option Advisor) (store : Store) : Report :=
  Id.run (audit.runIn (advisor.map fun advisor prompt => pure (advisor prompt)) store)

end Audit

end SdkAudit
