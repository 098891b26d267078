import SdkAudit.CommandLine.Command
import SdkAudit.CommandLine.Outcome
import SdkAudit.Project
import SdkAudit.Report.Editor
import SdkAudit.Report.Listing
import SdkAudit.Report.Pretty
import SdkAudit.Report.Sarif
import SdkAudit.Rules.Consistency

/-!
# The check command

A check goes by the settings in the file that is named, or else in a usual file of the working
directory or of the checked folder.  Where the advisory exchange is asked for but there is no key,
the report says so.

* `ReportFormat`: the forms of a report;
* `CheckOptions.run`: the outcome of a check.
-/

namespace SdkAudit

/-- The form of a report. -/
inductive ReportFormat where
  | pretty
  | json
  | sarif
  | editor
deriving DecidableEq, Repr

namespace ReportFormat

/-- Every form, the usual one first. -/
def all : List ReportFormat := [.pretty, .json, .sarif, .editor]

def name : ReportFormat → String
  | .pretty => "pretty"
  | .json => "json"
  | .sarif => "sarif"
  | .editor => "host"

def ofName? (text : String) : Option ReportFormat := all.find? (·.name == text)

def refusal (text : String) : String :=
  "invalid format " ++ Text.quoted text ++ ", must be one of: " ++
    ", ".intercalate (all.map (·.name))

end ReportFormat

def Report.printed (format : ReportFormat) (color : Bool) (path : String)
    (settingsPath : Option String) (report : Report) : String :=
  match format with
  | .pretty => report.pretty color path settingsPath
  | .json => (report.listing path).text ++ "\n"
  | .sarif => (report.sarif path).text ++ "\n"
  | .editor => (report.editorJson path).text ++ "\n"

/-- The key to an advisor: a variable that is set to something. -/
def AdvisorySettings.key? (settings : AdvisorySettings) (environment : String → Option String) :
    Except AdvisorError String :=
  match (environment settings.keyVariable).filter fun key => !Text.isBlankText key.toList with
  | some key => .ok key
  | none => .error (.missingKey settings.keyVariable)

namespace CheckOptions

def settingsPath? (options : CheckOptions) (lookup : FileLookup) : Option String :=
  options.config <|> Settings.discover? lookup "." <|>
    match lookup options.path with
    | .ok (.folder _) => Settings.discover? lookup options.path
    | _ => none

/-- The report of a check on the files that its path leads to. -/
def report (options : CheckOptions) (s : Surroundings) (settings : Settings) (store : Store) :
    Report :=
  let audit := Audit.ofSettings settings options.technology
  if options.advisory ∨ settings.advisory.enabled then
    match settings.advisory.key? s.environment with
    | .ok key => audit.run (some (s.advisor settings.advisory key)) store
    | .error e =>
      { audit.run none store with
        advisory := some (Findings.ofCritical ("Analysis failed: " ++ e.message)) }
  else audit.run none store

/-- What a check finds, or why it cannot be carried out. -/
def findings (options : CheckOptions) (s : Surroundings) :
    Except String (ReportFormat × Report) := do
  let some format := ReportFormat.ofName? options.format
    | .error (ReportFormat.refusal options.format)
  (Catalogue.check).mapError fun e => "invalid rule data: " ++ e.message
  let settings ← (Settings.load s.lookup (options.settingsPath? s.lookup)).mapError (·.message)
  let .ok target := s.lookup options.path
    | .error ("cannot access path " ++ Text.quoted options.path)
  let exclusions ← (Exclusions.read settings.excluded).mapError (·.message)
  return (format, options.report s settings (.ofTarget exclusions options.path (some target)))

def run (options : CheckOptions) (s : Surroundings) : Outcome :=
  match options.findings s with
  | .error message => .ofError message
  | .ok (format, report) =>
    { stdout := report.printed format s.color options.path (options.settingsPath? s.lookup)
      stderr := if report.scanned = 0 then "Warning: no files to scan\n" else ""
      exit := if report.hasErrors then Outcome.failedCode else Outcome.successCode }

end CheckOptions

end SdkAudit
