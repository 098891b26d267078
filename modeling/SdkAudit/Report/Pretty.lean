import SdkAudit.Report.Basic
import SdkAudit.Text.Styled

/-!
# The report for people

The findings as lines for a terminal, with or without styles.
-/

namespace SdkAudit.Report

/-- The tag of a severity, five characters wide. -/
def severityTag (color : Bool) : Severity → String
  | .error => Text.styled color .red "ERROR"
  | .warning => Text.styled color .yellow "WARN "
  | .info => Text.styled color .blue "INFO "

def suggestionText (color : Bool) (suggestion : String) : String :=
  String.join <| (Text.lines suggestion.toList).map fun line =>
    "            " ++ Text.styled color .dimmed (String.ofList line) ++ "\n"

def diagnosticText (color : Bool) (d : Diagnostic) : String :=
  "    " ++ severityTag color d.severity ++ "    " ++
  Text.styledTo 24 color .dimmed d.category.id ++
  Text.styled color .dimmed d.position.label ++ "\n" ++
  "            " ++ d.message ++ "\n" ++
  (match d.suggestion with
    | some suggestion => suggestionText color suggestion
    | none => "") ++ "\n"

def diagnosticsText (color : Bool) (ds : List Diagnostic) : String :=
  String.join (ds.map (diagnosticText color))

def fileText (color : Bool) (file : FileReport) : String :=
  "  " ++ Text.styled color .boldBlue file.path ++
  "  " ++ Text.styled color .dimmed ("[" ++ file.technology.id ++ "]") ++
  (match file.mode with
    | .degraded => " " ++ Text.styled color .yellow "(pattern scan)"
    | .structured => "") ++
  "\n\n" ++ diagnosticsText color file.diagnostics

def sectionText (color : Bool) (title : String) (entries : List String) : String :=
  "\n    " ++ Text.styled color .underlined title ++ "\n" ++
  String.join (entries.map fun entry => "      - " ++ entry ++ "\n")

def findingsText (color : Bool) (f : Findings) : String :=
  "  " ++ Text.styled color .bold "Advisory analysis:" ++ "\n" ++
  sectionText color "Critical issues" f.critical ++
  sectionText color "Missing implementations" f.missing ++
  sectionText color "Improvements" f.improvements ++
  sectionText color "Security concerns" f.security

/-- The line with the counts and the verdict. -/
def verdictText (color : Bool) (r : Report) : String :=
  "  " ++ Text.styled color .dimmed
    (toString (r.count .error) ++ " errors, " ++ toString (r.count .warning) ++ " warnings, " ++
      toString (r.count .info) ++ " info") ++
  "  " ++ (if r.hasErrors then Text.styled color .red "FAILED"
    else Text.styled color .green "PASSED") ++ "\n"

/-- The lines that say what was checked. -/
def headText (color : Bool) (path : String) (settingsPath : Option String) (r : Report) : String :=
  "\n  " ++ Text.styled color .boldCyan toolName ++ " v" ++ toolVersion ++ "\n\n" ++
  "  " ++ Text.styled color .dimmed "Scanning: " ++ path ++ "\n" ++
  (match settingsPath with
    | some settingsPath =>
      "  " ++ Text.styled color .dimmed "Config:   " ++ settingsPath ++ "\n"
    | none => "") ++
  "  " ++ Text.styled color .dimmed "Files:    " ++ toString r.scanned ++ " scanned, " ++
    toString r.files.length ++ " using the SDK\n\n"

def projectText (color : Bool) (r : Report) : String :=
  if r.project.isEmpty then ""
  else
    "  " ++ Text.styled color .boldBlue "Project" ++ "\n\n" ++
    diagnosticsText color r.project ++ "\n"

def pretty (color : Bool) (path : String) (settingsPath : Option String) (r : Report) : String :=
  headText color path settingsPath r ++ projectText color r ++
  String.join ((r.files.filter (!·.diagnostics.isEmpty)).map fun file =>
    fileText color file ++ "\n") ++
  (match r.advisory with
    | some findings => findingsText color findings ++ "\n"
    | none => "") ++
  verdictText color r ++ "\n"

end SdkAudit.Report
