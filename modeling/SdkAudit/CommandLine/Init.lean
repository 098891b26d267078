import SdkAudit.CommandLine.Command
import SdkAudit.CommandLine.Outcome

/-!
# The init command

A first settings file is made where there is none, or in place of one if that is asked for.  It
holds every setting with its default, and says what it is for.
-/

namespace SdkAudit

namespace Settings

def templateLines : List String := [
  "# mappcheck configuration",
  "#",
  "# Technology assumed for files whose extension is not recognized.",
  "# One of: flutter, react-native, android-kotlin, android-java, ios-objc, ios-swift",
  "default_technology: flutter",
  "",
  "# Glob patterns for paths to skip.",
  "excluded_paths:",
  "  - \"**/generated/**\"",
  "  - \"**/*.g.dart\"",
  "",
  "# Optional advisory analysis through an OpenAI-compatible endpoint.",
  "# Enable here or pass --advisory on the command line.",
  "advisory:",
  "  enabled: false",
  "  endpoint: \"https://api.openai.com/v1/chat/completions\"",
  "  model: \"gpt-4o\"",
  "  api_key_env: \"OPENAI_API_KEY\"",
  "  timeout_ms: 60000"]

def template : String := String.join (templateLines.map (· ++ "\n"))

end Settings

namespace InitOptions

/-- The refusal to replace a file. -/
def refusal (options : InitOptions) : Outcome :=
  { stderr := "Error: file already exists: " ++ options.output ++ "\n" ++
      "Use --force to overwrite or --output to specify a different path\n"
    exit := Outcome.errorCode }

def success (options : InitOptions) : Outcome :=
  { stdout := "Created " ++ options.output ++ "\n\nNext steps:\n" ++
      "  1. Edit " ++ options.output ++ " to customize for your project\n" ++
      "  2. Run: mappcheck check . --config " ++ options.output ++ "\n"
    exit := Outcome.successCode }

/-- The outcome, once it is known how making the file went. -/
def outcome (options : InitOptions) : Except CreationError Unit → Outcome
  | .ok () => options.success
  | .error (.folder e) => .ofError ("failed to create directory: " ++ e.message)
  | .error (.file e) => .ofError ("failed to write config: " ++ e.message)

def action (options : InitOptions) (lookup : FileLookup) : Action :=
  if (lookup options.output).toBool ∧ !options.force then .finish options.refusal
  else
    .create ⟨FileName.folder? options.output, options.output, Settings.template⟩ options.outcome

end InitOptions

end SdkAudit
