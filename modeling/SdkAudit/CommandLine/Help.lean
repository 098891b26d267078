import SdkAudit.CommandLine.Command
import SdkAudit.CommandLine.Outcome

/-!
# Help with the command line

What is said when the words of a command line make no command: the help or the version that was
asked for, or what is wrong with the words.

* `UsageError.message`: what is wrong;
* `UsageError.outcome`: what is written, and the exit code.
-/

namespace SdkAudit

/-- How the tool is called. -/
def usageText : String :=
  "Usage: " ++ toolName ++ " [--verbose] <command>\n\n" ++
  "Commands:\n" ++
  "  check <path>        Check how a project uses the SDK (also: lint)\n" ++
  "    -c, --config <file>        Settings file\n" ++
  "    -f, --format <form>        pretty, json, sarif, or host\n" ++
  "    -t, --technology <name>    Treat every file as this technology\n" ++
  "        --advisory             Enter the advisory exchange whatever the settings say\n" ++
  "  rules [technology]  Show the rules for one or all technologies\n" ++
  "    -f, --format <form>        pretty or json\n" ++
  "  init                Make a settings file\n" ++
  "    -o, --output <file>        The file to be made\n" ++
  "        --force                Replace a file that is there\n\n" ++
  "Options:\n" ++
  "  -v, --verbose       Tell more\n" ++
  "  -h, --help          Show this help\n" ++
  "  -V, --version       Show the version\n"

def Item.spelling : Item → String
  | verbose => "--verbose"
  | help => "--help"
  | version => "--version"
  | config => "--config"
  | format => "--format"
  | technology => "technology"
  | advisory => "--advisory"
  | output => "--output"
  | force => "--force"
  | path => "path"

namespace UsageError

def message : UsageError → String
  | unknownArgument word => "unexpected argument " ++ Text.quoted word
  | surplusValue word => "unexpected value in " ++ Text.quoted word
  | missingValue item => "a value is required for " ++ item.spelling
  | badValue reason => reason.message
  | repeated item => item.spelling ++ " cannot be given more than once"
  | missingArgument item => "missing " ++ item.spelling
  | missingCommand => "a command is required"
  | unknownCommand word => "unknown command " ++ Text.quoted word
  | nothingAsked => "a command is required"
  | helpAsked => "help is asked for"
  | versionAsked => "the version is asked for"

/-- What is written when the words of a command line make no command. -/
def outcome (e : UsageError) : Outcome :=
  match e with
  | helpAsked => { stdout := usageText, exit := e.exitCode }
  | versionAsked => { stdout := toolName ++ " " ++ toolVersion ++ "\n", exit := e.exitCode }
  | nothingAsked => { stderr := usageText, exit := e.exitCode }
  | e => { stderr := "error: " ++ e.message ++ "\n\n" ++ usageText, exit := e.exitCode }

end UsageError

end SdkAudit
