import SdkAudit.CommandLine.Words

/-!
# Commands

The tool checks a project, shows the rules, or makes a settings file.  The words of a command line
are a command with its flags; in front of the command, and after it, more may be asked to be told.

* `Command`: what the tool is asked to do;
* `Invocation.read`: the command that the words of a command line make.
-/

namespace SdkAudit

/-- What is given for a check. -/
structure CheckOptions where
  path : String
  /-- The settings file. -/
  config : Option String := none
  format : String := "pretty"
  /-- The technology of every file. -/
  technology : Option Technology := none
  /-- Whether the advisory exchange is entered whatever the settings say. -/
  advisory : Bool := false
deriving DecidableEq, Repr

/-- What is given for showing the rules. -/
structure RulesOptions where
  technology : Option Technology := none
  format : String := "pretty"
deriving DecidableEq, Repr

/-- What is given for making a settings file. -/
structure InitOptions where
  output : String := "mappcheck.yaml"
  /-- Whether a file that is there is replaced. -/
  force : Bool := false
deriving DecidableEq, Repr

/-- What the tool is asked to do. -/
inductive Command where
  | check (options : CheckOptions)
  | rules (options : RulesOptions)
  | init (options : InitOptions)
deriving DecidableEq, Repr

/-- A kind of command. -/
inductive CommandKind where
  | check
  | rules
  | init
deriving DecidableEq, Repr

/-- A command line that has been understood. -/
structure Invocation where
  command : Command
  /-- Whether more is to be told while the command runs. -/
  verbose : Bool
deriving DecidableEq, Repr

namespace CommandKind

def ofName? : String → Option CommandKind
  | "check" => some .check
  | "lint" => some .check
  | "rules" => some .rules
  | "init" => some .init
  | _ => none

def sharedFlags : List Flag :=
  [⟨.verbose, "verbose", some 'v', false⟩, ⟨.help, "help", some 'h', false⟩]

def form : CommandKind → Form
  | .check =>
    ⟨[⟨.config, "config", some 'c', true⟩, ⟨.format, "format", some 'f', true⟩,
      ⟨.technology, "technology", some 't', true⟩, ⟨.advisory, "advisory", none, false⟩] ++
      sharedFlags, [.path]⟩
  | .rules => ⟨⟨.format, "format", some 'f', true⟩ :: sharedFlags, [.technology]⟩
  | .init =>
    ⟨[⟨.output, "output", some 'o', true⟩, ⟨.force, "force", none, false⟩] ++ sharedFlags, []⟩

def technologyOf (g : Given) : Option Technology :=
  (g.value? .technology).bind fun name => (Technology.read name).toOption

def command (kind : CommandKind) (g : Given) : Except UsageError Command :=
  match kind with
  | .check =>
    match g.value? .path with
    | none => .error (.missingArgument .path)
    | some path =>
      .ok (.check {
        path
        config := g.value? .config
        format := (g.value? .format).getD "pretty"
        technology := technologyOf g
        advisory := g.has .advisory })
  | .rules =>
    .ok (.rules { technology := technologyOf g, format := (g.value? .format).getD "pretty" })
  | .init =>
    .ok (.init { output := (g.value? .output).getD "mappcheck.yaml", force := g.has .force })

end CommandKind

namespace Invocation

/-- The flags in front of a command. -/
def outerForm : Form :=
  ⟨⟨.version, "version", some 'V', false⟩ :: CommandKind.sharedFlags, []⟩

/-- Whether a word is a command or asks for help about one. -/
def isCommandWord (word : String) : Bool := (CommandKind.ofName? word).isSome || word == "help"

/-- The words after `help`: none, or one that is a command. -/
def readHelp : List String → UsageError
  | [] => .helpAsked
  | word :: rest =>
    if isCommandWord word then
      match rest with
      | [] => .helpAsked
      | word :: _ => .unknownCommand word
    else .unknownCommand word

/-- Reads words from the left, after some flags in front of the command. -/
def readFrom (outer : Given) : List String → Except UsageError Invocation
  | [] => .error (if outer.values.isEmpty then .nothingAsked else .missingCommand)
  | word :: rest =>
    if outer.wordsOnly then
      .error (if isCommandWord word then .unknownArgument word else .unknownCommand word)
    else if word = "help" then .error (readHelp rest)
    else
      match CommandKind.ofName? word with
      | some kind => do
        let inner ← kind.form.read rest
        return ⟨← kind.command inner, outer.has .verbose || inner.has .verbose⟩
      | none =>
        if word.startsWith "-" ∧ word ≠ "-" then do readFrom (← outerForm.readWord outer word) rest
        else .error (.unknownCommand word)

/-- The command that the words of a command line make. -/
def read (words : List String) : Except UsageError Invocation := readFrom { positions := [] } words

end Invocation

end SdkAudit
