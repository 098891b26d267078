import SdkAudit.Glob
import SdkAudit.Technology
import SdkAudit.Text.Character
import SdkAudit.Text.Quoted

/-!
# Settings

What a project may settle about its checks: the technology of files whose extension says nothing,
the paths that are left out, and the advisory exchange.  Every setting has a default.

* `Settings`: the settings of a project;
* `Settings.check`: the first thing that is wrong with them;
* `Exclusions`: the patterns of the paths that are left out, ready for matching.
-/

namespace SdkAudit

/-- The settings of the advisory exchange. -/
structure AdvisorySettings where
  /-- Whether the exchange is entered at all. -/
  enabled : Bool := false
  /-- The address of the advisor. -/
  endpoint : String := "https://api.openai.com/v1/chat/completions"
  model : String := "gpt-4o"
  /-- The environment variable that holds the key. -/
  keyVariable : String := "OPENAI_API_KEY"
  /-- How long an answer is waited for, in milliseconds. -/
  timeout : Nat := 60000
deriving DecidableEq, Repr

/-- The settings of a project. -/
structure Settings where
  /-- The technology of files whose extension says nothing. -/
  technology : Technology := .usual
  /-- The patterns of the paths that are left out. -/
  excluded : List String := []
  advisory : AdvisorySettings := {}
deriving DecidableEq, Repr

/-- What is wrong with settings. -/
inductive SettingsError where
  | badPattern (pattern : String) (reason : GlobError)
  | blankEndpoint
  | blankKeyVariable
deriving DecidableEq, Repr

def SettingsError.message : SettingsError → String
  | badPattern pattern reason =>
    "invalid excluded_paths pattern " ++ Text.quoted pattern ++
      ": error parsing glob '" ++ pattern ++
      "': " ++ reason.message
  | blankEndpoint => "advisory.endpoint must not be empty"
  | blankKeyVariable => "advisory.api_key_env must not be empty"

/-- The paths that are left out. -/
structure Exclusions where
  globs : List Glob
deriving Repr

namespace Exclusions

/-- The paths that match one of some patterns. -/
def read (patterns : List String) : Except SettingsError Exclusions :=
  (patterns.mapM fun pattern => (Glob.read pattern).mapError (.badPattern pattern)).map .mk

def covers (exclusions : Exclusions) (path : String) : Bool :=
  exclusions.globs.any (·.covers path)

end Exclusions

namespace Settings

/-- Finds the first thing that is wrong with settings.  The exchange has to be described only where
it is entered. -/
def check (settings : Settings) : Except SettingsError Unit := do
  let _ ← Exclusions.read settings.excluded
  if settings.advisory.enabled then
    if Text.isBlankText settings.advisory.endpoint.toList then .error .blankEndpoint
    else if Text.isBlankText settings.advisory.keyVariable.toList then .error .blankKeyVariable
    else .ok ()
  else .ok ()

end Settings

end SdkAudit
