import SdkAudit.CommandLine.Check
import SdkAudit.CommandLine.Init
import SdkAudit.CommandLine.RulesListing

/-!
# Running commands

What a command has to be done, what it looks up for that, and a run of it on a disk in memory.

* `Command.action`: what a command has to be done;
* `Command.paths`, `Command.keyVariable?`: the paths and the environment variable that it looks up;
* `Command.runOn`: a run on a disk.
-/

namespace SdkAudit.Command

def action (command : Command) (s : Surroundings) : Action :=
  match command with
  | .check options => .finish (options.run s)
  | .rules options => .finish (options.run s.color)
  | .init options => options.action s.lookup

/-- The paths that a command may look up. -/
def paths : Command → List String
  | .check options =>
    options.path :: options.config.toList ++
      [".", options.path].flatMap fun folder => Settings.fileNames.map (FileName.below folder)
  | .rules _ => []
  | .init options => [options.output]

/-- The environment variable that a command may look up. -/
def keyVariable? (command : Command) (lookup : FileLookup) : Option String :=
  match command with
  | .check options =>
    (Settings.load lookup (options.settingsPath? lookup)).toOption.map (·.advisory.keyVariable)
  | .rules _ => none
  | .init _ => none

/-- Runs a command on a disk, whatever else there is around it. -/
def runOn (command : Command) (s : Surroundings) (disk : Disk) : Disk × Outcome :=
  match command.action { s with lookup := disk.at? } with
  | .finish outcome => (disk, outcome)
  | .create file outcome =>
    let (disk, made) := disk.create file
    (disk, outcome made)

end SdkAudit.Command
