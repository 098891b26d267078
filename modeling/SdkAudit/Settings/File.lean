import SdkAudit.Disk
import SdkAudit.Settings.Document

/-!
# Settings files

Settings are kept in a file that is named, or in one with a usual name in a folder.

* `Settings.discover?`: the settings file of a folder;
* `Settings.load`: the settings in a file, which have to be valid.
-/

namespace SdkAudit

/-- What paths lead to. -/
abbrev FileLookup := String → Except FileError PathTarget

/-- Why there are no settings to go by. -/
inductive LoadError where
  | unreadable (path : String) (reason : FileError)
  /-- The bytes of the file are no text. -/
  | notText (path : String)
  | unsuitable (path : String) (reason : DocumentError)
  | invalid (reason : SettingsError)
deriving DecidableEq, Repr

def LoadError.message : LoadError → String
  | unreadable path reason => failed path reason.message
  | notText path => failed path "stream did not contain valid UTF-8"
  | unsuitable path reason => failed path reason.message
  | invalid reason => reason.message
where
  /-- The text of an error with a file. -/
  failed (path reason : String) : String := "failed to load config " ++ path ++ ": " ++ reason

namespace Settings

/-- The usual names of settings files, the preferred one first. -/
def fileNames : List String := ["mappcheck.yaml", ".mappcheck.yaml"]

/-- The settings file of a folder. -/
def discover? (lookup : FileLookup) (folder : String) : Option String :=
  (fileNames.map (FileName.below folder)).find? fun path =>
    match lookup path with
    | .ok (.file _) => true
    | _ => false

def readFile (lookup : FileLookup) (path : String) : Except LoadError Settings :=
  match lookup path with
  | .ok (.file (some text)) => (ofText text).mapError (.unsuitable path)
  | .ok (.file none) => .error (.notText path)
  | .ok (.folder _) => .error (.unreadable path .isFolder)
  | .error e => .error (.unreadable path e)

/-- The settings in a file, or the defaults if there is no file. -/
def load (lookup : FileLookup) (path : Option String) : Except LoadError Settings := do
  let settings ← match path with
    | some path => readFile lookup path
    | none => pure {}
  match settings.check with
  | .ok () => return settings
  | .error e => .error (.invalid e)

end Settings

end SdkAudit
