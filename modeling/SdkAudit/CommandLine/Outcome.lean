import SdkAudit.Advisory.Exchange
import SdkAudit.Settings.File

/-!
# Surroundings and outcomes of commands

A command is told what it asks of its surroundings, and comes to an outcome: what it writes for
people and the code that it exits with.  One that makes a file first asks for that, and its outcome
depends on how it goes.
-/

namespace SdkAudit

/-- What commands ask of their surroundings. -/
structure Surroundings where
  /-- What paths lead to. -/
  lookup : FileLookup
  /-- The value of an environment variable. -/
  environment : String → Option String
  /-- The advisor that some settings describe, with the key to it. -/
  advisor : AdvisorySettings → String → Advisor
  /-- Whether terminal styles are wanted. -/
  color : Bool := false

/-- What a command comes to. -/
structure Outcome where
  stdout : String := ""
  stderr : String := ""
  exit : Nat
deriving DecidableEq, Repr

namespace Outcome

/-- The exit code of a command that did what it was asked for. -/
def successCode : Nat := 0

/-- The exit code of a check that found an error. -/
def failedCode : Nat := 1

/-- The exit code of a command that could not be carried out. -/
def errorCode : Nat := 2

def ofError (message : String) : Outcome :=
  { stderr := "Error: " ++ message ++ "\n", exit := errorCode }

end Outcome

/-- A file that is to be made. -/
structure NewFile where
  /-- The folder that it goes to, which is made as well. -/
  folder : Option String
  path : String
  text : String
deriving DecidableEq, Repr

/-- Why a file could not be made. -/
inductive CreationError where
  | folder (reason : FileError)
  | file (reason : FileError)
deriving DecidableEq, Repr

/-- What a command has to be done next. -/
inductive Action where
  | finish (outcome : Outcome)
  /-- A file is to be made; what the command comes to depends on how that goes. -/
  | create (file : NewFile) (outcome : Except CreationError Unit → Outcome)

namespace Disk

/-- Makes a file, and the folder that it goes to. -/
def create (disk : Disk) (file : NewFile) : Disk × Except CreationError Unit :=
  match file.folder.elim (.ok disk) disk.makeFolders with
  | .error e => (disk, .error (.folder e))
  | .ok disk =>
    match disk.write file.path (some file.text) with
    | .error e => (disk, .error (.file e))
    | .ok disk => (disk, .ok ())

end Disk

end SdkAudit
