import SdkAudit.Advisory.Completion
import SdkAudit.CommandLine.Help
import SdkAudit.CommandLine.Run

/-!
# The command line tool

Files and environment variables are read before a command is run on what they hold.  Folders that
are not entered, and files that are not listed, are not read.  There is no network, so that an
advisor cannot be reached.
-/

namespace SdkAudit.Tool

/-- Why the system refused something. -/
def refusal : IO.Error → FileError
  | .noFileOrDirectory .. => .missing
  | .alreadyExists .. => .exists
  | .inappropriateType _ code details => ofCode code details
  | .permissionDenied _ code details => ofCode code details
  | .invalidArgument _ code details => ofCode code details
  | .resourceExhausted _ code details => ofCode code details
  | .otherError code details => ofCode code details
  | e => .other (toString e)
where
  /-- The reason of a code, with its description. -/
  ofCode (code : UInt32) (details : String) : FileError :=
    if code = 20 then .notFolder
    else if code = 21 then .isFolder
    else if code = 40 then .linkLoop
    else .other (details ++ " (os error " ++ toString code ++ ")")

/-- The text of a file, if it can be read and its bytes are one. -/
def readText (path : String) : IO (Option String) := do
  match ← (IO.FS.readBinFile path).toBaseIO with
  | .ok bytes => return String.fromUTF8? bytes
  | .error _ => return none

mutual

/-- Reads the entries of the folder that a path leads to.  A folder that is one of those above is
left out. -/
partial def readFolder (above : List String) (path : String) : IO FileTree := do
  let entries ← (← IO.FS.realPath path).readDir
  let names := (entries.map (·.fileName)).toList.mergeSort (· ≤ ·)
  readEntries above path names

partial def readEntries (above : List String) (path : String) : List String → IO FileTree
  | [] => return .nil
  | name :: names => do
    let rest ← readEntries above path names
    let path := FileName.below path name
    let .ok real ← (IO.FS.realPath path).toBaseIO | return rest
    if ← real.isDir then
      if above.contains real.toString ∨ !isEntered name then return rest
      else
        match ← (readFolder (real.toString :: above) path).toBaseIO with
        | .ok inside => return .folder name inside rest
        | .error _ => return rest
    else if isSource name then return .file name (← readText path) rest
    else return rest

end

def look (path : String) : IO (Except FileError PathTarget) := do
  match ← (IO.FS.realPath path).toBaseIO with
  | .ok real =>
    if ← real.isDir then
      match ← (readFolder [real.toString] path).toBaseIO with
      | .ok tree => return .ok (.folder tree)
      | .error _ => return .ok (.folder .nil)
    else return .ok (.file (← readText path))
  | .error _ =>
    -- the attempt to read it tells why there is nothing
    match ← (IO.FS.readBinFile path).toBaseIO with
    | .ok bytes => return .ok (.file (String.fromUTF8? bytes))
    | .error e => return .error (refusal e)

def readVariables (names : List String) : IO (String → Option String) := do
  let values ← names.mapM fun name => do return (name, ← IO.getEnv name)
  return fun name => (values.lookup name).join

/-- Makes a file, and the folder that it goes to. -/
def create (file : NewFile) : IO (Except CreationError Unit) := do
  if let some folder := file.folder then
    if let .error e ← (IO.FS.createDirAll folder).toBaseIO then
      return .error (.folder (refusal e))
  match ← (IO.FS.writeFile file.path file.text).toBaseIO with
  | .ok () => return .ok ()
  | .error e => return .error (.file (refusal e))

def carryOut (command : Command) : IO Outcome := do
  let targets ← command.paths.mapM fun path => do return (path, ← look path)
  let lookup : FileLookup := fun path => (targets.lookup path).getD (.error .missing)
  let environment ← readVariables (Text.styleVariables ++ (command.keyVariable? lookup).toList)
  let unreachable : CompletionRequest → CompletionResponse := fun _ => .unreachable "no connection"
  let surroundings : Surroundings :=
    { lookup, environment, advisor := Advisor.ofEndpoint unreachable
      color := Text.stylesWanted environment (← (← IO.getStdout).isTty) }
  match command.action surroundings with
  | .finish outcome => return outcome
  | .create file outcome => return outcome (← create file)

end SdkAudit.Tool

/-- Runs the tool with the words of a command line. -/
def main (words : List String) : IO UInt32 := do
  let outcome ← match SdkAudit.Invocation.read words with
    | .error e => pure e.outcome
    | .ok invocation => SdkAudit.Tool.carryOut invocation.command
  IO.eprint outcome.stderr
  IO.print outcome.stdout
  return outcome.exit.toUInt32
