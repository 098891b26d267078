import SdkAudit.FileTree
import SdkAudit.Text.Search

/-!
# Disks

A disk in memory: folders that hold files, folders and symbolic links.  Paths are resolved the way
the operating system does, component by component, and a link leads on from the folder that holds
it.  A path that starts with a slash, or climbs out of the disk, leads nowhere.

* `Disk.at?`: what a path leads to, with every link in it followed;
* `Disk.makeFolders`, `Disk.write`, `Disk.makeLink`: the changes to a disk;
* `FileError`: why a path leads nowhere or cannot be written, and `FileError.message`.
-/

namespace SdkAudit

/-- Why a path leads nowhere or cannot be written. -/
inductive FileError where
  | missing
  | exists
  | notFolder
  | isFolder
  | linkLoop
  /-- Any other reason, in the words of the operating system. -/
  | other (message : String)
deriving DecidableEq, Repr

def FileError.message : FileError → String
  | missing => "No such file or directory (os error 2)"
  | .exists => "File exists (os error 17)"
  | notFolder => "Not a directory (os error 20)"
  | isFolder => "Is a directory (os error 21)"
  | linkLoop => "Too many levels of symbolic links (os error 40)"
  | other message => message

/-- The entries of a folder, in the order of their names. -/
inductive Disk where
  | nil
  | file (name : String) (text : Option String) (rest : Disk)
  | link (name target : String) (rest : Disk)
  | folder (name : String) (inside rest : Disk)
deriving Repr

/-- An entry of a folder, apart from its name. -/
inductive Entry where
  | file (text : Option String)
  | link (target : String)
  | folder (inside : Disk)
deriving Repr

namespace Disk

/-! ### Entries -/

/-- An entry in front of others. -/
def cons (name : String) (entry : Entry) (rest : Disk) : Disk :=
  match entry with
  | .file text => file name text rest
  | .link target => link name target rest
  | .folder inside => folder name inside rest

def find? (wanted : String) : Disk → Option Entry
  | nil => none
  | file name text rest => if name = wanted then some (.file text) else rest.find? wanted
  | link name target rest => if name = wanted then some (.link target) else rest.find? wanted
  | folder name inside rest => if name = wanted then some (.folder inside) else rest.find? wanted

/-- Puts an entry in its place among the names, instead of any entry of that name. -/
def insert (wanted : String) (entry : Entry) : Disk → Disk
  | nil => cons wanted entry nil
  | file name text rest => place name (.file text) rest (rest.insert wanted entry)
  | link name target rest => place name (.link target) rest (rest.insert wanted entry)
  | folder name inside rest => place name (.folder inside) rest (rest.insert wanted entry)
where
  /-- Settles where the new entry goes: before this one, instead of it, or after it. -/
  place (name : String) (old : Entry) (rest inserted : Disk) : Disk :=
    if wanted < name then cons wanted entry (cons name old rest)
    else if wanted = name then cons wanted entry rest
    else cons name old inserted

/-- The entries of the folder at a location, given by the names of the folders on the way. -/
def folderAt? : List String → Disk → Option Disk
  | [], disk => some disk
  | name :: names, disk =>
    match disk.find? name with
    | some (.folder inside) => inside.folderAt? names
    | _ => none

/-- Changes the entries of the folder at a location, if there is such a folder. -/
def modifyAt (change : Disk → Disk) : List String → Disk → Disk
  | [], disk => change disk
  | name :: names, disk =>
    match disk.find? name with
    | some (.folder inside) => disk.insert name (.folder (inside.modifyAt change names))
    | _ => disk

/-! ### Paths -/

/-- What stands at a location. -/
inductive Spot where
  | file (text : Option String)
  | folder (inside : Disk)
  /-- Nothing yet, in a folder that exists. -/
  | free
deriving Repr

/-- The components of a path.  An empty one at the end asks for a folder. -/
def parts (path : String) : List String :=
  (Text.cutAt (· = '/') path.toList).map String.ofList

/-- Follows components from a folder, through at most `links` links: the location that they lead to,
and what stands there. -/
def follow (disk : Disk) (links : Nat) (here : List String) :
    List String → Except FileError (List String × Spot)
  | [] => (disk.folderAt? here).elim (.error .missing) fun inside => .ok (here, .folder inside)
  | part :: rest =>
    if part = "" ∨ part = "." then follow disk links here rest
    else if part = ".." then
      if here = [] then .error .missing else follow disk links here.dropLast rest
    else
      match (disk.folderAt? here).bind (·.find? part) with
      | none => if rest = [] then .ok (here ++ [part], .free) else .error .missing
      | some (.file text) =>
        if rest = [] then .ok (here ++ [part], .file text) else .error .notFolder
      | some (.folder _) => follow disk links (here ++ [part]) rest
      | some (.link target) =>
        match links with
        | 0 => .error .linkLoop
        | links + 1 =>
          if target.startsWith "/" then .error .missing
          else follow disk links here (parts target ++ rest)
termination_by parts => (links, parts.length)

/-- How many links are followed for one path. -/
def mostLinks : Nat := 40

/-- Where a path leads to, and what stands there. -/
def resolve (disk : Disk) (path : String) : Except FileError (List String × Spot) :=
  if path = "" ∨ path.startsWith "/" then .error .missing
  else disk.follow mostLinks [] (parts path)

/-! ### Trees with their links followed -/

/-- How many folders there are, at any depth. -/
def folderCount : Disk → Nat
  | nil => 0
  | file _ _ rest => rest.folderCount
  | link _ _ rest => rest.folderCount
  | folder _ inside rest => inside.folderCount + rest.folderCount + 1

/-- The tree of the entries of the folder at `here`, where `enter?` gives the tree of a folder by
its location.  Links that lead nowhere are left out. -/
def treeOf (disk : Disk) (here : List String) (enter? : List String → Option FileTree) :
    Disk → FileTree
  | nil => .nil
  | file name text rest => .file name text (treeOf disk here enter? rest)
  | folder name _ rest =>
    match enter? (here ++ [name]) with
    | some inside => .folder name inside (treeOf disk here enter? rest)
    | none => treeOf disk here enter? rest
  | link name target rest =>
    match if target.startsWith "/" then none
      else (disk.follow (mostLinks - 1) here (parts target)).toOption with
    | some (_, .file text) => .file name text (treeOf disk here enter? rest)
    | some (location, .folder _) =>
      match enter? location with
      | some inside => .folder name inside (treeOf disk here enter? rest)
      | none => treeOf disk here enter? rest
    | _ => treeOf disk here enter? rest

/-- The tree of the folder at a location, to a depth.  A folder that is entered from inside itself
is left out; `above` holds the locations of the folders on the way. -/
def treeTo (disk : Disk) : Nat → List (List String) → List String → FileTree
  | 0, _, _ => .nil
  | depth + 1, above, here =>
    let enter? (location : List String) :=
      if location ∈ here :: above then none else some (disk.treeTo depth (here :: above) location)
    ((disk.folderAt? here).map (disk.treeOf here enter?)).getD .nil

/-- The tree of the folder at a location.  No folder is on the way twice, so the number of folders
is depth enough. -/
def treeAt (disk : Disk) (location : List String) : FileTree :=
  disk.treeTo (disk.folderCount + 1) [] location

/-- What a path leads to. -/
def at? (disk : Disk) (path : String) : Except FileError PathTarget := do
  match ← disk.resolve path with
  | (_, .file text) => .ok (.file text)
  | (location, .folder _) => .ok (.folder (disk.treeAt location))
  | (_, .free) => .error .missing

/-! ### Changes -/

/-- Puts an entry at a free location, given by the folder and the name. -/
def putAt (disk : Disk) (location : List String) (entry : Entry) : Disk :=
  match location.getLast? with
  | some name => disk.modifyAt (·.insert name entry) location.dropLast
  | none => disk

/-- The components of a path without those that say nothing. -/
def steps (path : String) : List String := (parts path).filter fun part => part ≠ "" ∧ part ≠ "."

/-- Makes a folder in one that exists, and puts an entry there under its name.  Nothing of that name
may be there yet, not even a link that leads nowhere. -/
def makeEntry (disk : Disk) (entry : Entry) (steps : List String) : Except FileError Disk :=
  match steps.getLast? with
  | none => .error .exists
  | some name => do
    match ← disk.follow mostLinks [] steps.dropLast with
    | (location, .folder inside) =>
      if name = ".." ∨ (inside.find? name).isSome then .error .exists
      else .ok (disk.putAt (location ++ [name]) entry)
    | (_, .file _) => .error .notFolder
    | (_, .free) => .error .missing

def isFolder (disk : Disk) (steps : List String) : Bool :=
  match disk.follow mostLinks [] steps with
  | .ok (_, .folder _) => true
  | _ => false

/-- Makes a folder unless it is there already. -/
def makeFolder (disk : Disk) (steps : List String) : Except FileError Disk :=
  match disk.makeEntry (.folder .nil) steps with
  | .ok changed => .ok changed
  | .error e => if disk.isFolder steps then .ok disk else .error e

/-- Makes the folder that some steps lead to, given in reverse, and those on the way to it. -/
def makeFoldersTo (disk : Disk) : List String → Except FileError Disk
  | [] => .ok disk
  | name :: above =>
    match disk.makeFolder (name :: above).reverse with
    | .error .missing => do (← disk.makeFoldersTo above).makeFolder (name :: above).reverse
    | made => made

/-- Makes the folder of a path, and those on the way to it. -/
def makeFolders (disk : Disk) (path : String) : Except FileError Disk :=
  if path.startsWith "/" then .error .missing else disk.makeFoldersTo (steps path).reverse

def makeLink (disk : Disk) (path target : String) : Except FileError Disk :=
  if path.startsWith "/" then .error .missing else disk.makeEntry (.link target) (steps path)

/-- Writes a file, in place of one that is there. -/
def write (disk : Disk) (path : String) (text : Option String) : Except FileError Disk :=
  if path.endsWith "/" then .error .isFolder
  else do
    match ← disk.resolve path with
    | (_, .folder _) => .error .isFolder
    | (location, _) => .ok (disk.putAt location (.file text))

end Disk

end SdkAudit
