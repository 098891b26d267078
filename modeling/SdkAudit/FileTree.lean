import SdkAudit.FileName
import SdkAudit.Settings

/-!
# Stores and trees of files

A project takes its files from a store, which knows their paths in a fixed order, their texts, and
the names that they are shown by.

A folder as it is seen when every link is followed: files with their texts, and folders.  A project
on disk is listed by walking such a tree depth first; hidden folders and those that hold the output
of tools are not entered, and files of an unknown kind are left out, as are those that match an
exclusion pattern.

* `Store`: where the files of a project come from;
* `FileTree`: the entries of a folder;
* `FileTree.listing`: the files of a project, in the order of the walk;
* `Store.ofTarget`: the store of the files that a path leads to.
-/

namespace SdkAudit

/-- Where the files of a project come from. -/
structure Store where
  /-- The paths of the files, in a fixed order. -/
  paths : List String
  /-- The text of a file, if it can be read. -/
  text? : String → Option String
  /-- A path as it is shown. -/
  label : String → String

namespace Store

/-- A store of files in memory, each with its text if it can be read.  A path that is listed twice
has the text of its first entry. -/
def ofFiles (files : List (String × Option String)) : Store where
  paths := files.map (·.1)
  text? path := (files.lookup path).join
  label path := path

end Store

/-- The entries of a folder, in the order of their names.  A file has a text if its bytes are one.
-/
inductive FileTree where
  | nil
  | file (name : String) (text : Option String) (rest : FileTree)
  | folder (name : String) (inside rest : FileTree)
deriving Repr

/-- A file of a tree: the names on the way to it, and its text. -/
structure FoundFile where
  /-- The names of the folders on the way, and that of the file itself. -/
  names : List String
  text : Option String
deriving DecidableEq, Repr

namespace FoundFile

/-- The path below the folder that the tree is of. -/
def relativePath (found : FoundFile) : String := "/".intercalate found.names

/-- The path below `root`, with `root` itself. -/
def fullPath (root : String) (found : FoundFile) : String :=
  FileName.below root found.relativePath

end FoundFile

def outputFolders : List String :=
  ["build", "node_modules", "vendor", "Pods", "DerivedData", "target"]

def isEntered (name : String) : Bool := !name.startsWith "." && !outputFolders.contains name

/-- Whether the extension of a file is that of a technology. -/
def isSource (path : String) : Bool :=
  ((FileName.extension? path).bind Technology.ofExtension?).isSome

namespace FileTree

/-- The files of a tree, depth first; `above` holds the names on the way to the tree. -/
def walk (above : List String) : FileTree → List FoundFile
  | nil => []
  | file name text rest => ⟨above ++ [name], text⟩ :: rest.walk above
  | folder name inside rest =>
    (if isEntered name then inside.walk (above ++ [name]) else []) ++ rest.walk above

/-- Whether a file below a folder belongs to a project. -/
def isListed (exclusions : Exclusions) (root : String) (found : FoundFile) : Bool :=
  isSource found.relativePath &&
    !(exclusions.covers found.relativePath || exclusions.covers (found.fullPath root))

/-- The files of a project whose folder has the path `root`. -/
def listing (exclusions : Exclusions) (root : String) (tree : FileTree) : List FoundFile :=
  (tree.walk []).filter (isListed exclusions root)

end FileTree

/-- What a path leads to. -/
inductive PathTarget where
  | file (text : Option String)
  | folder (tree : FileTree)
deriving Repr

namespace Store

/-- The files of a folder, shown by their paths below it. -/
def ofFolder (exclusions : Exclusions) (root : String) (tree : FileTree) : Store :=
  let found := tree.listing exclusions root
  { paths := found.map (·.fullPath root)
    text? path := (found.find? (·.fullPath root = path)).bind (·.text)
    label path := ((found.find? (·.fullPath root = path)).map (·.relativePath)).getD path }

/-- The files that a path leads to.  A file that is named itself is a project of its own, whatever
its kind, and a path that leads nowhere holds no file. -/
def ofTarget (exclusions : Exclusions) (root : String) : Option PathTarget → Store
  | some (.file text) => ofFiles [(root, text)]
  | some (.folder tree) => ofFolder exclusions root tree
  | none => ofFiles []

end Store

end SdkAudit
