import SdkAudit.Text.Search

/-!
# File names

The last component of a path and its extension.  Empty components and single dots in a path say
nothing; a path whose last component is `..` names no file.
-/

namespace SdkAudit.FileName

/-- The components of a path that count: all but the empty ones and the single dots. -/
def components (path : List Char) : List (List Char) :=
  (Text.cutAt (· = '/') path).filter fun part => part ≠ [] ∧ part ≠ ['.']

def base? (path : List Char) : Option (List Char) :=
  match (components path).getLast? with
  | some name => if name = ['.', '.'] then none else some name
  | none => none

/-- The extension of a file name: what follows its last dot, unless that dot comes first. -/
def extensionOf? (name : List Char) : Option (List Char) :=
  match Text.splitLast? '.' name with
  | some ([], _) => none
  | some (_, extension) => some extension
  | none => none

def extension? (path : String) : Option String :=
  ((base? path.toList).bind extensionOf?).map String.ofList

/-- The folder that a path is in, unless that is the working directory or the root. -/
def folder? (path : String) : Option String :=
  match (components path.toList).dropLast with
  | [] => none
  | parts =>
    some ((if path.startsWith "/" then "/" else "") ++ "/".intercalate (parts.map String.ofList))

/-- The path of a name in a folder. -/
def below (folder name : String) : String :=
  if folder = "" ∨ folder.endsWith "/" then folder ++ name else folder ++ "/" ++ name

end SdkAudit.FileName
