import SdkAudit.Settings
import SdkAudit.Yaml.Node
import SdkAudit.Yaml.Plain

/-!
# Settings as a document

Settings are written as a YAML map.  A setting that is left out keeps its default, an unknown one is
passed over, and a value that is not written at all is an empty list or a map without entries.  Any
scalar will do where a text is asked for, but truth values and numbers must not be quoted.

* `Settings.ofText`: the settings that a text describes;
* `DocumentError`: why a text describes none, and `DocumentError.message`.
-/

namespace SdkAudit

/-- What is wrong with a value of a document. -/
inductive Complaint where
  /-- It is of another kind than the expected one. -/
  | wrongType (found expected : String)
  /-- It is not of the kind that its tag says. -/
  | wrongValue (text expected : String)
  | unknownTechnology (name : String)
  | repeatedField (name : String)
deriving DecidableEq, Repr

def Complaint.message : Complaint → String
  | wrongType found expected => "invalid type: " ++ found ++ ", expected " ++ expected
  | wrongValue text expected =>
    "invalid value: string " ++ Text.quoted text ++ ", expected " ++ expected
  | unknownTechnology name =>
    "unknown variant \x60" ++ name ++ "\x60, expected one of " ++
      ", ".intercalate (Technology.all.map fun technology => "\x60" ++ technology.id ++ "\x60")
  | repeatedField name => "duplicate field \x60" ++ name ++ "\x60"

/-- Why a text describes no settings. -/
inductive DocumentError where
  /-- The text is not a document at all. -/
  | malformed (position : Position)
  /-- A value at a path in the document is wrong. -/
  | unsuitable (path : String) (complaint : Complaint) (position : Position)
  /-- Something is wrong that has no place of its own. -/
  | unplaced (complaint : Complaint)
deriving DecidableEq, Repr

/-- The error at a place, if it has none of its own. -/
def DocumentError.within (path : String) (position : Position) : DocumentError → DocumentError
  | unplaced complaint => .unsuitable path complaint position
  | error => error

/-- A position as it is shown after an error; the start of the text goes without saying. -/
def positionNote (p : Position) : String :=
  if p = .origin then ""
  else " at line " ++ toString (p.line + 1) ++ " column " ++ toString (p.column + 1)

def DocumentError.message : DocumentError → String
  | malformed position => "not a YAML document" ++ positionNote position
  | unsuitable path complaint position =>
    (if path = "" then "" else path ++ ": ") ++ complaint.message ++ positionNote position
  | unplaced complaint => complaint.message

namespace Yaml

/-! ### Values by kind -/

/-- The tags of the kinds of scalars. -/
def kindTag (kind : String) : String := "tag:yaml.org,2002:" ++ kind

/-- The words for a whole number; those that take more than 64 bits are told apart. -/
def integerWords (n : Int) : String :=
  let number := "integer \x60" ++ toString n ++ "\x60"
  if n < -(Nat.pow 2 63 : Int) then number ++ " as i128"
  else if Nat.pow 2 64 ≤ n then number ++ " as u128"
  else number

/-- The words for what a plain scalar stands for. -/
def PlainValue.words : PlainValue → String
  | null => "unit value"
  | boolean b => "boolean \x60" ++ toString b ++ "\x60"
  | integer n => integerWords n
  | real s => "floating point \x60" ++ s ++ "\x60"
  | text s => "string " ++ Text.quoted s

/-- The complaint about a scalar where something else is expected. -/
def scalarComplaint (text : String) (style : Style) (tag : Option String) (expected : String) :
    Complaint :=
  let asKind (value : Option PlainValue) (kind : String) : Complaint :=
    match value with
    | some value => .wrongType value.words expected
    | none => .wrongValue text kind
  let asText : Complaint := .wrongType (PlainValue.text text).words expected
  let asPlain : Complaint := .wrongType (PlainValue.ofText text).words expected
  match tag with
  | some tag =>
    if tag = kindTag "bool" then asKind ((boolean? text).map .boolean) "a boolean"
    else if tag = kindTag "int" then asKind ((integer? text).map .integer) "an integer"
    else if tag = kindTag "float" then asKind ((real? text).map .real) "a float"
    else if tag = kindTag "null" then asKind (if isNull text then some .null else none) "null"
    else if tag.startsWith "!" ∧ style = .plain then asPlain
    else asText
  | none => if style = .plain then asPlain else asText

/-- The error that a node makes where something else is expected. -/
def unexpected {α : Type} (path expected : String) : Node → Except DocumentError α
  | .scalar text style tag p =>
    .error (.unsuitable path (scalarComplaint text style tag expected) p)
  | .list _ _ p => .error (.unsuitable path (.wrongType "sequence" expected) p)
  | .map _ _ p => .error (.unsuitable path (.wrongType "map" expected) p)
  | .alias _ p => .error (.malformed p)

/-- Whether a node is not written at all. -/
def isUnwritten : Node → Bool
  | .scalar text style _ _ => text == "" && style == .plain
  | _ => false

/-- The text of a scalar that may stand for something other than a text: it is plain, or a block
with the tag of its kind. -/
def unquoted? (kind : String) : Node → Option String
  | .scalar text style tag _ =>
    if style = .plain ∨ style = .literal ∧ tag = some (kindTag kind) then some text else none
  | _ => none

def asText (path : String) : Node → Except DocumentError String
  | .scalar text _ _ _ => .ok text
  | node => unexpected path "a string" node

def asBoolean (path : String) (node : Node) : Except DocumentError Bool :=
  match (unquoted? "bool" node).bind boolean? with
  | some b => .ok b
  | none => unexpected path "a boolean" node

/-- A natural number of at most 64 bits. -/
def asNatural (path : String) (node : Node) : Except DocumentError Nat :=
  match ((unquoted? "int" node).bind natural?).filter (· < Nat.pow 2 64) with
  | some n => .ok n
  | none => unexpected path "u64" node

def asTexts (d : Document) (path : String) (node : Node) : Except DocumentError (List String) :=
  match node with
  | .list items _ _ =>
    items.zipIdx.mapM fun (item, i) => asText (path ++ "[" ++ toString i ++ "]") (d.resolve item)
  | node => if isUnwritten node then .ok [] else unexpected path "a sequence" node

/-- The name that a tag says, without its exclamation mark unless that is all of it. -/
def nameOfTag? (tag : String) : Option String :=
  match tag.toList with
  | ['!'] => some tag
  | '!' :: name => some (String.ofList name)
  | _ => none

/-- Checks that a node says nothing. -/
def asNothing (path : String) (node : Node) : Except DocumentError Unit :=
  match node with
  | .scalar text style _ p =>
    if style = .plain ∧ (text = "" ∨ isNull text) then .ok ()
    else .error (.unsuitable path (.wrongValue text "null") p)
  | node => unexpected path "unit" node

/-- A technology: its identifier, or a tag of that name on a value that says nothing else.  A tag
has no place of its own. -/
def asTechnology (path : String) (node : Node) : Except DocumentError Technology :=
  match node.tag?.bind nameOfTag? with
  | some name =>
    match Technology.ofId? name with
    | some technology => do
      asNothing path node
      return technology
    | none => .error (.unplaced (.unknownTechnology name))
  | none =>
    match node with
    | .scalar text _ _ p =>
      match Technology.ofId? text with
      | some technology => .ok technology
      | none => .error (.unsuitable path (.unknownTechnology text) p)
    | node => unexpected path "a YAML tag starting with '!'" node

/-! ### Maps with fixed fields -/

def fieldPath (path name : String) : String := if path = "" then name else path ++ "." ++ name

/-- A map with fixed fields: `field?` says how a value changes with a field, if there is a field of
that name.  Each field may be said once.  An error that has no place of its own is one of the map.
-/
def asFields {α : Type} (d : Document) (path expected : String)
    (field? : String → Option (Node → α → Except DocumentError α)) (default : α) (node : Node) :
    Except DocumentError α :=
  match node with
  | .map entries _ p => (readFields entries).mapError (·.within path p)
  | node => if isUnwritten node then .ok default else unexpected path expected node
where
  /-- The value that the fields among some entries describe. -/
  readFields (entries : List (Node × Node)) : Except DocumentError α := do
    let (_, value) ← entries.foldlM (fun (seen, value) (key, node) => do
      let .scalar name _ _ _ := d.resolve key
        | unexpected path "field identifier" (d.resolve key)
      match field? name with
      | none => return (seen, value)
      | some change =>
        if seen.contains name then .error (.unplaced (.repeatedField name))
        else return (name :: seen, ← change (d.resolve node) value)) (([] : List String), default)
    return value

end Yaml

namespace AdvisorySettings

/-- The settings of the exchange that a node describes. -/
def ofNode (d : Yaml.Document) (path : String) (node : Yaml.Node) :
    Except DocumentError AdvisorySettings :=
  Yaml.asFields d path "struct AdvisoryConfig" (fun name =>
    let path := Yaml.fieldPath path name
    match name with
    | "enabled" => some fun node s => return { s with enabled := ← Yaml.asBoolean path node }
    | "endpoint" => some fun node s => return { s with endpoint := ← Yaml.asText path node }
    | "model" => some fun node s => return { s with model := ← Yaml.asText path node }
    | "api_key_env" => some fun node s => return { s with keyVariable := ← Yaml.asText path node }
    | "timeout_ms" => some fun node s => return { s with timeout := ← Yaml.asNatural path node }
    | _ => none) {} node

end AdvisorySettings

namespace Settings

/-- The settings that a document describes. -/
def ofDocument (d : Yaml.Document) : Except DocumentError Settings :=
  Yaml.asFields d "" "struct Config" (fun name =>
    match name with
    | "default_technology" => some fun node s =>
      return { s with technology := ← Yaml.asTechnology name node }
    | "excluded_paths" => some fun node s =>
      return { s with excluded := ← Yaml.asTexts d name node }
    | "advisory" => some fun node s =>
      return { s with advisory := ← AdvisorySettings.ofNode d name node }
    | _ => none) {} (d.resolve d.root)

/-- The settings that a text describes.  A blank text, and one that holds no document, describes the
defaults. -/
def ofText (text : String) : Except DocumentError Settings :=
  if Text.isBlankText text.toList then .ok {}
  else
    match Yaml.Document.ofText? text with
    | .error e => .error (.malformed e.position)
    | .ok none => .ok {}
    | .ok (some document) => ofDocument document

end Settings

end SdkAudit
