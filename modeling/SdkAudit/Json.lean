/-!
# JSON documents

A JSON value whose objects keep the order of their members, and its text: two spaces per level, one
item a line, and nothing between the brackets of an empty list or object.
-/

namespace SdkAudit

/-- A JSON value; numbers are natural numbers. -/
inductive Json where
  | null
  | bool (b : Bool)
  | number (n : Nat)
  | string (s : String)
  | array (items : List Json)
  | object (members : List (String × Json))
deriving Repr

namespace Json

/-- A text that is left out when there is none. -/
def field? (key : String) (value : Option Json) : List (String × Json) :=
  match value with
  | some value => [(key, value)]
  | none => []

def strings (items : List String) : Json := .array (items.map .string)

/-! ### Text -/

/-- The digit of a number below sixteen, in lower case. -/
def hexDigit (n : Nat) : Char := Nat.digitChar (n % 16)

def escapeChar (c : Char) : List Char :=
  match c with
  | '"' => ['\\', '"']
  | '\\' => ['\\', '\\']
  | '\x08' => ['\\', 'b']
  | '\x0c' => ['\\', 'f']
  | '\n' => ['\\', 'n']
  | '\r' => ['\\', 'r']
  | '\t' => ['\\', 't']
  | c =>
    if c.toNat < 0x20 then ['\\', 'u', '0', '0', hexDigit (c.toNat / 16), hexDigit c.toNat]
    else [c]

def stringText (s : String) : String :=
  String.ofList ('"' :: (s.toList.flatMap escapeChar ++ ['"']))

/-- A line break, and the indentation of a level. -/
def lineBreak (level : Nat) : String := "\n" ++ String.ofList (List.replicate (2 * level) ' ')

mutual

def textAt (level : Nat) : Json → String
  | .null => "null"
  | .bool b => if b then "true" else "false"
  | .number n => toString n
  | .string s => stringText s
  | .array [] => "[]"
  | .array (item :: items) =>
    "[" ++ lineBreak (level + 1) ++ textAt (level + 1) item ++ itemsText (level + 1) items ++
      lineBreak level ++ "]"
  | .object [] => "\x7b\x7d"
  | .object ((key, value) :: members) =>
    "\x7b" ++ lineBreak (level + 1) ++ stringText key ++ ": " ++ textAt (level + 1) value ++
      membersText (level + 1) members ++ lineBreak level ++ "\x7d"

/-- The texts of the items of a list after its first. -/
def itemsText (level : Nat) : List Json → String
  | [] => ""
  | item :: items => "," ++ lineBreak level ++ textAt level item ++ itemsText level items

/-- The texts of the members of an object after its first. -/
def membersText (level : Nat) : List (String × Json) → String
  | [] => ""
  | (key, value) :: members =>
    "," ++ lineBreak level ++ stringText key ++ ": " ++ textAt level value ++
      membersText level members

end

def text (value : Json) : String := textAt 0 value

end Json

end SdkAudit
