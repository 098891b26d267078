import SdkAudit.Technology

/-!
# The words of a command line

The words after a command are read one by one.  A flag has a long name and perhaps a short one, and
either stands alone or takes a value, in the same word or the next one; short flags may share a
word.  Words that are no flags fill the positions of the command in order, and after a word of two
dashes all words do.  A value is judged only when the next flag or position is reached, so that of
two errors the one that is found while reading comes first.

* `Form`: the flags and positions of a command;
* `Form.read`: what is given by some words;
* `UsageError`: why words are not understood.
-/

namespace SdkAudit

/-- Something that can be given on a command line. -/
inductive Item where
  | verbose
  | help
  | version
  | config
  | format
  | technology
  | advisory
  | output
  | force
  | path
deriving DecidableEq, Repr

/-- Why the words of a command line do not make a command to be run. -/
inductive UsageError where
  /-- A flag or a word that the command has no place for. -/
  | unknownArgument (word : String)
  /-- A value for a flag that takes none. -/
  | surplusValue (word : String)
  /-- No value for a flag that takes one, or an empty path. -/
  | missingValue (item : Item)
  /-- A value that names no technology. -/
  | badValue (reason : UnknownTechnology)
  | repeated (item : Item)
  /-- A position that has to be filled and is not. -/
  | missingArgument (item : Item)
  | missingCommand
  | unknownCommand (word : String)
  /-- No words at all. -/
  | nothingAsked
  /-- Not an error: help is asked for. -/
  | helpAsked
  /-- Not an error: the version is asked for. -/
  | versionAsked
deriving DecidableEq, Repr

/-- Whether the words ask for something that is shown instead of running a command. -/
def UsageError.isRequest : UsageError → Bool
  | helpAsked => true
  | versionAsked => true
  | _ => false

def UsageError.exitCode (e : UsageError) : Nat := if e.isRequest then 0 else 2

/-- A flag of a command. -/
structure Flag where
  item : Item
  long : String
  short : Option Char := none
  takesValue : Bool := false
deriving Repr

/-- The flags and positions of a command. -/
structure Form where
  flags : List Flag
  positions : List Item := []
deriving Repr

/-- What words have given so far. -/
structure Given where
  values : List (Item × String) := []
  /-- The item that was named last, with its value if that has been read. -/
  pending : Option (Item × Option String) := none
  /-- Whether the next word may be the value of that item. -/
  awaits : Bool := false
  /-- The positions that are not filled. -/
  positions : List Item
  /-- Whether flags are no longer read. -/
  wordsOnly : Bool := false
deriving Repr

namespace Given

def value? (g : Given) (item : Item) : Option String := g.values.lookup item

def has (g : Given) (item : Item) : Bool := (g.value? item).isSome

/-- Judges the value of an item.  Paths are not empty, and technologies have a name. -/
def judge (item : Item) (value : String) : Except UsageError Unit :=
  match item with
  | .technology =>
    match Technology.read value with
    | .ok _ => .ok ()
    | .error e => .error (.badValue e)
  | .config | .output | .path => if value = "" then .error (.missingValue item) else .ok ()
  | _ => .ok ()

/-- Takes a value for an item, which is given only once. -/
def accept (g : Given) (item : Item) (value : String) : Except UsageError Given := do
  if g.has item then .error (.repeated item)
  else
    judge item value
    return { g with values := (item, value) :: g.values }

/-- Settles the item that was named last. -/
def settle (g : Given) : Except UsageError Given :=
  match g.pending with
  | none => .ok { g with awaits := false }
  | some (item, none) => .error (.missingValue item)
  | some (item, some value) => { g with pending := none, awaits := false }.accept item value

/-- Reads a flag that takes no value. -/
def giveFlag (g : Given) (item : Item) : Except UsageError Given := do
  let g ← g.settle
  match item with
  | .help => .error .helpAsked
  | .version => .error .versionAsked
  | item => g.accept item ""

/-- Reads a flag that takes a value, perhaps from the same word. -/
def giveOption (g : Given) (item : Item) (value : Option String) : Except UsageError Given := do
  let g ← g.settle
  match value with
  | some value => g.accept item value
  | none => return { g with pending := some (item, none), awaits := true }

end Given

namespace Form

/-- Reads a long flag, given without its dashes. -/
def readLong (form : Form) (g : Given) (word : List Char) : Except UsageError Given :=
  let name := String.ofList (word.takeWhile (· ≠ '='))
  let value := match word.dropWhile (· ≠ '=') with
    | [] => none
    | _ :: rest => some (String.ofList rest)
  match form.flags.find? (·.long = name) with
  | none => .error (.unknownArgument ("--" ++ String.ofList word))
  | some flag =>
    if flag.takesValue then g.giveOption flag.item value
    else if value.isSome then .error (.surplusValue ("--" ++ String.ofList word))
    else g.giveFlag flag.item

/-- Reads short flags, given without their dash.  The rest of the word is the value of the first one
that takes a value; an equals sign in front of it is no part of it. -/
def readShort (form : Form) (g : Given) : List Char → Except UsageError Given
  | [] => .ok g
  | c :: rest =>
    match form.flags.find? (·.short = some c) with
    | none => .error (.unknownArgument ("-" ++ c.toString))
    | some flag =>
      if flag.takesValue then
        g.giveOption flag.item <|
          match rest with
          | [] => none
          | '=' :: value => some (String.ofList value)
          | value => some (String.ofList value)
      else do readShort form (← g.giveFlag flag.item) rest

/-- Reads a word that fills a position. -/
def readPosition (g : Given) (word : String) : Except UsageError Given :=
  match g.positions with
  | [] => .error (.unknownArgument word)
  | item :: positions => do
    return { ← g.settle with pending := some (item, some word), positions }

def readWord (form : Form) (g : Given) (word : String) : Except UsageError Given :=
  if g.wordsOnly then readPosition g word
  else
    match word.toList with
    | ['-', '-'] => .ok { g with wordsOnly := true }
    | '-' :: '-' :: name => form.readLong g name
    | '-' :: c :: rest => form.readShort g (c :: rest)
    | _ =>
      match g.awaits, g.pending with
      | true, some (item, none) => .ok { g with pending := some (item, some word), awaits := false }
      | _, _ => readPosition g word

/-- What is given by some words. -/
def read (form : Form) (words : List String) : Except UsageError Given := do
  (← words.foldlM form.readWord { positions := form.positions }).settle

end Form

end SdkAudit
