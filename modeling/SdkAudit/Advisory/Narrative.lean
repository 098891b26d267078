import SdkAudit.Advisory.Findings
import SdkAudit.Rules.Basic
import SdkAudit.Text.Character

/-!
# Narratives

An advisory answer is free text.  It is asked to come in four sections, each under a heading and
with a bullet per finding, and to tag required methods as found or missing; nothing guarantees that
it does.  Reading it is total: what is not recognised is dropped.

Blank lines cut the text into blocks.  A block belongs to the section that its first heading names,
and outside any section only what is tagged as missing is kept.

* `Narrative.blocks`: the blocks of a text;
* `Narrative.contribution?`: what a line adds to the findings, given the section of its block;
* `Narrative.gather`: the findings of a text;
* `Narrative.read`: the same with no list left empty.
-/

namespace SdkAudit.Narrative

/-- The heading of a section, in lower case and with its colon. -/
def headings : List (List Char × Section) := [
  ("critical issues:".toList, .critical),
  ("missing implementations:".toList, .missing),
  ("improvements needed:".toList, .improvements),
  ("security concerns:".toList, .security)]

def missingTag : List Char := "[MISSING]".toList

/-- The section whose heading a line holds. -/
def heading? (line : List Char) : Option Section :=
  (headings.find? fun h => Text.holds h.1 (Text.lower line)).map (·.2)

/-- What follows the bullet sign at the start of a line. -/
def afterBullet? : List Char → Option (List Char)
  | '-' :: rest => some rest
  | '*' :: ' ' :: rest => some rest
  | '•' :: rest => some rest
  | _ => none

/-- The content of a bullet.  A line of dashes is no bullet, nor is a bullet sign alone. -/
def bullet? (line : List Char) : Option (List Char) :=
  match afterBullet? line with
  | none => none
  | some rest =>
    let content := Text.trim rest
    if content.all (· = '-') then none else some content

/-- The blocks of a list of lines: the longest runs without blank lines, each line trimmed. -/
def blocksOf (lines : List (List Char)) : List (List (List Char)) :=
  (Text.cutAt (·.isEmpty) (lines.map Text.trim)).filter (!·.isEmpty)

def blocks (text : List Char) : List (List (List Char)) := blocksOf (Text.lines text)

/-- Whether a line is a heading: it is no bullet and names a section. -/
def isHeading (line : List Char) : Bool := (bullet? line).isNone && (heading? line).isSome

/-- The section that the first heading of a block names. -/
def sectionOf? (block : List (List Char)) : Option Section :=
  (block.filter fun line => (bullet? line).isNone).findSome? heading?

def isTaggedMissing (line : List Char) : Bool := Text.holds missingTag line

/-- What a line adds to the findings, given the section of its block. -/
def contribution? (inSection : Option Section) (line : List Char) : Option (Section × String) :=
  if isHeading line then none
  else
    match bullet? line, inSection with
    | some item, some s => some (s, String.ofList item)
    | some item, none =>
      if isTaggedMissing line then some (.missing, String.ofList item) else none
    | none, _ => if isTaggedMissing line then some (.missing, String.ofList line) else none

/-- Whether a line reports that the initializer is missing. -/
def reportsInitializer (initializer : String) (line : List Char) : Bool :=
  !isHeading line && isTaggedMissing line && Text.holds initializer.toList line

def blockEntries (block : List (List Char)) : List (Section × String) :=
  block.filterMap (contribution? (sectionOf? block))

def missingInitializerEntry (initializer : String) : String :=
  "Missing SDK initialization: " ++ initializer ++ "() not found"

/-- The findings that lie in a text. -/
def gather (initializer : String) (text : List Char) : Findings :=
  let parts := blocks text
  let findings := (parts.flatMap blockEntries).foldl (fun f e => f.add e.1 e.2) {}
  if parts.any (·.any (reportsInitializer initializer)) then
    findings.add .critical (missingInitializerEntry initializer)
  else findings

/-- The findings of an advisory text. -/
def read (initializer text : String) : Findings := (gather initializer text.toList).filled

end SdkAudit.Narrative
