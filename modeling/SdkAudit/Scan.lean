import SdkAudit.Dialect
import SdkAudit.Dialect.Java
import SdkAudit.Dialect.Script
import SdkAudit.Dialect.Swift
import SdkAudit.Outline.OfForest
import SdkAudit.Outline.OfNesting
import SdkAudit.Pattern
import SdkAudit.Rules.Catalogue
import SdkAudit.Source.Lexer

/-!
# Scanning

A source text is scanned for calls of the SDK.  If its dialect has a reader and the text is well
formed, the result is its outline, with every call classified.  If not, the scan degrades to the
patterns of the technology and yields the methods that were found anywhere in the text.
-/

namespace SdkAudit

/-- What a scan yields. -/
inductive Scan where
  | structured (outline : Outline)
  /-- The methods that were found, in order and each once. -/
  | degraded (found : List String)
deriving DecidableEq, Repr

/-- The names in order, each once. -/
def sortedNames (names : List String) : List String :=
  (names.mergeSort fun a b => !decide (b < a)).eraseDups

namespace Scan

/-- The outline of a text that is read from its tokens, or why it has none. -/
def tokenOutline (flavor : Flavor) (source : String) : Except SourceError Outline := do
  let tokens ← Lexer.tokens flavor source.toList
  let nesting ← Nesting.ofTokens tokens
  return Outline.ofNesting flavor nesting

/-- The outline of a text that is read with a grammar, if it matches. -/
def grammarOutline? (lexicon : Thunk Grammar.Lexicon) (roles : Grammar.Roles) (source : String) :
    Option Outline :=
  (lexicon.get.forest? roles source.toList).map (Outline.ofForest source.toList)

/-- The outline of a text, if its dialect has a reader and it is well formed. -/
def outline? (dialect : Dialect) (source : String) : Option Outline :=
  match dialect with
  | .dart => (tokenOutline .dart source).toOption
  | .kotlin => (tokenOutline .kotlin source).toOption
  | .javaScript => grammarOutline? Script.plain Script.roles source
  | .typeScript => grammarOutline? Script.typed Script.roles source
  | .tsx => grammarOutline? Script.typedMarkup Script.roles source
  | .java => grammarOutline? Java.lexicon Java.roles source
  | .swift => grammarOutline? Swift.lexicon Swift.roles source
  | .objectiveC => none

/-- The methods whose patterns occur in the text, for the catalogue entry of a technology. -/
def foundMethods (technology : Technology) (source : String) : List String :=
  sortedNames <| (Catalogue.ruleSet technology).methodPatterns.filterMap fun p =>
    match Pattern.read? p.pattern with
    | some pattern => if pattern.foundIn source.toList then some p.method else none
    | none => none

def ofSource (rules : RuleSet) (dialect : Dialect) (source : String) : Scan :=
  match outline? dialect source with
  | some outline => .structured (outline.classify rules)
  | none => .degraded (foundMethods rules.technology source)

/-- Scans the text of a file, whose dialect is told from its name. -/
def ofFile (rules : RuleSet) (path source : String) : Scan :=
  ofSource rules (Dialect.ofFileName path rules.technology) source

end Scan

end SdkAudit
