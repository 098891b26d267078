import SdkAudit.Dialect.SwiftRules
import SdkAudit.Dialect.SwiftScanner
import SdkAudit.Grammar.Role

/-!
# The grammar of Swift

Many lexemes of Swift depend on what is around them, and are read by a scanner.

* `Swift.lexicon`: how sources are read;
* `Swift.roles`: what the nodes of their trees stand for.
-/

namespace SdkAudit.Swift

open Grammar

def definition : Definition where
  rules
  blank
  extras := [r "comment", r "multiline comment"]
  externals := Unshaped.all.map fun u => (r u.name, u.presence)
  inlined := ["locally permitted modifiers"]

def lexicon : Thunk Lexicon := Thunk.mk fun _ => definition.numbering.chart.lexicon scanner

/-- What the nodes of sources stand for. -/
def roles : Roles
  | "do statement" => some (.region .guarded)
  | "function body" | "class body" | "lambda literal" => some (.region .block)
  | "call expression" => some .call
  | "call suffix" => some .suffix
  | "value arguments" => some .arguments
  | "value argument" => some .argument
  | "value argument label" => some .label
  | "comment" | "multiline comment" => some .comment
  | _ => none

end SdkAudit.Swift
