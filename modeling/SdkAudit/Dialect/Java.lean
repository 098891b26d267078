import SdkAudit.Dialect.JavaRules
import SdkAudit.Grammar.Role

/-!
# The grammar of Java

All lexemes of Java have a shape of their own.

* `Java.lexicon`: how sources are read;
* `Java.roles`: what the nodes of their trees stand for.
-/

namespace SdkAudit.Java

open Grammar

def definition : Definition where
  rules
  blank
  extras := [r "line comment", r "block comment"]
  inlined := ["name", "simple type", "class body declaration", "variable initializer"]
  word := some "identifier"

def lexicon : Thunk Lexicon := Thunk.mk fun _ => definition.numbering.chart.lexicon .none

/-- What the nodes of sources stand for. -/
def roles : Roles
  | "try statement" | "try with resources statement" => some (.region .guarded)
  | "block" | "class body" | "lambda expression" => some (.region .block)
  | "method invocation" => some .call
  | "argument list" => some .arguments
  | "line comment" | "block comment" => some .comment
  | _ => none

end SdkAudit.Java
