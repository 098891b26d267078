import SdkAudit.Dialect.ScriptScanner
import SdkAudit.Dialect.ScriptTypes
import SdkAudit.Grammar.Role

/-!
# Grammars of scripts

Scripts are read with one of three grammars: without types, or with types and with or without
markup.

* `Script.plain`: scripts without types, which can have markup;
* `Script.typed`: scripts with types and without markup;
* `Script.typedMarkup`: scripts with types and markup.
-/

namespace SdkAudit.Script

open Grammar

/-- How tightly the parts of scripts bind. -/
def rankings : List (List Rated) := [
  [.rank "member", .rank "template call", .rank "call", .rule "update expression",
    .rank "unary void", .rank "binary exp", .rank "binary times", .rank "binary plus",
    .rank "binary shift", .rank "binary compare", .rank "binary relation",
    .rank "binary equality", .rank "bitwise and", .rank "bitwise xor", .rank "bitwise or",
    .rank "logical and", .rank "logical or", .rank "ternary", .rule "sequence expression",
    .rule "arrow function"],
  [.rank "assign", .rule "primary expression"],
  [.rank "member", .rank "template call", .rank "new", .rank "call", .rule "expression"],
  [.rank "declaration", .rank "literal"],
  [.rule "primary expression", .rule "statement block", .rank "object"],
  [.rule "meta property", .rule "import"],
  [.rule "import statement", .rule "import"],
  [.rule "export statement", .rule "primary expression"],
  [.rule "lexical declaration", .rule "primary expression"]]

/-- How tightly the parts of types bind. -/
def typeRankings : List (List Rated) := [
  [.rank "call", .rank "instantiation", .rank "unary", .rank "binary", .rule "await expression",
    .rule "arrow function"],
  [.rank "extends", .rank "instantiation"],
  [.rule "intersection type", .rule "union type", .rule "conditional type", .rule "function type",
    .rank "binary", .rule "type predicate", .rule "readonly type"],
  [.rule "mapped type clause", .rule "primary expression"],
  [.rule "accessibility modifier", .rule "primary expression"],
  [.rank "unary void", .rule "expression"],
  [.rule "extends clause", .rule "primary expression"],
  [.rank "unary", .rank "assign"],
  [.rank "declaration", .rule "expression"],
  [.rule "predefined type", .rule "unary expression"],
  [.rule "type", .rule "flow maybe type"],
  [.rule "tuple type", .rule "array type", .rule "pattern", .rule "type"],
  [.rule "readonly type", .rule "pattern"],
  [.rule "readonly type", .rule "primary expression"],
  [.rule "type query", .rule "subscript expression", .rule "expression"],
  [.rule "type query", .rule "type query subscript expression"],
  [.rule "nested type identifier", .rule "generic type", .rule "primary type", .rule "lookup type",
    .rule "index type query", .rule "type"],
  [.rule "as expression", .rule "satisfies expression", .rule "primary type"],
  [.rule "type query member expression", .rule "member expression"],
  [.rule "member expression", .rule "type query member expression in type annotation"],
  [.rule "type query member expression", .rule "primary expression"],
  [.rule "type query subscript expression", .rule "subscript expression"],
  [.rule "type query subscript expression", .rule "primary expression"],
  [.rule "type query call expression", .rule "primary expression"],
  [.rule "type query instantiation expression", .rule "primary expression"],
  [.rule "type query", .rule "primary expression"],
  [.rule "override modifier", .rule "primary expression"],
  [.rule "decorator call expression", .rule "decorator"],
  [.rule "literal type", .rule "pattern"],
  [.rule "predefined type", .rule "pattern"],
  [.rule "call expression", .rule "type query call expression"],
  [.rule "call expression", .rule "type query call expression in type annotation"],
  [.rule "new expression", .rule "primary expression"],
  [.rule "meta property", .rule "primary expression"],
  [.rule "construct signature", .rule "property name"]]

/-- Rules of all scripts that are replaced by what they stand for. -/
def inlined : List String :=
  ["expressions", "semicolon", "any identifier", "reserved identifier", "any jsx attribute",
    "jsx element name", "jsx child", "any jsx element", "jsx attribute name", "jsx attribute value",
    "any jsx identifier", "lhs expression"]

def definition (rules : List Entry) (unshaped : List Unshaped) (rankings : List (List Rated))
    (inlined : List String) : Definition where
  rules
  blank
  extras := [r "comment", r "page comment"]
  externals := unshaped.map fun u => (u.phrase, u.presence)
  rankings
  inlined
  word := some "identifier"

def plainDefinition : Definition :=
  definition plainRules Unshaped.plain rankings (["signature", "formal parameter"] ++ inlined)

/-- The grammar of scripts with types, with or without markup. -/
def typedDefinition (markup : Bool) : Definition :=
  definition (typedRules markup) Unshaped.typed (rankings ++ typeRankings)
    (inlined ++ ["type identifier", "jsx start opening element"])

/-- How scripts without types are read. -/
def plain : Thunk Lexicon :=
  Thunk.mk fun _ => plainDefinition.numbering.chart.lexicon (scanner false)

/-- How scripts with types and without markup are read. -/
def typed : Thunk Lexicon :=
  Thunk.mk fun _ => (typedDefinition false).numbering.chart.lexicon (scanner true)

/-- How scripts with types and markup are read. -/
def typedMarkup : Thunk Lexicon :=
  Thunk.mk fun _ => (typedDefinition true).numbering.chart.lexicon (scanner true)

/-- What the nodes of scripts stand for. -/
def roles : Roles
  | "try statement" => some (.region .guarded)
  | "statement block" | "class body" | "arrow function" => some (.region .block)
  | "call expression" => some .call
  | "arguments" => some .arguments
  | "object" => some .object
  | "pair" => some .pair
  | "shorthand property identifier" => some .shorthand
  | "method definition" => some .method
  | "property identifier" | "private property identifier" | "string" | "number"
  | "computed property name" => some .methodName
  | "comment" | "page comment" => some .comment
  | _ => none

end SdkAudit.Script
