import SdkAudit.Dialect.ScriptRules

/-!
# Rules of types in scripts

The rules of scripts with types, as far as they differ from those without.

* `Script.typedRules`: all rules of scripts with types.
-/

namespace SdkAudit.Script

open Grammar

/-- Statements that are different where there are types. -/
def changedStatements : List Entry := [
  .node "export statement" (choice [
    choice [
      seq ["export",
        choice [seq ["*", r "from clause"], seq [r "namespace export", r "from clause"],
          seq [r "export clause", r "from clause"], r "export clause"],
        r "semicolon"],
      seq [many (part "decorator" (r "decorator")), "export",
        choice [part "declaration" (r "declaration"),
          seq ["default",
            choice [part "declaration" (r "declaration"),
              seq [part "value" (r "expression"), r "semicolon"]]]]]],
    seq ["export", "type", r "export clause", opt (r "from clause"), r "semicolon"],
    seq ["export", "import", r "import alias"], seq ["export", "=", r "expression", r "semicolon"],
    seq ["export", "as", "namespace", r "identifier", r "semicolon"]]),
  .node "export specifier" (seq [opt (choice ["type", "typeof"]),
    seq [part "name" (r "module export name"),
      opt (seq ["as", part "alias" (r "module export name")])]]),
  .sort "declaration" (choice [
    choice [r "function declaration", r "generator function declaration", r "class declaration",
      r "lexical declaration", r "variable declaration"],
    r "function signature", r "abstract class declaration", r "module",
    rank "declaration" (r "internal module"), r "type alias declaration", r "enum declaration",
    r "interface declaration", r "import alias", r "ambient declaration"]),
  .node "import statement" (seq ["import", opt (choice ["type", "typeof"]),
    choice [seq [r "import clause", r "from clause"], r "import require clause",
      part "source" (r "string")],
    opt (r "import attribute"), r "semicolon"]),
  .node "import clause" (choice [r "namespace import", r "named imports",
    seq [r "import identifier",
      opt (seq [",", choice [r "namespace import", r "named imports"]])]]),
  .node "import specifier" (seq [opt (choice ["type", "typeof"]),
    choice [part "name" (r "import identifier"),
      seq [part "name" (choice [r "module export name", called "identifier" "type"]), "as",
        part "alias" (r "import identifier")]]]),
  .node "variable declarator" (choice [
    seq [part "name" (choice [r "identifier", r "destructuring pattern"]),
      part "type" (opt (r "type annotation")), opt (r "initializer")],
    rank "declaration" (seq [part "name" (r "identifier"), "!",
      part "type" (r "type annotation")])]),
  .node "catch clause" (seq ["catch",
    opt (parens [part "parameter" (choice [r "identifier", r "destructuring pattern"]),
      opt (part "type" (r "type annotation"))]),
    part "body" (r "statement block")]),
  .node "parenthesized expression" (parens [
    choice [seq [r "expression", part "type" (opt (r "type annotation"))],
      r "sequence expression"]])]

/-- Expressions and members that are different where there are types. -/
def changedExpressions : List Entry := [
  .sort "primary expression" (choice [
    choice [r "subscript expression", r "member expression", r "parenthesized expression",
      r "any identifier", called "identifier" (r "reserved identifier"), r "this", r "super",
      r "number", r "string", r "template string", r "regex", r "true", r "false", r "null",
      r "object", r "array", r "function expression", r "arrow function", r "generator function",
      r "class", r "meta property", r "call expression"],
    r "non null expression"]),
  .node "jsx opening element" (weighted (-1) (seq [r "jsx start opening element", ">"])),
  .node "jsx self closing element" (weighted (-1) (seq [r "jsx start opening element", "/>"])),
  .node "class" (rank "literal" (seq [many (part "decorator" (r "decorator")), "class",
    part "name" (opt (r "type identifier")), part "type parameters" (opt (r "type parameters")),
    opt (r "class heritage"), part "body" (r "class body")])),
  .node "class declaration" (left "declaration" (seq [many (part "decorator" (r "decorator")),
    "class", part "name" (r "type identifier"), part "type parameters" (opt (r "type parameters")),
    opt (r "class heritage"), part "body" (r "class body"), opt (r "implied semicolon")])),
  .node "class heritage" (choice [seq [r "extends clause", opt (r "implements clause")],
    r "implements clause"]),
  .group "signature" (seq [part "type parameters" (opt (r "type parameters")),
    part "parameters" (r "formal parameters"),
    part "return type" (opt (choice [r "type annotation", r "asserts annotation",
      r "type predicate annotation"]))]),
  .group "formal parameter" (choice [r "required parameter", r "optional parameter"]),
  .node "call expression" (choice [
    rank "call" (seq [part "function" (choice [r "expression", r "import"]),
      part "type arguments" (opt (r "type arguments")), part "arguments" (r "arguments")]),
    rank "template call" (seq [
      part "function" (choice [r "primary expression", r "new expression"]),
      part "arguments" (r "template string")]),
    rank "member" (seq [part "function" (r "primary expression"), "?.",
      part "type arguments" (opt (r "type arguments")), part "arguments" (r "arguments")])]),
  .node "new expression" (right "new" (seq ["new", part "constructor" (r "primary expression"),
    part "type arguments" (opt (r "type arguments")), part "arguments" (opt (r "arguments"))])),
  .group "lhs expression" (choice [
    choice [r "member expression", r "subscript expression", r "any identifier",
      called "identifier" (r "reserved identifier"), r "destructuring pattern"],
    r "non null expression"]),
  .node "assignment expression" (right "assign" (seq [opt "using",
    part "left" (choice [r "parenthesized expression", r "lhs expression"]), "=",
    part "right" (r "expression")])),
  .group "augmented assignment lhs" (choice [
    choice [r "member expression", r "subscript expression",
      called "identifier" (r "reserved identifier"), r "identifier", r "parenthesized expression"],
    r "non null expression"]),
  .node "decorator" (seq ["@",
    choice [r "identifier", called "member expression" (r "decorator member expression"),
      called "call expression" (r "decorator call expression"),
      called "parenthesized expression" (r "decorator parenthesized expression")]]),
  .node "decorator call expression" (rank "call" (seq [
    part "function" (choice [r "identifier",
      called "member expression" (r "decorator member expression")]),
    opt (part "type arguments" (r "type arguments")), part "arguments" (r "arguments")])),
  .node "class body" (braces [
    many (choice [
      seq [many (part "decorator" (r "decorator")), r "method definition", opt (r "semicolon")],
      seq [r "method signature", choice [r "signature end", ","]], r "class static block",
      seq [
        choice [r "abstract method signature", r "index signature", r "method signature",
          r "public field definition"],
        choice [r "semicolon", ","]],
      ";"])]),
  .node "method definition" (left 0 (seq [opt (r "accessibility modifier"), opt "static",
    opt (r "override modifier"), opt "readonly", opt "async", opt (choice ["get", "set", "*"]),
    part "name" (r "property name"), opt "?", r "signature", part "body" (r "statement block")])),
  .group "reserved identifier" (choice ["declare", "namespace", "type", "public", "private",
    "protected", "override", "readonly", "module", "any", "number", "boolean", "string", "symbol",
    "export", "object", "new", "readonly",
    choice ["get", "set", "async", "static", "export", "let"]])]

/-- Fields, signatures and expressions that tell a type. -/
def added : List Entry := [
  .node "public field definition" (seq [many (part "decorator" (r "decorator")),
    opt (choice [seq ["declare", opt (r "accessibility modifier")],
      seq [r "accessibility modifier", opt "declare"]]),
    choice [seq [opt "static", opt (r "override modifier"), opt "readonly"],
      seq [opt "abstract", opt "readonly"], seq [opt "readonly", opt "abstract"], opt "accessor"],
    part "name" (r "property name"), opt (choice ["?", "!"]),
    part "type" (opt (r "type annotation")), opt (r "initializer")]),
  .group "jsx start opening element" (seq ["<",
    opt (seq [
      choice [part "name" (choice [r "any jsx identifier", r "jsx namespace name"]),
        seq [
          part "name" (choice [r "identifier", called "member expression" (r "nested identifier")]),
          part "type arguments" (opt (r "type arguments"))]],
      many (part "attribute" (r "any jsx attribute"))])]),
  .group "import identifier" (choice [r "identifier", called "identifier" "type"]),
  .node "non null expression" (left "unary" (seq [r "expression", "!"])),
  .node "method signature" (seq [opt (r "accessibility modifier"), opt "static",
    opt (r "override modifier"), opt "readonly", opt "async", opt (choice ["get", "set", "*"]),
    part "name" (r "property name"), opt "?", r "signature"]),
  .node "abstract method signature" (seq [opt (r "accessibility modifier"), "abstract",
    opt (r "override modifier"), opt (choice ["get", "set", "*"]), part "name" (r "property name"),
    opt "?", r "signature"]),
  .node "function signature" (seq [opt "async", "function", part "name" (r "identifier"),
    r "signature", choice [r "semicolon", r "signature end"]]),
  .node "decorator parenthesized expression" (parens [
    choice [r "identifier", called "member expression" (r "decorator member expression"),
      called "call expression" (r "decorator call expression")]]),
  .node "type assertion" (left "unary" (seq [r "type arguments", r "expression"])),
  .node "as expression" (left "binary" (seq [r "expression", "as", choice ["const", r "type"]])),
  .node "satisfies expression" (left "binary" (seq [r "expression", "satisfies", r "type"])),
  .node "instantiation expression" (rank "instantiation" (seq [r "expression",
    part "type arguments" (r "type arguments")]))]

/-- Declarations of classes, modules, interfaces and enumerations. -/
def declarations : List Entry := [
  .node "import require clause" (seq [r "identifier", "=", "require", "(",
    part "source" (r "string"), ")"]),
  .node "extends clause" (seq ["extends", list (r "extends clause single")]),
  .group "extends clause single" (rank "extends" (seq [part "value" (r "expression"),
    part "type arguments" (opt (r "type arguments"))])),
  .node "implements clause" (seq ["implements", list (r "type")]),
  .node "ambient declaration" (seq ["declare",
    choice [r "declaration", seq ["global", r "statement block"],
      seq ["module", ".", called "property identifier" (r "identifier"), ":", r "type",
        r "semicolon"]]]),
  .node "abstract class declaration" (rank "declaration" (seq [
    many (part "decorator" (r "decorator")), "abstract", "class", part "name" (r "type identifier"),
    part "type parameters" (opt (r "type parameters")), opt (r "class heritage"),
    part "body" (r "class body")])),
  .node "module" (seq ["module", r "module contents"]),
  .node "internal module" (seq ["namespace", r "module contents"]),
  .group "module contents" (right 0 (seq [
    part "name" (choice [r "string", r "identifier", r "nested identifier"]),
    part "body" (opt (r "statement block"))])),
  .node "import alias" (seq ["import", r "identifier", "=",
    choice [r "identifier", r "nested identifier"], r "semicolon"]),
  .node "nested type identifier" (rank "member" (seq [
    part "module" (choice [r "identifier", r "nested identifier"]), ".",
    part "name" (r "type identifier")])),
  .node "interface declaration" (seq ["interface", part "name" (r "type identifier"),
    part "type parameters" (opt (r "type parameters")), opt (r "extends type clause"),
    part "body" (called "interface body" (r "object type"))]),
  .node "extends type clause" (seq ["extends",
    list (part "type" (choice [r "type identifier", r "nested type identifier",
      r "generic type"]))]),
  .node "enum declaration" (seq [opt "const", "enum", part "name" (r "identifier"),
    part "body" (r "enum body")]),
  .node "enum body" (braces [
    opt (seq [list (choice [part "name" (r "property name"), r "enum assignment"]), opt ","])]),
  .node "enum assignment" (seq [part "name" (r "property name"), r "initializer"]),
  .node "type alias declaration" (seq ["type", part "name" (r "type identifier"),
    part "type parameters" (opt (r "type parameters")), "=", part "value" (r "type"),
    r "semicolon"])]

def annotations : List Entry := [
  .node "accessibility modifier" (choice ["public", "private", "protected"]),
  .node "override modifier" "override",
  .node "required parameter" (seq [r "parameter name", part "type" (opt (r "type annotation")),
    opt (r "initializer")]),
  .node "optional parameter" (seq [r "parameter name", "?", part "type" (opt (r "type annotation")),
    opt (r "initializer")]),
  .group "parameter name" (seq [many (part "decorator" (r "decorator")),
    opt (r "accessibility modifier"), opt (r "override modifier"), opt "readonly",
    part "pattern" (choice [r "pattern", r "this"])]),
  .node "omitting type annotation" (seq ["-?:", r "type"]),
  .node "adding type annotation" (seq ["+?:", r "type"]),
  .node "opting type annotation" (seq ["?:", r "type"]),
  .node "type annotation" (seq [":",
    choice [r "type",
      called "member expression" (r "type query member expression in type annotation"),
      called "call expression" (r "type query call expression in type annotation")]]),
  .group "type query member expression in type annotation" (seq [
    part "object" (choice [r "import",
      called "member expression" (r "type query member expression in type annotation"),
      called "call expression" (r "type query call expression in type annotation")]),
    ".",
    part "property" (choice [r "private property identifier",
      called "property identifier" (r "identifier")])]),
  .group "type query call expression in type annotation" (seq [
    part "function" (choice [r "import",
      called "member expression" (r "type query member expression in type annotation")]),
    part "arguments" (r "arguments")]),
  .node "asserts" (seq ["asserts", choice [r "type predicate", r "identifier", r "this"]]),
  .node "asserts annotation" (seq [seq [":", r "asserts"]])]

def types : List Entry := [
  .sort "type" (choice [r "primary type", r "function type", r "readonly type",
    r "constructor type", r "infer type",
    rank (-1) (called "member expression" (r "type query member expression in type annotation")),
    rank (-1) (called "call expression" (r "type query call expression in type annotation"))]),
  .node "tuple parameter" (seq [part "name" (choice [r "identifier", r "rest pattern"]),
    part "type" (r "type annotation")]),
  .node "optional tuple parameter" (seq [part "name" (r "identifier"), "?",
    part "type" (r "type annotation")]),
  .node "optional type" (seq [r "type", "?"]),
  .node "rest type" (seq ["...", r "type"]),
  .group "tuple type member" (choice [called "required parameter" (r "tuple parameter"),
    called "optional parameter" (r "optional tuple parameter"), r "optional type", r "rest type",
    r "type"]),
  .node "constructor type" (left 0 (seq [opt "abstract", "new",
    part "type parameters" (opt (r "type parameters")), part "parameters" (r "formal parameters"),
    "=>", part "type" (r "type")])),
  .sort "primary type" (choice [r "parenthesized type", r "predefined type", r "type identifier",
    r "nested type identifier", r "generic type", r "object type", r "array type", r "tuple type",
    r "flow maybe type", r "type query", r "index type query", called "this type" (r "this"),
    r "existential type", r "literal type", r "lookup type", r "conditional type",
    r "template literal type", r "intersection type", r "union type", "const"]),
  .node "template type" (seq ["$\x7b", choice [r "primary type", r "infer type"], "\x7d"]),
  .node "template literal type" (seq ["\x60",
    many (choice [called "string fragment" (r "template text"), r "template type"]), "\x60"]),
  .node "infer type" (right 0 (seq ["infer", r "type identifier",
    opt (seq ["extends", r "type"])])),
  .node "conditional type" (right 0 (seq [part "left" (r "type"), "extends",
    part "right" (r "type"), "?", part "consequence" (r "type"), ":",
    part "alternative" (r "type")])),
  .node "generic type" (rank "call" (seq [
    part "name" (choice [r "type identifier", r "nested type identifier"]),
    part "type arguments" (r "type arguments")])),
  .node "type predicate" (seq [
    part "name" (choice [r "identifier", r "this", called "identifier" (r "predefined type")]),
    "is", part "type" (r "type")]),
  .node "type predicate annotation" (seq [seq [":", r "type predicate"]])]

/-- Types of values and of members. -/
def queries : List Entry := [
  .group "type query member expression" (seq [
    part "object" (choice [r "identifier", r "this",
      called "subscript expression" (r "type query subscript expression"),
      called "member expression" (r "type query member expression"),
      called "call expression" (r "type query call expression")]),
    choice [".", "?."],
    part "property" (choice [r "private property identifier",
      called "property identifier" (r "identifier")])]),
  .group "type query subscript expression" (seq [
    part "object" (choice [r "identifier", r "this",
      called "subscript expression" (r "type query subscript expression"),
      called "member expression" (r "type query member expression"),
      called "call expression" (r "type query call expression")]),
    opt "?.", "[", part "index" (choice [r "predefined type", r "string", r "number"]), "]"]),
  .group "type query call expression" (seq [
    part "function" (choice [r "import", r "identifier",
      called "member expression" (r "type query member expression"),
      called "subscript expression" (r "type query subscript expression")]),
    part "arguments" (r "arguments")]),
  .group "type query instantiation expression" (seq [
    part "function" (choice [r "import", r "identifier",
      called "member expression" (r "type query member expression"),
      called "subscript expression" (r "type query subscript expression")]),
    part "type arguments" (r "type arguments")]),
  .node "type query" (right 0 (seq ["typeof",
    choice [called "subscript expression" (r "type query subscript expression"),
      called "member expression" (r "type query member expression"),
      called "call expression" (r "type query call expression"),
      called "instantiation expression" (r "type query instantiation expression"), r "identifier",
      r "this"]])),
  .node "index type query" (seq ["keyof", r "primary type"]),
  .node "lookup type" (seq [r "primary type", "[", r "type", "]"]),
  .node "mapped type clause" (seq [part "name" (r "type identifier"), "in", part "type" (r "type"),
    opt (seq ["as", part "alias" (r "type")])]),
  .node "literal type" (choice [called "unary expression" (r "signed number"), r "number",
    r "string", r "true", r "false", r "null", r "undefined"]),
  .group "signed number" (left 1 (seq [part "operator" (choice ["-", "+"]),
    part "argument" (r "number")])),
  .node "existential type" "*",
  .node "flow maybe type" (right 0 (seq ["?", r "primary type"])),
  .node "parenthesized type" (parens [r "type"]),
  .node "predefined type" (choice ["any", "number", "boolean", "string", "symbol",
    spelled "unique symbol" (seq ["unique", "symbol"]), "void", "unknown", "string", "never",
    "object"]),
  .node "type arguments" (seq ["<", list (r "type"), opt ",", ">"])]

/-- The members of types, and types that are made of others. -/
def typeMembers : List Entry := [
  .node "object type" (seq [choice ["\x7b", "\x7b|"],
    opt (seq [opt (choice [",", ";"]),
      listBy (choice [",", r "semicolon"]) (choice [r "export statement", r "property signature",
        r "call signature", r "construct signature", r "index signature", r "method signature"]),
      opt (choice [",", r "semicolon"])]),
    choice ["\x7d", "|\x7d"]]),
  .node "call signature" (r "signature"),
  .node "property signature" (seq [opt (r "accessibility modifier"), opt "static",
    opt (r "override modifier"), opt "readonly", part "name" (r "property name"), opt "?",
    part "type" (opt (r "type annotation"))]),
  .node "type parameters" (seq ["<", list (r "type parameter"), opt ",", ">"]),
  .node "type parameter" (seq [opt "const", part "name" (r "type identifier"),
    part "constraint" (opt (r "constraint")), part "value" (opt (r "default type"))]),
  .node "default type" (seq ["=", r "type"]),
  .node "constraint" (seq [choice ["extends", ":"], r "type"]),
  .node "construct signature" (seq [opt "abstract", "new",
    part "type parameters" (opt (r "type parameters")), part "parameters" (r "formal parameters"),
    part "type" (opt (r "type annotation"))]),
  .node "index signature" (seq [opt (seq [part "sign" (opt (choice ["+", "-"])), "readonly"]), "[",
    choice [
      seq [part "name" (choice [r "identifier", called "identifier" (r "reserved identifier")]),
        ":", part "index type" (r "type")],
      r "mapped type clause"],
    "]",
    part "type" (choice [r "type annotation", r "omitting type annotation",
      r "adding type annotation", r "opting type annotation"])]),
  .node "array type" (seq [r "primary type", "[", "]"]),
  .node "tuple type" (brackets [opt (list (r "tuple type member")), opt ","]),
  .node "readonly type" (seq ["readonly", r "type"]),
  .node "union type" (left 0 (seq [opt (r "type"), "|", r "type"])),
  .node "intersection type" (left 0 (seq [opt (r "type"), "&", r "type"])),
  .node "function type" (left 0 (seq [part "type parameters" (opt (r "type parameters")),
    part "parameters" (r "formal parameters"), "=>",
    part "return type" (choice [r "type", r "asserts", r "type predicate"])])),
  .group "type identifier" (called "type identifier" (r "identifier"))]

/-- What expressions may be, in sources with or without markup. -/
def typedExpression (markup : Bool) : Entry :=
  let kinds : List Phrase := [r "as expression", r "satisfies expression",
      r "instantiation expression", r "internal module"]
  let assertions : List Phrase := if markup then [] else [r "type assertion"]
  let elements : List Phrase := if markup then [r "any jsx element"] else []
  .sort "expression" (choice (kinds ++ assertions ++ [r "primary expression"] ++ elements ++
    [r "assignment expression", r "augmented assignment expression", r "await expression",
      r "unary expression", r "binary expression", r "ternary expression", r "update expression",
      r "new expression", r "yield expression"]))

/-- The rules of scripts with types, in sources with or without markup. -/
def typedRules (markup : Bool) : List Entry :=
  replaceRules plainRules (changedStatements ++ [typedExpression markup] ++ changedExpressions ++
    added ++ declarations ++ annotations ++ types ++ queries ++ typeMembers)

end SdkAudit.Script
