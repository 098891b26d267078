import SdkAudit.Dialect.JavaLexeme
import SdkAudit.Grammar.Definition

/-!
# Rules of Java

The rules of Java.  Their order is part of the grammar: where a text can be read in several ways,
it can decide between them.

* `Java.rules`: all of them.
-/

namespace SdkAudit.Java

open Grammar

/-- An expression with an operator between two others, where equal operators are read from the
left. -/
def binary (operator : String) (rank : Rank) : Phrase :=
  left rank (seq [part "left" (r "expression"), part "operator" operator,
    part "right" (r "expression")])

/-- Whole sources, and the values that are written down in them. -/
def literals : List Entry := [
  .node "program" (many (r "toplevel statement")),
  .group "toplevel statement" (choice [r "statement", r "method declaration"]),
  .sort "literal" (choice [r "decimal integer literal", r "hex integer literal",
    r "octal integer literal", r "binary integer literal", r "decimal floating point literal",
    r "hex floating point literal", r "true", r "false", r "character literal", r "string literal",
    r "null literal"]),
  .node "decimal integer literal" (lexeme decimal),
  .node "hex integer literal" (lexeme hexNumber),
  .node "octal integer literal" (lexeme octalNumber),
  .node "binary integer literal" (lexeme binaryNumber),
  .node "decimal floating point literal" (lexeme fraction),
  .node "hex floating point literal" (lexeme hexFraction),
  .node "true" "true",
  .node "false" "false",
  .node "character literal" (lexeme character),
  .node "string literal" (choice [r "plain string literal", r "multiline string literal"]),
  .group "plain string literal" (seq ["\"",
    many (choice [r "string fragment", r "escape sequence", r "string interpolation"]), "\""]),
  .group "multiline string literal" (seq ["\"\"\"",
    many (choice [called "multiline string fragment" (r "multiline string fragment"),
      r "any escape sequence", r "string interpolation"]),
    "\"\"\""]),
  .node "string fragment" (tight (preferring 1 (lexeme (.oneOrMore (noneOf "\"\\"))))),
  .group "multiline string fragment" (choice [lexeme (.oneOrMore (noneOf "\"\\")),
    lexeme (.all ["\"", .many (noneOf "\"\\")]), lexeme (.all ["\"\"", .many (noneOf "\"\\")])]),
  .node "string interpolation" (seq ["\\\x7b", r "expression", "\x7d"]),
  .group "any escape sequence" (choice [rank 2 (tight (lexeme (.all ["\\", noneOf "bfnrts'\"\\"]))),
    rank 1 (r "escape sequence")]),
  .node "escape sequence" (tight (lexeme escape)),
  .node "null literal" "null"]

def expressions : List Entry := [
  .sort "expression" (choice [r "assignment expression", r "binary expression",
    r "instanceof expression", r "lambda expression", r "ternary expression", r "update expression",
    r "primary expression", r "unary expression", r "cast expression", r "switch expression"]),
  .node "cast expression" (rank 14 (choice [
    seq ["(", part "type" (r "type"), ")", part "value" (r "expression")],
    seq ["(", listBy "&" (part "type" (r "type")), ")",
      part "value" (choice [r "primary expression", r "lambda expression"])]])),
  .node "assignment expression" (right 1 (seq [
    part "left" (choice [r "identifier", r "reserved identifier", r "field access",
      r "array access"]),
    part "operator" (choice ["=", "+=", "-=", "*=", "/=", "&=", "|=", "^=", "%=", "<<=", ">>=",
      ">>>="]),
    part "right" (r "expression")])),
  .node "binary expression" (choice [binary ">" 10, binary "<" 10, binary ">=" 10, binary "<=" 10,
    binary "==" 9, binary "!=" 9, binary "&&" 5, binary "||" 4, binary "+" 12, binary "-" 12,
    binary "*" 13, binary "/" 13, binary "&" 8, binary "|" 6, binary "^" 7, binary "%" 13,
    binary "<<" 11, binary ">>" 11, binary ">>>" 11]),
  .node "instanceof expression" (rank 10 (seq [part "left" (r "expression"), "instanceof",
    opt "final",
    choice [
      seq [part "right" (r "type"),
        opt (part "name" (choice [r "identifier", r "reserved identifier"]))],
      part "pattern" (r "record pattern")]])),
  .node "lambda expression" (seq [
    part "parameters" (choice [r "identifier", r "formal parameters", r "inferred parameters",
      r "reserved identifier"]),
    "->", part "body" (choice [r "expression", r "block"])]),
  .node "inferred parameters" (parens [list (choice [r "identifier", r "reserved identifier"])]),
  .node "ternary expression" (right 3 (seq [part "condition" (r "expression"), "?",
    part "consequence" (r "expression"), ":", part "alternative" (r "expression")])),
  .node "unary expression" (choice [
    left 15 (seq [part "operator" "+", part "operand" (r "expression")]),
    left 15 (seq [part "operator" "-", part "operand" (r "expression")]),
    left 15 (seq [part "operator" "!", part "operand" (r "expression")]),
    left 15 (seq [part "operator" "~", part "operand" (r "expression")])]),
  .node "update expression" (left 15 (choice [seq [r "expression", "++"],
    seq [r "expression", "--"], seq ["++", r "expression"], seq ["--", r "expression"]])),
  .sort "primary expression" (choice [r "literal", r "class literal", r "this", r "identifier",
    r "reserved identifier", r "parenthesized expression", r "object creation expression",
    r "field access", r "array access", r "method invocation", r "method reference",
    r "array creation expression", r "template expression"]),
  .node "array creation expression" (right 0 (seq ["new", many (r "any annotation"),
    part "type" (r "simple type"),
    choice [
      seq [part "dimensions" (manyOf (r "dimensions expr")),
        part "dimensions" (opt (r "dimensions"))],
      seq [part "dimensions" (r "dimensions"), part "value" (r "array initializer")]]])),
  .node "dimensions expr" (seq [many (r "any annotation"), "[", r "expression", "]"]),
  .node "parenthesized expression" (parens [r "expression"]),
  .node "class literal" (weighted 17 (seq [r "unannotated type", ".", "class"])),
  .node "object creation expression" (choice [r "unqualified object creation expression",
    seq [r "primary expression", ".", r "unqualified object creation expression"]]),
  .group "unqualified object creation expression" (right 0 (seq ["new",
    choice [
      seq [many (r "any annotation"), part "type arguments" (r "type arguments"),
        many (r "any annotation")],
      many (r "any annotation")],
    part "type" (r "simple type"), part "arguments" (r "argument list"), opt (r "class body")])),
  .node "field access" (seq [part "object" (choice [r "primary expression", r "super"]),
    opt (seq [".", r "super"]), ".",
    part "field" (choice [r "identifier", r "reserved identifier", r "this"])]),
  .node "template expression" (seq [part "template processor" (r "primary expression"), ".",
    part "template argument" (r "string literal")]),
  .node "array access" (seq [part "array" (r "primary expression"), "[",
    part "index" (r "expression"), "]"]),
  .node "method invocation" (seq [
    choice [part "name" (choice [r "identifier", r "reserved identifier"]),
      seq [part "object" (choice [r "primary expression", r "super"]), ".",
        opt (seq [r "super", "."]), part "type arguments" (opt (r "type arguments")),
        part "name" (choice [r "identifier", r "reserved identifier"])]],
    part "arguments" (r "argument list")]),
  .node "argument list" (parens [opt (list (r "expression"))]),
  .node "method reference" (seq [choice [r "type", r "primary expression", r "super"], "::",
    opt (r "type arguments"), choice ["new", r "identifier"]]),
  .node "type arguments" (seq ["<", opt (list (choice [r "type", r "wildcard"])), ">"]),
  .node "wildcard" (seq [many (r "any annotation"), "?", opt (r "wildcard bounds")]),
  .group "wildcard bounds" (choice [seq ["extends", r "type"], seq [r "super", r "type"]]),
  .node "dimensions" (right 0 (manyOf (seq [many (r "any annotation"), "[", "]"])))]

def cases : List Entry := [
  .node "switch expression" (seq ["switch", part "condition" (r "parenthesized expression"),
    part "body" (r "switch block")]),
  .node "switch block" (braces [
    choice [many (r "switch block statement group"), many (r "switch rule")]]),
  .node "switch block statement group" (left 0 (seq [manyOf (seq [r "switch label", ":"]),
    many (r "statement")])),
  .node "switch rule" (seq [r "switch label", "->",
    choice [r "expression statement", r "throw statement", r "block"]]),
  .node "switch label" (choice [
    seq ["case", choice [r "pattern", list (r "expression")], opt (r "guard")], "default"]),
  .node "pattern" (choice [r "type pattern", r "record pattern"]),
  .node "type pattern" (seq [r "unannotated type",
    choice [r "identifier", r "reserved identifier"]]),
  .node "record pattern" (seq [choice [r "identifier", r "reserved identifier", r "generic type"],
    r "record pattern body"]),
  .node "record pattern body" (parens [
    opt (list (choice [r "record pattern component", r "record pattern"]))]),
  .node "record pattern component" (choice [r "underscore pattern",
    seq [r "unannotated type", choice [r "identifier", r "reserved identifier"]]]),
  .node "underscore pattern" "_",
  .node "guard" (seq ["when", r "expression"])]

def statements : List Entry := [
  .sort "statement" (choice [r "declaration", r "expression statement", r "labeled statement",
    r "if statement", r "while statement", r "for statement", r "enhanced for statement", r "block",
    ";", r "assert statement", r "do statement", r "break statement", r "continue statement",
    r "return statement", r "yield statement", r "switch expression", r "synchronized statement",
    r "local variable declaration", r "throw statement", r "try statement",
    r "try with resources statement"]),
  .node "block" (braces [many (r "statement")]),
  .node "expression statement" (seq [r "expression", ";"]),
  .node "labeled statement" (seq [r "identifier", ":", r "statement"]),
  .node "assert statement" (choice [seq ["assert", r "expression", ";"],
    seq ["assert", r "expression", ":", r "expression", ";"]]),
  .node "do statement" (seq ["do", part "body" (r "statement"), "while",
    part "condition" (r "parenthesized expression"), ";"]),
  .node "break statement" (seq ["break", opt (r "identifier"), ";"]),
  .node "continue statement" (seq ["continue", opt (r "identifier"), ";"]),
  .node "return statement" (seq ["return", opt (r "expression"), ";"]),
  .node "yield statement" (seq ["yield", r "expression", ";"]),
  .node "synchronized statement" (seq ["synchronized", r "parenthesized expression",
    part "body" (r "block")]),
  .node "throw statement" (seq ["throw", r "expression", ";"]),
  .node "try statement" (seq ["try", part "body" (r "block"),
    choice [manyOf (r "catch clause"), seq [many (r "catch clause"), r "finally clause"]]]),
  .node "catch clause" (seq ["catch", "(", r "catch formal parameter", ")",
    part "body" (r "block")]),
  .node "catch formal parameter" (seq [opt (r "modifiers"), r "catch type",
    r "variable declarator id"]),
  .node "catch type" (listBy "|" (r "unannotated type")),
  .node "finally clause" (seq ["finally", r "block"]),
  .node "try with resources statement" (seq ["try", part "resources" (r "resource specification"),
    part "body" (r "block"), many (r "catch clause"), opt (r "finally clause")]),
  .node "resource specification" (parens [listBy ";" (r "resource"), opt ";"]),
  .node "resource" (choice [
    seq [opt (r "modifiers"), part "type" (r "unannotated type"), r "variable declarator id", "=",
      part "value" (r "expression")],
    r "identifier", r "field access"]),
  .node "if statement" (right 0 (seq ["if", part "condition" (r "parenthesized expression"),
    part "consequence" (r "statement"), opt (seq ["else", part "alternative" (r "statement")])])),
  .node "while statement" (seq ["while", part "condition" (r "parenthesized expression"),
    part "body" (r "statement")]),
  .node "for statement" (seq ["for", "(",
    choice [part "init" (r "local variable declaration"),
      seq [opt (list (part "init" (r "expression"))), ";"]],
    part "condition" (opt (r "expression")), ";", opt (list (part "update" (r "expression"))), ")",
    part "body" (r "statement")]),
  .node "enhanced for statement" (seq ["for", "(", opt (r "modifiers"),
    part "type" (r "unannotated type"), r "variable declarator id", ":",
    part "value" (r "expression"), ")", part "body" (r "statement")])]

def annotations : List Entry := [
  .group "any annotation" (choice [r "marker annotation", r "annotation"]),
  .node "marker annotation" (seq ["@", part "name" (r "name")]),
  .node "annotation" (seq ["@", part "name" (r "name"),
    part "arguments" (r "annotation argument list")]),
  .node "annotation argument list" (parens [
    choice [r "element value", opt (list (r "element value pair"))]]),
  .node "element value pair" (seq [part "key" (choice [r "identifier", r "reserved identifier"]),
    "=", part "value" (r "element value")]),
  .group "element value" (rank 2 (choice [r "expression", r "element value array initializer",
    r "any annotation"])),
  .node "element value array initializer" (braces [opt (list (r "element value")), opt ","])]

def modules : List Entry := [
  .sort "declaration" (rank 2 (choice [r "module declaration", r "package declaration",
    r "import declaration", r "class declaration", r "record declaration",
    r "interface declaration", r "annotation type declaration", r "enum declaration"])),
  .node "module declaration" (seq [many (r "any annotation"), opt "open", "module",
    part "name" (r "name"), part "body" (r "module body")]),
  .node "module body" (braces [many (r "module directive")]),
  .sort "module directive" (choice [r "requires module directive", r "exports module directive",
    r "opens module directive", r "uses module directive", r "provides module directive"]),
  .node "requires module directive" (seq ["requires",
    many (part "modifiers" (r "requires modifier")), part "module" (r "name"), ";"]),
  .node "requires modifier" (choice ["transitive", "static"]),
  .node "exports module directive" (seq ["exports", part "package" (r "name"),
    opt (seq ["to", part "modules" (r "name"), many (seq [",", part "modules" (r "name")])]), ";"]),
  .node "opens module directive" (seq ["opens", part "package" (r "name"),
    opt (seq ["to", part "modules" (r "name"), many (seq [",", part "modules" (r "name")])]), ";"]),
  .node "uses module directive" (seq ["uses", part "type" (r "name"), ";"]),
  .node "provides module directive" (seq ["provides", part "provided" (r "name"), "with", r "name",
    many (seq [",", part "provider" (r "name")]), ";"]),
  .node "package declaration" (seq [many (r "any annotation"), "package", r "name", ";"]),
  .node "import declaration" (seq ["import", opt "static", r "name", opt (seq [".", r "asterisk"]),
    ";"]),
  .node "asterisk" "*"]

def classes : List Entry := [
  .node "enum declaration" (seq [opt (r "modifiers"), "enum", part "name" (r "identifier"),
    part "interfaces" (opt (r "super interfaces")), part "body" (r "enum body")]),
  .node "enum body" (braces [opt (list (r "enum constant")), opt ",",
    opt (r "enum body declarations")]),
  .node "enum body declarations" (seq [";", many (r "class body declaration")]),
  .node "enum constant" (seq [opt (r "modifiers"), part "name" (r "identifier"),
    part "arguments" (opt (r "argument list")), part "body" (opt (r "class body"))]),
  .node "class declaration" (seq [opt (r "modifiers"), "class", part "name" (r "identifier"),
    opt (part "type parameters" (r "type parameters")), opt (part "superclass" (r "superclass")),
    opt (part "interfaces" (r "super interfaces")), opt (part "permits" (r "permits")),
    part "body" (r "class body")]),
  .node "modifiers" (manyOf (choice [r "any annotation", "public", "protected", "private",
    "abstract", "static", "final", "strictfp", "default", "synchronized", "native", "transient",
    "volatile", "sealed", "non-sealed"])),
  .node "type parameters" (seq ["<", list (r "type parameter"), ">"]),
  .node "type parameter" (seq [many (r "any annotation"), called "type identifier" (r "identifier"),
    opt (r "type bound")]),
  .node "type bound" (seq ["extends", r "type", many (seq ["&", r "type"])]),
  .node "superclass" (seq ["extends", r "type"]),
  .node "super interfaces" (seq ["implements", r "type list"]),
  .node "type list" (list (r "type")),
  .node "permits" (seq ["permits", r "type list"]),
  .node "class body" (braces [many (r "class body declaration")]),
  .group "class body declaration" (choice [r "field declaration", r "record declaration",
    r "method declaration", r "compact constructor declaration", r "class declaration",
    r "interface declaration", r "annotation type declaration", r "enum declaration", r "block",
    r "static initializer", r "constructor declaration", ";"]),
  .node "static initializer" (seq ["static", r "block"]),
  .node "constructor declaration" (seq [opt (r "modifiers"), r "constructor declarator",
    opt (r "throws"), part "body" (r "constructor body")]),
  .group "constructor declarator" (seq [part "type parameters" (opt (r "type parameters")),
    part "name" (choice [r "identifier", r "reserved identifier"]),
    part "parameters" (r "formal parameters")]),
  .node "constructor body" (braces [opt (r "explicit constructor invocation"),
    many (r "statement")]),
  .node "explicit constructor invocation" (seq [
    choice [
      seq [part "type arguments" (opt (r "type arguments")),
        part "constructor" (choice [r "this", r "super"])],
      seq [part "object" (choice [r "primary expression"]), ".",
        part "type arguments" (opt (r "type arguments")), part "constructor" (r "super")]],
    part "arguments" (r "argument list"), ";"])]

def members : List Entry := [
  .group "name" (choice [r "identifier", r "reserved identifier", r "scoped identifier"]),
  .node "scoped identifier" (seq [part "scope" (r "name"), ".",
    part "name" (choice [r "identifier", r "reserved identifier"])]),
  .node "field declaration" (seq [opt (r "modifiers"), part "type" (r "unannotated type"),
    r "variable declarator list", ";"]),
  .node "record declaration" (seq [opt (r "modifiers"), "record", part "name" (r "identifier"),
    opt (part "type parameters" (r "type parameters")), part "parameters" (r "formal parameters"),
    opt (part "interfaces" (r "super interfaces")), part "body" (r "class body")]),
  .node "annotation type declaration" (seq [opt (r "modifiers"), "@interface",
    part "name" (r "identifier"), part "body" (r "annotation type body")]),
  .node "annotation type body" (braces [
    many (choice [r "annotation type element declaration", r "constant declaration",
      r "class declaration", r "interface declaration", r "enum declaration",
      r "annotation type declaration", ";"])]),
  .node "annotation type element declaration" (seq [opt (r "modifiers"),
    part "type" (r "unannotated type"),
    part "name" (choice [r "identifier", r "reserved identifier"]), "(", ")",
    part "dimensions" (opt (r "dimensions")), opt (r "default value"), ";"]),
  .group "default value" (seq ["default", part "value" (r "element value")])]

def interfaces : List Entry := [
  .node "interface declaration" (seq [opt (r "modifiers"), "interface",
    part "name" (r "identifier"), part "type parameters" (opt (r "type parameters")),
    opt (r "extends interfaces"), opt (part "permits" (r "permits")),
    part "body" (r "interface body")]),
  .node "extends interfaces" (seq ["extends", r "type list"]),
  .node "interface body" (braces [
    many (choice [r "constant declaration", r "enum declaration", r "method declaration",
      r "class declaration", r "interface declaration", r "record declaration",
      r "annotation type declaration", ";"])]),
  .node "constant declaration" (seq [opt (r "modifiers"), part "type" (r "unannotated type"),
    r "variable declarator list", ";"]),
  .group "variable declarator list" (list (part "declarator" (r "variable declarator"))),
  .node "variable declarator" (seq [r "variable declarator id",
    opt (seq ["=", part "value" (r "variable initializer")])]),
  .group "variable declarator id" (seq [
    part "name" (choice [r "identifier", r "reserved identifier", r "underscore pattern"]),
    part "dimensions" (opt (r "dimensions"))]),
  .group "variable initializer" (choice [r "expression", r "array initializer"]),
  .node "array initializer" (braces [opt (list (r "variable initializer")), opt ","])]

def types : List Entry := [
  .sort "type" (choice [r "unannotated type", r "annotated type"]),
  .sort "unannotated type" (choice [r "simple type", r "array type"]),
  .sort "simple type" (choice [r "void type", r "integral type", r "floating point type",
    r "boolean type", called "type identifier" (r "identifier"), r "scoped type identifier",
    r "generic type"]),
  .node "annotated type" (seq [manyOf (r "any annotation"), r "unannotated type"]),
  .node "scoped type identifier" (seq [
    choice [called "type identifier" (r "identifier"), r "scoped type identifier",
      r "generic type"],
    ".", many (r "any annotation"), called "type identifier" (r "identifier")]),
  .node "generic type" (weighted 10 (seq [
    choice [called "type identifier" (r "identifier"), r "scoped type identifier"],
    r "type arguments"])),
  .node "array type" (seq [part "element" (r "unannotated type"),
    part "dimensions" (r "dimensions")]),
  .node "integral type" (choice ["byte", "short", "int", "long", "char"]),
  .node "floating point type" (choice ["float", "double"]),
  .node "boolean type" "boolean",
  .node "void type" "void"]

/-- Methods, and the lexemes that are left. -/
def methods : List Entry := [
  .group "method header" (seq [
    opt (seq [part "type parameters" (r "type parameters"), many (r "any annotation")]),
    part "type" (r "unannotated type"), r "method declarator", opt (r "throws")]),
  .group "method declarator" (seq [part "name" (choice [r "identifier", r "reserved identifier"]),
    part "parameters" (r "formal parameters"), part "dimensions" (opt (r "dimensions"))]),
  .node "formal parameters" (parens [
    choice [r "receiver parameter",
      seq [opt (seq [r "receiver parameter", ","]),
        opt (list (choice [r "formal parameter", r "spread parameter"]))]]]),
  .node "formal parameter" (seq [opt (r "modifiers"), part "type" (r "unannotated type"),
    r "variable declarator id"]),
  .node "receiver parameter" (seq [many (r "any annotation"), r "unannotated type",
    many (seq [r "identifier", "."]), r "this"]),
  .node "spread parameter" (seq [opt (r "modifiers"), r "unannotated type", "...",
    many (r "any annotation"), r "variable declarator"]),
  .node "throws" (seq ["throws", list (r "type")]),
  .node "local variable declaration" (seq [opt (r "modifiers"), part "type" (r "unannotated type"),
    r "variable declarator list", ";"]),
  .node "method declaration" (seq [opt (r "modifiers"), r "method header",
    choice [part "body" (r "block"), ";"]]),
  .node "compact constructor declaration" (seq [opt (r "modifiers"), part "name" (r "identifier"),
    part "body" (r "block")]),
  .group "reserved identifier" (choice [
    rank (-3) (called "identifier" (choice ["open", "module", "record", "with", "sealed"])),
    called "identifier" "yield"]),
  .node "this" "this",
  .node "super" "super",
  .node "identifier" (lexeme name),
  .node "line comment" (preferring 0 (lexeme lineComment)),
  .node "block comment" (preferring 0 (lexeme blockComment))]

def rules : List Entry :=
  literals ++ expressions ++ cases ++ statements ++ annotations ++ modules ++ classes ++ members ++
    interfaces ++ types ++ methods

end SdkAudit.Java
