import SdkAudit.Dialect.ScriptLexeme
import SdkAudit.Grammar.Definition

/-!
# Rules of scripts

The rules of scripts without types.  Their order is part of the grammar: where a text can be read
in several ways, it can decide between them.

* `Script.plainRules`: all of them.
-/

namespace SdkAudit.Script

open Grammar

/-- An expression with an operator between two others, where equal operators are read from the
left. -/
def binary (operator : String) (rank : Rank) : Phrase :=
  left rank (seq [part "left" (r "expression"), part "operator" operator,
    part "right" (r "expression")])

/-- Whole scripts, and what they take from others and hand out to them. -/
def modules : List Entry := [
  .node "program" (seq [opt (r "hash bang line"), many (r "statement")]),
  .node "hash bang line" (lexeme (.all ["#!", .many (noneOf "\n")])),
  .node "export statement" (choice [
    seq ["export",
      choice [seq ["*", r "from clause"], seq [r "namespace export", r "from clause"],
        seq [r "export clause", r "from clause"], r "export clause"],
      r "semicolon"],
    seq [many (part "decorator" (r "decorator")), "export",
      choice [part "declaration" (r "declaration"),
        seq ["default",
          choice [part "declaration" (r "declaration"),
            seq [part "value" (r "expression"), r "semicolon"]]]]]]),
  .node "namespace export" (seq ["*", "as", r "module export name"]),
  .node "export clause" (braces [opt (list (r "export specifier")), opt ","]),
  .node "export specifier" (seq [part "name" (r "module export name"),
    opt (seq ["as", part "alias" (r "module export name")])]),
  .group "module export name" (choice [r "identifier", r "string", "default"]),
  .sort "declaration" (choice [r "function declaration", r "generator function declaration",
    r "class declaration", r "lexical declaration", r "variable declaration"]),
  .node "import" "import",
  .node "import statement" (seq ["import",
    choice [seq [r "import clause", r "from clause"], part "source" (r "string")],
    opt (r "import attribute"), r "semicolon"]),
  .node "import clause" (choice [r "namespace import", r "named imports",
    seq [r "identifier", opt (seq [",", choice [r "namespace import", r "named imports"]])]]),
  .group "from clause" (seq ["from", part "source" (r "string")]),
  .node "namespace import" (seq ["*", "as", r "identifier"]),
  .node "named imports" (braces [opt (list (r "import specifier")), opt ","]),
  .node "import specifier" (choice [part "name" (r "identifier"),
    seq [part "name" (r "module export name"), "as", part "alias" (r "identifier")]]),
  .node "import attribute" (seq ["with", r "object"])]

def statements : List Entry := [
  .sort "statement" (choice [r "export statement", r "import statement", r "debugger statement",
    r "expression statement", r "declaration", r "statement block", r "if statement",
    r "switch statement", r "for statement", r "for in statement", r "while statement",
    r "do statement", r "try statement", r "with statement", r "break statement",
    r "continue statement", r "return statement", r "throw statement", r "empty statement",
    r "labeled statement"]),
  .node "expression statement" (seq [r "expressions", r "semicolon"]),
  .node "variable declaration" (seq ["var", list (r "variable declarator"), r "semicolon"]),
  .node "lexical declaration" (seq [part "kind" (choice ["let", "const"]),
    list (r "variable declarator"), r "semicolon"]),
  .node "variable declarator" (seq [
    part "name" (choice [r "identifier", r "destructuring pattern"]), opt (r "initializer")]),
  .node "statement block" (right 0 (seq ["\x7b", many (r "statement"), "\x7d",
    opt (r "implied semicolon")])),
  .node "else clause" (seq ["else", r "statement"]),
  .node "if statement" (right 0 (seq ["if", part "condition" (r "parenthesized expression"),
    part "consequence" (r "statement"), opt (part "alternative" (r "else clause"))])),
  .node "switch statement" (seq ["switch", part "value" (r "parenthesized expression"),
    part "body" (r "switch body")]),
  .node "for statement" (seq ["for", "(",
    choice [part "initializer" (choice [r "lexical declaration", r "variable declaration"]),
      seq [part "initializer" (r "expressions"), ";"], part "initializer" (r "empty statement")],
    part "condition" (choice [seq [r "expressions", ";"], r "empty statement"]),
    part "increment" (opt (r "expressions")), ")", part "body" (r "statement")]),
  .node "for in statement" (seq ["for", opt "await", r "for header", part "body" (r "statement")]),
  .group "for header" (parens [
    choice [part "left" (choice [r "lhs expression", r "parenthesized expression"]),
      seq [part "kind" "var", part "left" (choice [r "identifier", r "destructuring pattern"]),
        opt (r "initializer")],
      seq [part "kind" (choice ["let", "const"]),
        part "left" (choice [r "identifier", r "destructuring pattern"]),
        opt (r "implied semicolon")]],
    part "operator" (choice ["in", "of"]), part "right" (r "expressions")]),
  .node "while statement" (seq ["while", part "condition" (r "parenthesized expression"),
    part "body" (r "statement")]),
  .node "do statement" (right 0 (seq ["do", part "body" (r "statement"), "while",
    part "condition" (r "parenthesized expression"), opt (r "semicolon")])),
  .node "try statement" (seq ["try", part "body" (r "statement block"),
    opt (part "handler" (r "catch clause")), opt (part "finalizer" (r "finally clause"))]),
  .node "with statement" (seq ["with", part "object" (r "parenthesized expression"),
    part "body" (r "statement")]),
  .node "break statement" (seq ["break",
    part "label" (opt (called "statement identifier" (r "identifier"))), r "semicolon"]),
  .node "continue statement" (seq ["continue",
    part "label" (opt (called "statement identifier" (r "identifier"))), r "semicolon"]),
  .node "debugger statement" (seq ["debugger", r "semicolon"]),
  .node "return statement" (seq ["return", opt (r "expressions"), r "semicolon"]),
  .node "throw statement" (seq ["throw", r "expressions", r "semicolon"]),
  .node "empty statement" ";",
  .node "labeled statement" (weighted (-1) (seq [
    part "label" (called "statement identifier" (choice [r "identifier", r "reserved identifier"])),
    ":", part "body" (r "statement")]))]

/-- Parts of statements. -/
def clauses : List Entry := [
  .node "switch body" (braces [many (choice [r "switch case", r "switch default"])]),
  .node "switch case" (seq ["case", part "value" (r "expressions"), ":",
    part "body" (many (r "statement"))]),
  .node "switch default" (seq ["default", ":", part "body" (many (r "statement"))]),
  .node "catch clause" (seq ["catch",
    opt (parens [part "parameter" (choice [r "identifier", r "destructuring pattern"])]),
    part "body" (r "statement block")]),
  .node "finally clause" (seq ["finally", part "body" (r "statement block")]),
  .node "parenthesized expression" (parens [r "expressions"]),
  .group "expressions" (choice [r "expression", r "sequence expression"])]

/-- Expressions, and the values that are written down in them. -/
def values : List Entry := [
  .sort "expression" (choice [r "primary expression", r "any jsx element",
    r "assignment expression", r "augmented assignment expression", r "await expression",
    r "unary expression", r "binary expression", r "ternary expression", r "update expression",
    r "new expression", r "yield expression"]),
  .sort "primary expression" (choice [r "subscript expression", r "member expression",
    r "parenthesized expression", r "any identifier", called "identifier" (r "reserved identifier"),
    r "this", r "super", r "number", r "string", r "template string", r "regex", r "true",
    r "false", r "null", r "object", r "array", r "function expression", r "arrow function",
    r "generator function", r "class", r "meta property", r "call expression"]),
  .node "yield expression" (right 0 (seq ["yield",
    choice [seq ["*", r "expression"], opt (r "expression")]])),
  .node "object" (rank "object" (braces [
    opt (list (opt (choice [r "pair", r "spread element", r "method definition",
      called "shorthand property identifier" (choice [r "identifier",
        r "reserved identifier"])])))])),
  .node "object pattern" (rank "object" (braces [
    opt (list (opt (choice [r "pair pattern", r "rest pattern", r "object assignment pattern",
      called "shorthand property identifier pattern" (choice [r "identifier",
        r "reserved identifier"])])))])),
  .node "assignment pattern" (seq [part "left" (r "pattern"), "=", part "right" (r "expression")]),
  .node "object assignment pattern" (seq [
    part "left" (choice [
      called "shorthand property identifier pattern" (choice [r "reserved identifier",
        r "identifier"]),
      r "destructuring pattern"]),
    "=", part "right" (r "expression")]),
  .node "array" (brackets [opt (list (opt (choice [r "expression", r "spread element"])))]),
  .node "array pattern" (brackets [
    opt (list (opt (choice [r "pattern", r "assignment pattern"])))])]

def markup : List Entry := [
  .group "any jsx element" (choice [r "jsx element", r "jsx self closing element"]),
  .node "jsx element" (seq [part "open tag" (r "jsx opening element"), many (r "jsx child"),
    part "close tag" (r "jsx closing element")]),
  .node "html character reference" (lexeme markupReference),
  .node "jsx expression" (braces [
    opt (choice [r "expression", r "sequence expression", r "spread element"])]),
  .group "jsx child" (choice [r "jsx text", r "html character reference", r "any jsx element",
    r "jsx expression"]),
  .node "jsx opening element" (weighted (-1) (seq ["<",
    opt (seq [part "name" (r "jsx element name"), many (part "attribute" (r "any jsx attribute"))]),
    ">"])),
  .group "any jsx identifier" (choice [called "identifier" (r "jsx identifier"), r "identifier"]),
  .node "jsx identifier" (lexeme markupName),
  .node "nested identifier" (rank "member" (seq [
    part "object" (choice [r "identifier", called "member expression" (r "nested identifier")]),
    ".", part "property" (called "property identifier" (r "identifier"))])),
  .node "jsx namespace name" (seq [r "any jsx identifier", ":", r "any jsx identifier"]),
  .group "jsx element name" (choice [r "any jsx identifier",
    called "member expression" (r "nested identifier"), r "jsx namespace name"]),
  .node "jsx closing element" (seq ["</", opt (part "name" (r "jsx element name")), ">"]),
  .node "jsx self closing element" (seq ["<", part "name" (r "jsx element name"),
    many (part "attribute" (r "any jsx attribute")), "/>"]),
  .group "any jsx attribute" (choice [r "jsx attribute", r "jsx expression"]),
  .group "jsx attribute name" (choice [called "property identifier" (r "any jsx identifier"),
    r "jsx namespace name"]),
  .node "jsx attribute" (seq [r "jsx attribute name", opt (seq ["=", r "jsx attribute value"])]),
  .group "jsx string" (choice [
    seq ["\"",
      many (choice [called "string fragment" (r "unescaped double jsx string fragment"),
        r "html character reference"]),
      "\""],
    seq ["'",
      many (choice [called "string fragment" (r "unescaped single jsx string fragment"),
        r "html character reference"]),
      "'"]]),
  .node "unescaped double jsx string fragment" (tight (preferring 1 (lexeme (markupText "\"")))),
  .node "unescaped single jsx string fragment" (tight (preferring 1 (lexeme (markupText "'")))),
  .group "jsx attribute value" (choice [called "string" (r "jsx string"), r "jsx expression",
    r "any jsx element"])]

def functions : List Entry := [
  .node "class" (rank "literal" (seq [many (part "decorator" (r "decorator")), "class",
    part "name" (opt (r "identifier")), opt (r "class heritage"), part "body" (r "class body")])),
  .node "class declaration" (rank "declaration" (seq [many (part "decorator" (r "decorator")),
    "class", part "name" (r "identifier"), opt (r "class heritage"), part "body" (r "class body"),
    opt (r "implied semicolon")])),
  .node "class heritage" (seq ["extends", r "expression"]),
  .node "function expression" (rank "literal" (seq [opt "async", "function",
    part "name" (opt (r "identifier")), r "signature", part "body" (r "statement block")])),
  .node "function declaration" (right "declaration" (seq [opt "async", "function",
    part "name" (r "identifier"), r "signature", part "body" (r "statement block"),
    opt (r "implied semicolon")])),
  .node "generator function" (rank "literal" (seq [opt "async", "function", "*",
    part "name" (opt (r "identifier")), r "signature", part "body" (r "statement block")])),
  .node "generator function declaration" (right "declaration" (seq [opt "async", "function", "*",
    part "name" (r "identifier"), r "signature", part "body" (r "statement block"),
    opt (r "implied semicolon")])),
  .node "arrow function" (seq [opt "async",
    choice [
      part "parameter" (choice [called "identifier" (r "reserved identifier"), r "identifier"]),
      r "signature"],
    "=>", part "body" (choice [r "expression", r "statement block"])]),
  .group "signature" (part "parameters" (r "formal parameters")),
  .group "formal parameter" (choice [r "pattern", r "assignment pattern"])]

def operations : List Entry := [
  .node "optional chain" "?.",
  .node "call expression" (choice [
    rank "call" (seq [part "function" (choice [r "expression", r "import"]),
      part "arguments" (r "arguments")]),
    rank "template call" (seq [
      part "function" (choice [r "primary expression", r "new expression"]),
      part "arguments" (r "template string")]),
    rank "member" (seq [part "function" (r "primary expression"),
      part "optional chain" (r "optional chain"), part "arguments" (r "arguments")])]),
  .node "new expression" (right "new" (seq ["new",
    part "constructor" (choice [r "primary expression", r "new expression"]),
    part "arguments" (opt (weighted 1 (r "arguments")))])),
  .node "await expression" (rank "unary void" (seq ["await", r "expression"])),
  .node "member expression" (rank "member" (seq [
    part "object" (choice [r "expression", r "primary expression", r "import"]),
    choice [".", part "optional chain" (r "optional chain")],
    part "property" (choice [r "private property identifier",
      called "property identifier" (r "identifier")])])),
  .node "subscript expression" (right "member" (seq [
    part "object" (choice [r "expression", r "primary expression"]),
    opt (part "optional chain" (r "optional chain")), "[", part "index" (r "expressions"), "]"])),
  .group "lhs expression" (choice [r "member expression", r "subscript expression",
    r "any identifier", called "identifier" (r "reserved identifier"), r "destructuring pattern"]),
  .node "assignment expression" (right "assign" (seq [
    part "left" (choice [r "parenthesized expression", r "lhs expression"]), "=",
    part "right" (r "expression")])),
  .group "augmented assignment lhs" (choice [r "member expression", r "subscript expression",
    called "identifier" (r "reserved identifier"), r "identifier", r "parenthesized expression"]),
  .node "augmented assignment expression" (right "assign" (seq [
    part "left" (r "augmented assignment lhs"),
    part "operator" (choice ["+=", "-=", "*=", "/=", "%=", "^=", "&=", "|=", ">>=", ">>>=", "<<=",
      "**=", "&&=", "||=", "??="]),
    part "right" (r "expression")])),
  .group "initializer" (seq ["=", part "value" (r "expression")]),
  .group "destructuring pattern" (choice [r "object pattern", r "array pattern"]),
  .node "spread element" (seq ["...", r "expression"]),
  .node "ternary expression" (right "ternary" (seq [part "condition" (r "expression"),
    spelled "?" (r "question mark"), part "consequence" (r "expression"), ":",
    part "alternative" (r "expression")])),
  .node "binary expression" (choice [binary "&&" "logical and", binary "||" "logical or",
    binary ">>" "binary shift", binary ">>>" "binary shift", binary "<<" "binary shift",
    binary "&" "bitwise and", binary "^" "bitwise xor", binary "|" "bitwise or",
    binary "+" "binary plus", binary "-" "binary plus", binary "*" "binary times",
    binary "/" "binary times", binary "%" "binary times",
    right "binary exp" (seq [part "left" (r "expression"), part "operator" "**",
      part "right" (r "expression")]),
    binary "<" "binary relation", binary "<=" "binary relation", binary "==" "binary equality",
    binary "===" "binary equality", binary "!=" "binary equality", binary "!==" "binary equality",
    binary ">=" "binary relation", binary ">" "binary relation", binary "??" "ternary",
    binary "instanceof" "binary relation",
    left "binary relation" (seq [
      part "left" (choice [r "expression", r "private property identifier"]), part "operator" "in",
      part "right" (r "expression")])]),
  .node "unary expression" (left "unary void" (seq [
    part "operator" (choice ["!", "~", "-", "+", "typeof", "void", "delete"]),
    part "argument" (r "expression")])),
  .node "update expression" (left 0 (choice [
    seq [part "argument" (r "expression"), part "operator" (choice ["++", "--"])],
    seq [part "operator" (choice ["++", "--"]), part "argument" (r "expression")]])),
  .node "sequence expression" (right 0 (list (r "expression")))]

/-- Strings, numbers and names. -/
def lexemes : List Entry := [
  .node "string" (choice [
    seq ["\"",
      many (choice [called "string fragment" (r "unescaped double string fragment"),
        r "escape sequence"]),
      "\""],
    seq ["'",
      many (choice [called "string fragment" (r "unescaped single string fragment"),
        r "escape sequence"]),
      "'"]]),
  .node "unescaped double string fragment"
    (tight (preferring 1 (lexeme (.oneOrMore (noneOf "\"\\\r\n"))))),
  .node "unescaped single string fragment"
    (tight (preferring 1 (lexeme (.oneOrMore (noneOf "'\\\r\n"))))),
  .node "escape sequence" (tight (lexeme escape)),
  .node "comment" (lexeme comment),
  .node "template string" (seq ["\x60",
    many (choice [called "string fragment" (r "template text"), r "escape sequence",
      r "template substitution"]),
    "\x60"]),
  .node "template substitution" (seq ["$\x7b", r "expressions", "\x7d"]),
  .node "regex" (seq ["/", part "pattern" (r "regex pattern"), tight (preferring 1 "/"),
    opt (part "flags" (r "regex flags"))]),
  .node "regex pattern" (tight (preferring (-1) (lexeme expressionPattern))),
  .node "regex flags" (tight (lexeme (.oneOrMore (inRanges [('a', 'z')])))),
  .node "number" (lexeme number),
  .group "any identifier" (choice [r "undefined", r "identifier"]),
  .node "identifier" (lexeme name),
  .node "private property identifier" (lexeme privateName),
  .node "meta property" (choice [seq ["new", ".", "target"], seq ["import", ".", "meta"]]),
  .node "this" "this",
  .node "super" "super",
  .node "true" "true",
  .node "false" "false",
  .node "null" "null",
  .node "undefined" "undefined"]

/-- Arguments, parameters and the members of classes and objects. -/
def members : List Entry := [
  .node "arguments" (parens [opt (list (opt (choice [r "expression", r "spread element"])))]),
  .node "decorator" (seq ["@",
    choice [r "identifier", called "member expression" (r "decorator member expression"),
      called "call expression" (r "decorator call expression")]]),
  .node "decorator member expression" (rank "member" (seq [
    part "object" (choice [r "identifier",
      called "member expression" (r "decorator member expression")]),
    ".", part "property" (called "property identifier" (r "identifier"))])),
  .node "decorator call expression" (rank "call" (seq [
    part "function" (choice [r "identifier",
      called "member expression" (r "decorator member expression")]),
    part "arguments" (r "arguments")])),
  .node "class body" (braces [
    many (choice [seq [part "member" (r "method definition"), opt ";"],
      seq [part "member" (r "field definition"), r "semicolon"],
      part "member" (r "class static block"), ";"])]),
  .node "field definition" (seq [many (part "decorator" (r "decorator")), opt "static",
    part "property" (r "property name"), opt (r "initializer")]),
  .node "formal parameters" (parens [opt (seq [list (r "formal parameter"), opt ","])]),
  .node "class static block" (seq ["static", part "body" (r "statement block")]),
  .sort "pattern" (weighted (-1) (choice [r "lhs expression", r "rest pattern"])),
  .node "rest pattern" (right 0 (seq ["...", r "lhs expression"])),
  .node "method definition" (seq [many (part "decorator" (r "decorator")),
    opt (choice ["static",
      spelled "static get" (lexeme (.all ["static",
        .oneOrMore (inRanges [('\t', '\r'), (' ', ' ')]), "get",
        .many (inRanges [('\t', '\r'), (' ', ' ')]), "\n"]))]),
    opt "async", opt (choice ["get", "set", "*"]), part "name" (r "property name"),
    part "parameters" (r "formal parameters"), part "body" (r "statement block")]),
  .node "pair" (seq [part "key" (r "property name"), ":", part "value" (r "expression")]),
  .node "pair pattern" (seq [part "key" (r "property name"), ":",
    part "value" (choice [r "pattern", r "assignment pattern"])]),
  .group "property name" (choice [
    called "property identifier" (choice [r "identifier", r "reserved identifier"]),
    r "private property identifier", r "string", r "number", r "computed property name"]),
  .node "computed property name" (brackets [r "expression"]),
  .group "reserved identifier" (choice ["get", "set", "async", "static", "export", "let"]),
  .group "semicolon" (choice [r "implied semicolon", ";"])]

def plainRules : List Entry :=
  modules ++ statements ++ clauses ++ values ++ markup ++ functions ++ operations ++ lexemes ++
    members

end SdkAudit.Script
