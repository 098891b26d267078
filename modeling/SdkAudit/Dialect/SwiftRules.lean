import SdkAudit.Dialect.SwiftLexeme
import SdkAudit.Grammar.Definition

/-!
# Rules of Swift

The rules of Swift.  Their order is part of the grammar: where a text can be read in several ways,
it can decide between them.

* `Swift.rules`: all of them.
-/

namespace SdkAudit.Swift

open Grammar

/-- Whole sources, and the names in them. -/
def names : List Entry := [
  .node "source file" (seq [opt (r "shebang line"),
    opt (openListBy (r "semi") (r "top level statement"))]),
  .group "semi" (choice [r "implicit semi", r "explicit semi"]),
  .node "shebang line" (seq [r "hash symbol", "!", lexeme restOfLine]),
  .node "comment" (preferring (-3) (lexeme (.all ["//", .many (noneOf "\n")]))),
  .node "simple identifier" (choice [lexeme name, lexeme quotedName,
    lexeme (.all ["$", .oneOrMore digit]), lexeme (.all ["$", name]),
    r "contextual simple identifier"]),
  .group "contextual simple identifier" (choice ["actor", "async", "each", "lazy", "repeat",
    "package", r "parameter ownership modifier"]),
  .node "identifier" (listBy (r "dot") (r "simple identifier"))]

/-- Numbers, strings and regular expressions. -/
def literals : List Entry := [
  .group "basic literal" (choice [r "integer literal", r "hex literal", r "oct literal",
    r "bin literal", r "real literal", r "boolean literal", r "string literal", r "regex literal",
    "nil"]),
  .node "real literal" (lexeme fraction),
  .node "integer literal" (lexeme decimal),
  .node "hex literal" (lexeme hexNumber),
  .node "oct literal" (lexeme octalNumber),
  .node "bin literal" (lexeme binaryNumber),
  .node "boolean literal" (choice ["true", "false"]),
  .group "string literal" (choice [r "line string literal", r "multi line string literal",
    r "raw string literal"]),
  .node "line string literal" (seq ["\"",
    many (choice [part "text" (r "line string content"), r "interpolation"]), "\""]),
  .group "line string content" (choice [r "line str text", r "str escaped char"]),
  .node "line str text" (lexeme stringText),
  .node "str escaped char" (choice [r "escaped identifier", r "uni character literal"]),
  .group "uni character literal" (seq ["\\", "u", lexeme characterCode]),
  .node "multi line string literal" (seq ["\"\"\"",
    many (choice [part "text" (r "multi line string content"), r "interpolation"]), "\"\"\""]),
  .node "raw string literal" (seq [
    many (seq [part "text" (r "raw str part"), part "interpolation" (r "raw str interpolation"),
      opt (r "raw str continuing indicator")]),
    part "text" (r "raw str end part")]),
  .node "raw str interpolation" (seq [r "raw str interpolation start", r "interpolation contents",
    ")"]),
  .node "raw str interpolation start" (lexeme (.all ["\\", .many "#", "("])),
  .group "multi line string content" (choice [r "multi line str text", r "str escaped char", "\""]),
  .group "interpolation" (seq ["\\(", r "interpolation contents", ")"]),
  .group "interpolation contents"
    (list (part "interpolation" (called "interpolated expression" (r "value argument")))),
  .group "escaped identifier" (lexeme (.all ["\\", oneOf "0\\tnr\"'\n"])),
  .node "multi line str text" (lexeme stringText),
  .node "regex literal" (choice [r "extended regex literal", r "multiline regex literal",
    r "oneline regex literal"]),
  .group "extended regex literal" (seq [r "hash symbol", lexeme extendedPattern]),
  .group "multiline regex literal" (seq [r "hash symbol", lexeme "/\n", lexeme patternLines]),
  .group "oneline regex literal" (preferring (-4) (lexeme slashedPattern))]

def types : List Entry := [
  .node "type annotation" (seq [":",
    part "type" (left 0 (r "possibly implicitly unwrapped type"))]),
  .group "possibly implicitly unwrapped type" (seq [r "type", opt (tight "!")]),
  .group "type" (right (-1) (seq [opt (r "type modifiers"), part "name" (r "unannotated type")])),
  .group "unannotated type" (right (-1) (choice [r "user type", r "tuple type", r "function type",
    r "array type", r "dictionary type", r "optional type", r "metatype", r "opaque type",
    r "existential type", r "protocol composition type", r "type parameter pack",
    r "type pack expansion", r "suppressed constraint"])),
  .node "user type" (listBy (r "dot") (r "simple user type")),
  .group "simple user type" (right (-1) (seq [called "type identifier" (r "simple identifier"),
    opt (r "type arguments")])),
  .node "tuple type" (choice [parens [opt (list (part "element" (r "tuple type item")))],
    called "tuple type item" (r "parenthesized type")]),
  .node "tuple type item" (rank (-1) (seq [opt (r "tuple type item identifier"),
    opt (r "parameter modifiers"), part "type" (r "type")])),
  .group "tuple type item identifier" (rank (-1) (seq [opt (r "wildcard pattern"),
    part "name" (r "simple identifier"), ":"])),
  .node "function type" (seq [part "params" (choice [r "tuple type", r "unannotated type"]),
    opt (r "async keyword"), opt (r "throws"), r "arrow operator", part "return type" (r "type")]),
  .node "array type" (brackets [part "element" (r "type")]),
  .node "dictionary type" (brackets [part "key" (r "type"), ":", part "value" (r "type")]),
  .node "optional type" (left 0 (seq [
    part "wrapped" (choice [r "user type", r "tuple type", r "array type", r "dictionary type"]),
    manyOf (spelled "?" (r "immediate quest"))])),
  .node "metatype" (seq [r "unannotated type", ".", choice ["Type", "Protocol"]]),
  .group "quest" "?",
  .group "immediate quest" (tight "?"),
  .node "opaque type" (right 0 (seq ["some", r "unannotated type"])),
  .node "existential type" (right 0 (seq ["any", r "unannotated type"])),
  .node "type parameter pack" (left 0 (seq ["each", r "unannotated type"])),
  .node "type pack expansion" (left 0 (seq ["repeat", r "unannotated type"])),
  .node "protocol composition type" (left 0 (seq [r "unannotated type",
    manyOf (seq ["&", right 0 (r "unannotated type")])])),
  .node "suppressed constraint" (right 0 (seq ["~",
    part "suppressed" (called "type identifier" (r "simple identifier"))]))]

/-- Expressions with one operand. -/
def expressions : List Entry := [
  .group "expression" (rank (-1) (choice [r "simple identifier", r "unary expression",
    r "binary expression", r "ternary expression", r "primary expression", r "if statement",
    r "switch statement", r "assignment", r "value parameter pack", r "value pack expansion",
    seq [r "expression", spelled "?" (r "immediate quest")]])),
  .group "unary expression" (choice [r "postfix expression", r "call expression",
    r "constructor expression", r "navigation expression", r "prefix expression", r "as expression",
    r "selector expression", r "open start range expression", r "open end range expression",
    r "directive", r "diagnostic"]),
  .node "postfix expression" (left 6 (seq [part "target" (r "expression"),
    part "operation" (r "postfix unary operator")])),
  .node "constructor expression" (rank (-2) (seq [
    part "constructed type" (choice [r "array type", r "dictionary type", r "user type"]),
    r "constructor suffix"])),
  .group "parenthesized type" (parens [
    part "type" (choice [r "opaque type", r "existential type", r "dictionary type"])]),
  .node "navigation expression" (left (-1) (seq [
    part "target" (choice [r "navigable type expression", r "expression", r "parenthesized type"]),
    part "suffix" (r "navigation suffix")])),
  .group "navigable type expression" (choice [r "user type", r "array type", r "dictionary type"]),
  .node "open start range expression" (right (-1) (seq [r "range operator",
    right (-2) (part "end" (r "expression"))])),
  .group "range operator" (choice [r "open ended range operator", r "three dot operator"]),
  .node "open end range expression" (right (-1) (seq [part "start" (r "expression"),
    right (-2) (r "three dot operator")])),
  .node "prefix expression" (left 7 (seq [part "operation" (r "prefix unary operator"),
    part "target" (choice [r "expression",
      called " expression" (choice ["async", "if", "switch"])])])),
  .node "as expression" (left (-1) (seq [part "expr" (r "expression"), r "as operator",
    part "type" (r "type")])),
  .node "selector expression" (seq [r "hash symbol", "selector", "(",
    opt (choice ["getter:", "setter:"]), r "expression", ")"])]

/-- Expressions with two operands. -/
def operations : List Entry := [
  .group "binary expression" (choice [r "multiplicative expression", r "additive expression",
    r "range expression", r "infix expression", r "nil coalescing expression", r "check expression",
    r "equality expression", r "comparison expression", r "conjunction expression",
    r "disjunction expression", r "bitwise operation"]),
  .node "multiplicative expression" (left 11 (seq [part "lhs" (r "expression"),
    part "op" (r "multiplicative operator"), part "rhs" (r "expression")])),
  .node "additive expression" (left 10 (seq [part "lhs" (r "expression"),
    part "op" (r "additive operator"), part "rhs" (r "expression")])),
  .node "range expression" (right (-1) (seq [part "start" (r "expression"),
    part "op" (r "range operator"), part "end" (r "operand")])),
  .node "infix expression" (left 9 (seq [part "lhs" (r "expression"),
    part "op" (r "custom operator"), part "rhs" (r "operand")])),
  .node "nil coalescing expression" (right 8 (seq [part "value" (r "expression"),
    r "nil coalescing operator", part "if nil" (r "operand")])),
  .node "check expression" (left 7 (seq [part "target" (r "expression"),
    part "op" (r "is operator"), part "type" (r "type")])),
  .node "comparison expression" (left 6 (seq [part "lhs" (r "expression"),
    part "op" (r "comparison operator"), part "rhs" (r "operand")])),
  .node "equality expression" (left 5 (seq [part "lhs" (r "expression"),
    part "op" (r "equality operator"), part "rhs" (r "operand")])),
  .node "conjunction expression" (left 4 (seq [part "lhs" (r "expression"),
    part "op" (r "conjunction operator"), part "rhs" (r "operand")])),
  .node "disjunction expression" (left 3 (seq [part "lhs" (r "expression"),
    part "op" (r "disjunction operator"), part "rhs" (r "operand")])),
  .node "bitwise operation" (left 0 (seq [part "lhs" (r "expression"),
    part "op" (r "bitwise binary operator"), part "rhs" (r "operand")])),
  .node "custom operator" (choice [lexeme (.all [.oneOrMore (oneOf "/"), .oneOrMore (oneOf "*")]),
    r "source operator"])]

/-- Members and calls. -/
def calls : List Entry := [
  .node "navigation suffix" (seq [r "dot",
    part "suffix" (choice [r "simple identifier", r "integer literal"])]),
  .node "call suffix" (rank (-2) (choice [r "value arguments",
    weighted (-1) (r "fn call lambda arguments"),
    seq [r "value arguments", r "fn call lambda arguments"]])),
  .node "constructor suffix" (rank (-2) (choice [
    called "value arguments" (r "constructor value arguments"),
    weighted (-1) (r "fn call lambda arguments"),
    seq [called "value arguments" (r "constructor value arguments"),
      r "fn call lambda arguments"]])),
  .group "constructor value arguments" (parens [opt (list (r "value argument"))]),
  .group "fn call lambda arguments"
    (listBy (seq [part "name" (r "simple identifier"), ":"]) (r "lambda literal")),
  .node "type arguments" (left 0 (seq ["<", list (r "type"), ">"])),
  .node "value arguments" (seq [
    choice [parens [opt (list (r "value argument"))], brackets [opt (list (r "value argument"))]]]),
  .node "value argument label" (left 0 (choice [r "simple identifier",
    called "simple identifier" "if", called "simple identifier" "switch"])),
  .node "value argument" (left 0 (seq [opt (r "type modifiers"),
    choice [manyOf (seq [part "reference specifier" (r "value argument label"), ":"]),
      seq [opt (seq [part "name" (r "value argument label"), ":"]),
        part "value" (r "expression")]]])),
  .node "try expression" (right (-2) (seq [r "try operator",
    part "expr" (choice [right (-2) (r "expression"), left 0 (r "binary expression"),
      left 0 (r "call expression"), weighted 1 (left (-1) (r "ternary expression"))])])),
  .node "await expression" (right (-2) (seq [r "await operator",
    part "expr" (choice [right (-2) (r "expression"), left 0 (r "call expression"),
      weighted 1 (left (-1) (r "ternary expression"))])])),
  .group "await operator" (spelled "await" "await"),
  .node "ternary expression" (right (-2) (seq [part "condition" (r "expression"), r "quest",
    part "if true" (r "expression"), ":", part "if false" (r "operand")])),
  .group "operand" (left (-2) (choice [r "expression",
    called "call expression" (r "operand call")])),
  .node "operand call" (seq [r "expression", called "call suffix" (r "operand call suffix")]),
  .node "operand call suffix" (rank (-2) (r "value arguments")),
  .node "call expression" (rank (-2) (weighted 1 (seq [r "expression", r "call suffix"])))]

/-- Values that are written down in expressions. -/
def values : List Entry := [
  .group "primary expression" (choice [r "tuple expression", r "basic literal", r "lambda literal",
    r "special literal", r "playground literal", r "array literal", r "dictionary literal",
    r "self expression", r "super expression", r "try expression", r "await expression",
    r "referenceable operator", r "key path expression", r "key path string expression",
    right (-1) (called "fully open range" (r "three dot operator"))]),
  .node "tuple expression" (right (-1) (parens [
    list (seq [opt (seq [part "name" (r "simple identifier"), ":"]),
      part "value" (r "expression")])])),
  .node "array literal" (brackets [opt (list (part "element" (r "expression"))), opt ","]),
  .node "dictionary literal" (brackets [choice [":", list (r "dictionary literal item")], opt ","]),
  .group "dictionary literal item" (seq [part "key" (r "expression"), ":",
    part "value" (r "expression")]),
  .node "special literal" (seq [r "hash symbol",
    choice ["file", "fileID", "filePath", "line", "column", "function", "dsohandle"]]),
  .node "playground literal" (seq [r "hash symbol",
    choice ["colorLiteral", "fileLiteral", "imageLiteral"], "(",
    list (seq [r "simple identifier", ":", r "expression"]), ")"])]

def closures : List Entry := [
  .node "lambda literal" (left (-3) (seq [choice ["\x7b", "^\x7b"],
    opt (r "lambda type declaration"), opt (r "statements"), "\x7d"])),
  .group "lambda type declaration" (seq [many (r "attribute"),
    rank (-1) (opt (part "captures" (r "capture list"))),
    opt (part "type" (r "lambda function type")), "in"]),
  .node "capture list" (brackets [list (r "capture list item")]),
  .node "capture list item" (choice [part "name" (r "self expression"),
    rank (-1) (seq [opt (r "ownership modifier"), part "name" (r "simple identifier"),
      opt (seq [r "equal sign", part "value" (r "expression")])])]),
  .node "lambda function type" (rank (-1) (seq [
    choice [r "lambda function type parameters",
      parens [opt (r "lambda function type parameters")]],
    opt (r "async keyword"), opt (r "throws"),
    opt (seq [r "arrow operator", part "return type" (r "possibly implicitly unwrapped type")])])),
  .node "lambda function type parameters" (list (r "lambda parameter")),
  .node "lambda parameter" (seq [
    choice [r "self expression", rank (-1) (part "name" (r "simple identifier")),
      rank (-1) (seq [opt (part "external name" (r "simple identifier")),
        part "name" (r "simple identifier"), ":", opt (r "parameter modifiers"),
        part "type" (r "possibly implicitly unwrapped type")])]])]

/-- Conditional statements, and paths of keys. -/
def conditionals : List Entry := [
  .node "self expression" "self",
  .node "super expression" (seq ["super"]),
  .group "else options" (choice [r "block", r "if statement"]),
  .node "if statement" (right (-1) (seq ["if",
    list (part "condition" (r "if condition sequence item")), r "block",
    opt (seq [r "else", r "else options"])])),
  .group "if condition sequence item" (choice [r "if let binding", r "expression",
    r "availability condition"]),
  .group "if let binding" (seq [r "direct or indirect binding",
    opt (seq [r "equal sign", r "expression"]), opt (r "where clause")]),
  .node "guard statement" (right (-1) (seq ["guard",
    list (part "condition" (r "if condition sequence item")), r "else", r "block"])),
  .node "switch statement" (right (-1) (seq ["switch", part "expr" (r "expression"), "\x7b",
    many (r "switch entry"), "\x7d"])),
  .node "switch entry" (seq [opt (r "modifiers"),
    choice [
      seq ["case", seq [r "switch pattern", opt (seq [r "where keyword", r "expression"])],
        many (seq [",", r "switch pattern"])],
      r "default keyword"],
    ":", r "statements", opt "fallthrough"]),
  .node "switch pattern" (called "pattern" (r "binding pattern with expr")),
  .node "do statement" (right (-1) (seq ["do", r "block", many (r "catch block")])),
  .node "catch block" (seq [r "catch keyword",
    part "error" (opt (called "pattern" (r "binding pattern no expr"))), opt (r "where clause"),
    r "block"]),
  .node "where clause" (left 0 (seq [r "where keyword", r "expression"])),
  .node "key path expression" (right 1 (seq ["\\",
    opt (choice [r "simple user type", r "array type", r "dictionary type"]),
    many (seq [".", r "key path component"])])),
  .node "key path string expression" (left 0 (seq [r "hash symbol", "keyPath", "(", r "expression",
    ")"])),
  .group "key path component" (left 0 (choice [
    seq [r "simple identifier", many (r "key path postfixes")], manyOf (r "key path postfixes")])),
  .group "key path postfixes" (choice ["?", r "bang", "self",
    brackets [opt (list (r "value argument"))]])]

def operators : List Entry := [
  .node "try operator" (right 0 (seq ["try",
    choice [opt (r "try operator type"), r "attached bang"]])),
  .group "try operator type" (choice [tight "!", tight "?"]),
  .group "assignment and operator" (choice ["+=", "-=", "*=", "/=", "%=", r "equal sign"]),
  .group "equality operator" (choice ["!=", "!==", r "eq eq", "==="]),
  .group "comparison operator" (choice ["<", ">", "<=", ">="]),
  .group "three dot operator" (spelled "..." "..."),
  .group "open ended range operator" (spelled "..<" "..<"),
  .group "is operator" "is",
  .group "additive operator" (choice [spelled "+" (r "plus then ws"),
    spelled "-" (r "minus then ws"), "+", "-"]),
  .group "multiplicative operator" (choice ["*", spelled "/" (preferring (-4) "/"), "%"]),
  .node "as operator" (choice [r "as", r "as quest", r "as bang"]),
  .group "prefix unary operator" (right 0 (choice ["++", "--", "-", "+", r "bang", "&", "~",
    r "dot", r "custom operator"])),
  .group "bitwise binary operator" (choice ["&", "|", "^", "<<", ">>"]),
  .group "postfix unary operator" (choice ["++", "--", r "bang"])]

def statements : List Entry := [
  .node "directly assignable expression" (r "expression"),
  .node "statements" (left 0 (openListBy (r "semi") (r "local statement"))),
  .group "local statement" (choice [r "expression", r "local declaration", r "labeled statement",
    r "control transfer statement", r "throw statement"]),
  .group "top level statement" (choice [r "expression", r "global declaration",
    r "labeled statement", r "throw statement"]),
  .group "block" (rank 2 (braces [opt (r "statements")])),
  .group "labeled statement" (seq [opt (r "statement label"),
    choice [r "for statement", r "while statement", r "repeat while statement", r "do statement",
      r "if statement", r "guard statement", r "switch statement"]]),
  .node "statement label" (lexeme label),
  .node "for statement" (rank 1 (seq ["for", opt (r "try operator"), opt (r "await operator"),
    part "item" (called "pattern" (r "binding pattern no expr")), opt (r "type annotation"), "in",
    part "collection" (r "for statement collection"), opt (r "where clause"), r "block"])),
  .group "for statement collection" (choice [r "expression",
    called "await expression" (r "for statement await")]),
  .node "for statement await" (seq [r "await operator", r "expression"]),
  .node "while statement" (rank 1 (seq ["while",
    list (part "condition" (r "if condition sequence item")), "\x7b", opt (r "statements"),
    "\x7d"])),
  .node "repeat while statement" (rank 1 (seq ["repeat", "\x7b", opt (r "statements"), "\x7d",
    many (r "implicit semi"), "while", list (part "condition" (r "if condition sequence item"))])),
  .node "control transfer statement" (choice [
    right 0 (seq [r "optionally valueful control keyword", part "result" (opt (r "expression"))])]),
  .group "throw statement" (seq [r "throw keyword", r "expression"]),
  .node "throw keyword" "throw",
  .group "optionally valueful control keyword" (choice ["return", "continue", "break", "yield"]),
  .node "assignment" (left (-3) (seq [part "target" (r "directly assignable expression"),
    part "operator" (r "assignment and operator"), part "result" (r "expression")])),
  .node "value parameter pack" (left 1 (seq ["each", r "expression"])),
  .node "value pack expansion" (left 1 (seq ["repeat", r "expression"])),
  .node "availability condition" (seq [r "hash symbol", choice ["available", "unavailable"], "(",
    list (r "availability argument"), ")"]),
  .group "availability argument" (choice [seq [r "identifier", listBy "." (r "integer literal")],
    "*"])]

def declarations : List Entry := [
  .group "global declaration" (choice [r "import declaration", r "property declaration",
    r "typealias declaration", r "function declaration", r "init declaration",
    r "class declaration", r "protocol declaration", r "operator declaration",
    r "precedence group declaration", r "associatedtype declaration"]),
  .group "type level declaration" (choice [r "import declaration", r "property declaration",
    r "typealias declaration", r "function declaration", r "init declaration",
    r "class declaration", r "protocol declaration", r "deinit declaration",
    r "subscript declaration", r "operator declaration", r "precedence group declaration",
    r "associatedtype declaration"]),
  .group "local declaration" (choice [
    called "property declaration" (r "local property declaration"),
    called "typealias declaration" (r "local typealias declaration"),
    called "function declaration" (r "local function declaration"),
    called "class declaration" (r "local class declaration")]),
  .group "local property declaration" (seq [opt (r "locally permitted modifiers"),
    r "modifierless property declaration"]),
  .group "local typealias declaration" (seq [opt (r "locally permitted modifiers"),
    r "modifierless typealias declaration"]),
  .group "local function declaration" (seq [opt (r "locally permitted modifiers"),
    r "modifierless function declaration"]),
  .group "local class declaration" (seq [opt (r "locally permitted modifiers"),
    r "modifierless class declaration"]),
  .node "import declaration" (seq [opt (r "modifiers"), "import", opt (r "import kind"),
    r "identifier"]),
  .group "import kind" (choice ["typealias", "struct", "class", "enum", "protocol", "let", "var",
    "func"]),
  .node "protocol property declaration" (right 0 (seq [opt (r "modifiers"),
    part "name" (called "pattern" (r "binding kind and pattern")), opt (r "type annotation"),
    opt (r "type constraints"), r "protocol property requirements"])),
  .node "protocol property requirements" (braces [
    many (choice [r "getter specifier", r "setter specifier"])]),
  .node "property declaration" (seq [opt (r "modifiers"), r "modifierless property declaration"]),
  .group "modifierless property declaration" (right 0 (seq [r "possibly async binding pattern kind",
    list (r "single modifierless property declaration")])),
  .group "single modifierless property declaration" (left 0 (seq [
    part "name" (called "pattern" (r "no expr pattern already bound")), opt (r "type annotation"),
    opt (r "type constraints"),
    opt (choice [r "expression with willset didset", r "expression without willset didset",
      r "willset didset block", part "computed value" (r "computed property")])])),
  .group "expression with willset didset" (weighted 1 (seq [r "equal sign",
    part "value" (r "expression"), r "willset didset block"])),
  .group "expression without willset didset" (seq [r "equal sign", part "value" (r "expression")]),
  .node "willset didset block" (choice [braces [r "willset clause", opt (r "didset clause")],
    braces [r "didset clause", opt (r "willset clause")]]),
  .node "willset clause" (seq [opt (r "modifiers"), "willSet", opt (parens [r "simple identifier"]),
    r "block"]),
  .node "didset clause" (seq [opt (r "modifiers"), "didSet", opt (parens [r "simple identifier"]),
    r "block"]),
  .node "typealias declaration" (seq [opt (r "modifiers"), r "modifierless typealias declaration"]),
  .group "modifierless typealias declaration" (seq ["typealias",
    part "name" (called "type identifier" (r "simple identifier")), opt (r "type parameters"),
    r "equal sign", part "value" (r "type")])]

/-- Functions and classes. -/
def classes : List Entry := [
  .node "function declaration" (right 0 (seq [r "bodyless function declaration",
    part "body" (r "function body")])),
  .group "modifierless function declaration" (right 0 (seq [
    r "modifierless function declaration no body", part "body" (r "function body")])),
  .group "bodyless function declaration" (seq [opt (r "modifiers"), opt "class",
    r "modifierless function declaration no body"]),
  .group "modifierless function declaration no body" (right 0 (seq [
    r "non constructor function decl", opt (r "type parameters"), r "function value parameters",
    opt (r "async keyword"), opt (r "throws"),
    opt (seq [r "arrow operator", part "return type" (r "possibly implicitly unwrapped type")]),
    opt (r "type constraints")])),
  .node "function body" (r "block"),
  .node "class declaration" (seq [opt (r "modifiers"), r "modifierless class declaration"]),
  .group "modifierless class declaration" (right 0 (choice [
    seq [part "declaration kind" (choice ["class", "struct", "actor"]),
      part "name" (called "type identifier" (r "simple identifier")), opt (r "type parameters"),
      opt (seq [":", r "inheritance specifiers"]), opt (r "type constraints"),
      part "body" (r "class body")],
    seq [part "declaration kind" "extension", part "name" (r "unannotated type"),
      opt (r "type parameters"), opt (seq [":", r "inheritance specifiers"]),
      opt (r "type constraints"), part "body" (r "class body")],
    seq [opt "indirect", part "declaration kind" "enum",
      part "name" (called "type identifier" (r "simple identifier")), opt (r "type parameters"),
      opt (seq [":", r "inheritance specifiers"]), opt (r "type constraints"),
      part "body" (r "enum class body")]])),
  .node "class body" (braces [opt (r "class member declarations")]),
  .group "inheritance specifiers"
    (left 0 (listBy (choice [",", "&"]) (r "annotated inheritance specifier"))),
  .node "inheritance specifier" (left 0 (part "inherits from" (choice [r "user type",
    r "function type", r "suppressed constraint"]))),
  .group "annotated inheritance specifier" (seq [many (r "attribute"), r "inheritance specifier"])]

def parameters : List Entry := [
  .node "type parameters" (seq ["<", list (r "type parameter"), opt (r "type constraints"), ">"]),
  .node "type parameter" (seq [opt (r "type parameter modifiers"),
    r "type parameter possibly packed", opt (seq [":", r "type"])]),
  .group "type parameter possibly packed" (choice [called "type identifier" (r "simple identifier"),
    r "type parameter pack"]),
  .node "type constraints" (right 0 (seq [r "where keyword", list (r "type constraint")])),
  .node "type constraint" (choice [r "inheritance constraint", r "equality constraint"]),
  .node "inheritance constraint" (seq [many (r "attribute"),
    part "constrained type" (r "constrained type"), ":",
    part "inherits from" (r "possibly implicitly unwrapped type")]),
  .node "equality constraint" (seq [many (r "attribute"),
    part "constrained type" (r "constrained type"), choice [r "equal sign", r "eq eq"],
    part "must equal" (r "type")]),
  .group "constrained type" (choice [r "identifier",
    seq [r "unannotated type", opt (seq [".", listBy "." (r "simple identifier")])]]),
  .group "class member separator" (choice [r "semi", r "multiline comment"]),
  .group "class member declarations" (seq [
    listBy (r "class member separator") (r "type level declaration"),
    opt (r "class member separator")]),
  .group "function value parameters" (manyOf (parens [opt (list (r "function value parameter"))])),
  .group "function value parameter" (seq [opt (r "attribute"), r "parameter",
    opt (seq [r "equal sign", part "default value" (r "expression")])]),
  .node "parameter" (seq [opt (part "external name" (r "simple identifier")),
    part "name" (r "simple identifier"), ":", opt (r "parameter modifiers"),
    part "type" (r "possibly implicitly unwrapped type"), opt (r "three dot operator")]),
  .group "non constructor function decl" (seq ["func",
    part "name" (choice [r "simple identifier", r "referenceable operator"])]),
  .group "referenceable operator" (choice [r "custom operator", r "comparison operator",
    r "additive operator", r "multiplicative operator", r "equality operator",
    r "comparison operator", r "assignment and operator", "++", "--", r "bang", "~", "|", "^", "<<",
    ">>", "&"])]

/-- Signs that are read with regard to what is around them. -/
def signs : List Entry := [
  .group "equal sign" (spelled "=" (r "eq custom")),
  .group "eq eq" (spelled "==" (r "eq eq custom")),
  .group "dot" (spelled "." (r "dot custom")),
  .group "arrow operator" (spelled "->" (r "arrow operator custom")),
  .group "conjunction operator" (spelled "&&" (r "conjunction operator custom")),
  .group "disjunction operator" (spelled "||" (r "disjunction operator custom")),
  .group "nil coalescing operator" (spelled "??" (r "nil coalescing operator custom")),
  .group "as" (spelled "as" (r "as custom")),
  .group "as quest" (spelled "as?" (r "as quest custom")),
  .group "as bang" (spelled "as!" (r "as bang custom")),
  .group "hash symbol" (spelled "#" (r "hash symbol custom")),
  .node "bang" (choice [r "bang custom", "!"]),
  .group "async keyword" (spelled "async" (r "async keyword custom")),
  .group "async modifier" "async",
  .node "throws" (choice [r "throws keyword", r "rethrows keyword"])]

/-- Enumerations, protocols and accessors. -/
def bodies : List Entry := [
  .node "enum class body" (braces [many (choice [r "enum entry", r "type level declaration"])]),
  .node "enum entry" (seq [opt (r "modifiers"), opt "indirect", "case",
    list (seq [part "name" (r "simple identifier"), opt (r "enum entry suffix")]), opt ";"]),
  .group "enum entry suffix" (choice [part "data contents" (r "enum type parameters"),
    seq [r "equal sign", part "raw value" (r "expression")]]),
  .node "enum type parameters" (parens [
    opt (list (seq [opt (seq [opt (r "wildcard pattern"), r "simple identifier", ":"]), r "type",
      opt (seq [r "equal sign", r "expression"])]))]),
  .node "protocol declaration" (right 0 (seq [opt (r "modifiers"),
    part "declaration kind" "protocol",
    part "name" (called "type identifier" (r "simple identifier")), opt (r "type parameters"),
    opt (seq [":", r "inheritance specifiers"]), opt (r "type constraints"),
    part "body" (r "protocol body")])),
  .node "protocol body" (braces [opt (r "protocol member declarations")]),
  .group "protocol member declarations" (seq [listBy (r "semi") (r "protocol member declaration"),
    opt (r "semi")]),
  .group "protocol member declaration" (choice [
    called "protocol function declaration" (seq [r "bodyless function declaration",
      opt (part "body" (r "function body"))]),
    r "init declaration", r "deinit declaration", r "protocol property declaration",
    r "typealias declaration", r "associatedtype declaration", r "subscript declaration"]),
  .node "init declaration" (right 0 (seq [opt (r "modifiers"), opt "class", part "name" "init",
    opt (choice [r "quest", r "bang"]), opt (r "type parameters"), r "function value parameters",
    opt (r "async keyword"), opt (r "throws"), opt (r "type constraints"),
    opt (part "body" (r "function body"))])),
  .node "deinit declaration" (right 0 (seq [opt (r "modifiers"), "deinit",
    part "body" (r "function body")])),
  .node "subscript declaration" (right 0 (seq [opt (r "modifiers"), "subscript",
    opt (r "type parameters"), r "function value parameters",
    opt (seq [r "arrow operator", part "return type" (r "possibly implicitly unwrapped type")]),
    opt (r "type constraints"), r "computed property"])),
  .node "computed property" (braces [
    choice [opt (r "statements"),
      many (choice [r "computed getter", r "computed setter", r "computed modify"])]]),
  .node "computed getter" (seq [many (r "attribute"), r "getter specifier", opt (r "block")]),
  .node "computed modify" (seq [many (r "attribute"), r "modify specifier", opt (r "block")]),
  .node "computed setter" (seq [many (r "attribute"), r "setter specifier",
    opt (parens [r "simple identifier"]), opt (r "block")]),
  .node "getter specifier" (seq [opt (r "mutation modifier"), "get", opt (r "getter effects")]),
  .node "setter specifier" (seq [opt (r "mutation modifier"), "set"]),
  .node "modify specifier" (seq [opt (r "mutation modifier"), "_modify"]),
  .group "getter effects" (manyOf (choice [r "async keyword", r "throws"]))]

/-- Operators of the source, and attributes. -/
def attributes : List Entry := [
  .node "operator declaration" (seq [choice ["prefix", "infix", "postfix"], "operator",
    r "referenceable operator", opt (seq [":", r "simple identifier"]),
    opt (r "deprecated operator declaration body")]),
  .node "deprecated operator declaration body" (braces [
    many (choice [r "simple identifier", r "basic literal"])]),
  .node "precedence group declaration" (seq ["precedencegroup", r "simple identifier", "\x7b",
    opt (r "precedence group attributes"), "\x7d"]),
  .node "precedence group attributes" (manyOf (r "precedence group attribute")),
  .node "precedence group attribute" (seq [r "simple identifier", ":",
    choice [r "simple identifier", r "boolean literal"]]),
  .node "associatedtype declaration" (seq [opt (r "modifiers"), "associatedtype",
    part "name" (called "type identifier" (r "simple identifier")),
    opt (seq [":", part "must inherit" (r "type")]), opt (r "type constraints"),
    opt (seq [r "equal sign", part "default value" (r "type")])]),
  .node "attribute" (seq ["@", r "user type", opt (parens [list (r "attribute argument")])]),
  .group "attribute argument" (choice [seq [r "simple identifier", ":", r "expression"],
    r "expression", manyOf (seq [r "simple identifier", ":"]),
    seq [manyOf (r "simple identifier"), listBy "." (r "integer literal")]])]

def patterns : List Entry := [
  .group "universally allowed pattern" (choice [r "wildcard pattern", r "tuple pattern",
    r "type casting pattern", r "case pattern"]),
  .group "bound identifier" (part "bound identifier" (r "simple identifier")),
  .group "binding pattern no expr" (seq [
    choice [r "universally allowed pattern", r "binding pattern", r "bound identifier"],
    opt (r "quest")]),
  .group "no expr pattern already bound" (seq [
    choice [r "universally allowed pattern", r "bound identifier"], opt (r "quest")]),
  .group "binding pattern with expr" (seq [
    choice [r "universally allowed pattern", r "binding pattern", r "expression"],
    opt (r "quest")]),
  .group "direct or indirect binding" (seq [
    choice [r "binding kind and pattern", seq ["case", r "binding pattern no expr"]],
    opt (r "type annotation")]),
  .node "value binding pattern" (part "mutability" (choice ["var", "let"])),
  .group "possibly async binding pattern kind" (seq [opt (r "async modifier"),
    r "value binding pattern"]),
  .group "binding kind and pattern" (seq [r "possibly async binding pattern kind",
    r "no expr pattern already bound"]),
  .node "wildcard pattern" "_",
  .group "tuple pattern item" (choice [
    seq [r "simple identifier", seq [":", called "pattern" (r "binding pattern with expr")]],
    called "pattern" (r "binding pattern with expr")]),
  .group "tuple pattern" (parens [list (r "tuple pattern item")]),
  .group "case pattern" (seq [opt "case", opt (r "user type"), r "dot", r "simple identifier",
    opt (r "tuple pattern")]),
  .group "type casting pattern" (choice [seq ["is", r "type"],
    seq [called "pattern" (r "binding pattern no expr"), r "as", r "type"]]),
  .group "binding pattern" (seq [seq [opt "case", r "value binding pattern"],
    r "no expr pattern already bound"])]

def modifiers : List Entry := [
  .node "modifiers" (manyOf (left 0 (choice [r "non local scope modifier",
    r "locally permitted modifiers"]))),
  .group "locally permitted modifiers" (manyOf (choice [r "attribute",
    r "locally permitted modifier"])),
  .node "parameter modifiers" (manyOf (r "parameter modifier")),
  .group "non local scope modifier" (choice [r "member modifier", r "visibility modifier",
    r "function modifier", r "mutation modifier", r "property modifier", r "parameter modifier"]),
  .group "locally permitted modifier" (choice [r "ownership modifier", r "inheritance modifier",
    r "property behavior modifier"]),
  .node "property behavior modifier" "lazy",
  .node "type modifiers" (manyOf (r "attribute")),
  .node "member modifier" (choice ["override", "convenience", "required", "nonisolated"]),
  .node "visibility modifier" (seq [
    choice ["public", "private", "internal", "fileprivate", "open", "package"],
    opt (parens ["set"])]),
  .node "type parameter modifiers" (manyOf (r "attribute")),
  .node "function modifier" (choice ["infix", "postfix", "prefix"]),
  .node "mutation modifier" (choice ["mutating", "nonmutating"]),
  .node "property modifier" (choice ["static", "dynamic", "optional", "class", "distributed"]),
  .node "inheritance modifier" (choice ["final"]),
  .node "parameter modifier" (choice ["inout", "@escaping", "@autoclosure",
    r "parameter ownership modifier"]),
  .node "ownership modifier" (choice ["weak", "unowned", "unowned(safe)", "unowned(unsafe)"]),
  .group "parameter ownership modifier" (choice ["borrowing", "consuming"]),
  .node "directive" (right (-3) (choice [
    seq [spelled "#if" (r "directive if"), r "compilation condition"],
    seq [spelled "#elseif" (r "directive elseif"), r "compilation condition"],
    seq [spelled "#else" (r "directive else")], seq [spelled "#endif" (r "directive endif")]])),
  .group "compilation condition" (right 0 (choice [seq ["os", "(", r "simple identifier", ")"],
    seq ["arch", "(", r "simple identifier", ")"],
    seq ["swift", "(", r "comparison operator", listBy "." (r "integer literal"), ")"],
    seq ["compiler", "(", r "comparison operator", listBy "." (r "integer literal"), ")"],
    seq ["canImport", "(", listBy "." (r "simple identifier"), ")"],
    seq ["targetEnvironment", "(", r "simple identifier", ")"], r "boolean literal",
    r "simple identifier", parens [r "compilation condition"], seq ["!", r "compilation condition"],
    seq [r "compilation condition", r "conjunction operator", r "compilation condition"],
    seq [r "compilation condition", r "disjunction operator", r "compilation condition"]])),
  .node "diagnostic" (rank (-3) (seq [r "hash symbol",
    choice [lexeme (.all ["error", restOfLine]), lexeme (.all ["warning", restOfLine])]]))]

def rules : List Entry :=
  names ++ literals ++ types ++ expressions ++ operations ++ calls ++ values ++
    closures ++ conditionals ++ operators ++ statements ++ declarations ++ classes ++
    parameters ++ signs ++ bodies ++ attributes ++ patterns ++ modifiers

end SdkAudit.Swift
