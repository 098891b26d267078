import SdkAudit.Grammar.Shape

/-!
# Lexemes of Java

The shapes of those lexemes of Java that are no words: names, numbers, characters and comments.

* `Java.name`: a name;
* `Java.decimal`, `Java.fraction`: numbers without and with a fraction;
* `Java.blockComment`: a comment that is closed by a mark of its own.
-/

namespace SdkAudit.Java

open Grammar

def blank : CharClass := { ranges := [('\t', '\r'), (' ', ' ')] }

def name : Shape :=
  .all [.one { ranges := [('_', '_'), ('$', '$')], properties := [.identifierStart] },
    .many (.one {
      ranges := [('\u00a2', '\u00a2'), ('_', '_'), ('$', '$')], properties := [.identifierPart] })]

/-- Digits, between any two of which an underscore may stand. -/
def digitsOf (digit : Shape) : Shape :=
  .all [.oneOrMore digit, .many (.all ["_", .oneOrMore digit])]

/-- A decimal number without leading zeros. -/
def plainDigits : Shape :=
  .any ["0", .all [inRanges [('1', '9')], .optional (.all [.optional "_", .oneOrMore digit,
    .many (.all [.oneOrMore "_", .oneOrMore digit])])]]

def longMark : Shape := .optional (oneOf "lL")

def fractionMark : Shape := oneOf "fFdD"

/-- The power that ends a number with a fraction. -/
def exponent : Shape := .all [oneOf "eE", .optional (oneOf "-+"), digitsOf digit]

def decimal : Shape := .all [plainDigits, longMark]

def hexNumber : Shape := .all ["0", oneOf "xX", digitsOf hexDigit, longMark]

def octalNumber : Shape := .all ["0", .optional (oneOf "oO"), digitsOf octalDigit, longMark]

def binaryNumber : Shape := .all ["0", oneOf "bB", digitsOf binaryDigit, longMark]

def fraction : Shape :=
  .any [
    .all [digitsOf digit, ".", .optional (digitsOf digit), .optional exponent,
      .optional fractionMark],
    .all [".", digitsOf digit, .optional exponent, .optional fractionMark],
    .all [plainDigits, exponent, .optional fractionMark],
    .all [plainDigits, .optional exponent, fractionMark]]

def hexFraction : Shape :=
  .all ["0", oneOf "xX",
    .any [.all [digitsOf hexDigit, .optional "."],
      .all [.optional (digitsOf hexDigit), ".", digitsOf hexDigit]],
    .optional (.all [exponent, .optional fractionMark])]

def character : Shape :=
  .all ["'", .oneOrMore (.any [noneOf "\\'\n", .all ["\\", noneOf "\n"], "\\\n"]), "'"]

def escape : Shape :=
  .all ["\\", .any [notInRanges [('x', 'x'), ('u', 'u'), ('0', '7')], .between 1 3 octalDigit,
    .all ["x", .times 2 hexDigit], .all ["u", .times 4 hexDigit],
    .all ["u\x7b", .oneOrMore hexDigit, "\x7d"]]]

def lineComment : Shape := .all ["//", .many (noneOf "\n")]

/-- A comment that is closed by a mark of its own. -/
def blockComment : Shape :=
  .all ["/*", .many (noneOf "*"), .oneOrMore "*",
    .many (.all [noneOf "/*", .many (noneOf "*"), .oneOrMore "*"]), "/"]

end SdkAudit.Java
