import SdkAudit.Grammar.Shape

/-!
# Lexemes of scripts

The shapes of those lexemes of scripts that are no words: names, numbers, comments, escapes, regular
expressions, and the texts and references of markup.

* `Script.name`: a name;
* `Script.number`: a number in any notation;
* `Script.comment`: a comment of either kind.
-/

namespace SdkAudit.Script

open Grammar

/-- Characters that end a name; spaces end one too. -/
def breaks : List (Char × Char) := [
  ('\x00', '#'), ('%', '/'), (':', '@'), ('[', '^'), ('\x60', '\x60'), ('\x7b', '~'),
  ('\u200b', '\u200b'), ('\u2028', '\u2029'), ('\u2060', '\u2060'), ('\ufeff', '\ufeff')]

def blank : CharClass := {
  ranges := [('\t', '\r'), ('\u200b', '\u200b'), ('\u2028', '\u2029'), ('\u2060', '\u2060'),
    ('\ufeff', '\ufeff')]
  properties := [.space] }

/-- A character of a name that is written as its code. -/
def codedChar : Shape :=
  .any [.all ["\\u", .times 4 hexDigit], .all ["\\u\x7b", .oneOrMore hexDigit, "\x7d"]]

def nameStart : Shape :=
  .any [.one { ranges := ('0', '9') :: breaks, properties := [.space], negated := true }, codedChar]

def namePart : Shape :=
  .any [.one { ranges := breaks, properties := [.space], negated := true }, codedChar]

def name : Shape := .all [nameStart, .many namePart]

/-- A name that is known only inside a class. -/
def privateName : Shape := .all ["#", nameStart, .many namePart]

/-- Digits, between any two of which an underscore may stand. -/
def digitsOf (digit : Shape) : Shape := .all [digit, .many (.all [.optional "_", digit])]

def digits : Shape := digitsOf digit

/-- The power of ten that ends a number. -/
def exponent : Shape := .all [oneOf "eE", .optional (oneOf "-+"), digits]

def wholePart : Shape :=
  .any ["0", .all [.optional "0", inRanges [('1', '9')],
    .optional (.all [.optional "_", digits])]]

def hexNumber : Shape := .all ["0", oneOf "xX", digitsOf hexDigit]

def binaryNumber : Shape := .all ["0", oneOf "bB", digitsOf binaryDigit]

def octalNumber : Shape := .all ["0", oneOf "oO", digitsOf octalDigit]

def number : Shape :=
  .any [hexNumber, .all [wholePart, ".", .optional digits, .optional exponent],
    .all [".", digits, .optional exponent], .all [wholePart, exponent], digits, binaryNumber,
    octalNumber, .all [.any [hexNumber, binaryNumber, octalNumber, digits], "n"]]

/-- A comment that is closed by a mark of its own. -/
def blockComment : Shape :=
  .all ["/*", .many (noneOf "*"), .oneOrMore "*",
    .many (.all [noneOf "/*", .many (noneOf "*"), .oneOrMore "*"]), "/"]

def comment : Shape := .any [.all ["//", .many (noneOf "\r\n\u2028\u2029")], blockComment]

def escape : Shape :=
  .all ["\\", .any [notInRanges [('x', 'x'), ('u', 'u'), ('0', '7')], .between 1 3 octalDigit,
    .all ["x", .times 2 hexDigit], .all ["u", .times 4 hexDigit],
    .all ["u\x7b", .oneOrMore hexDigit, "\x7d"], .all [oneOf "\r?", oneOf "\n\u2028\u2029"]]]

/-- What stands between the slashes of a regular expression. -/
def expressionPattern : Shape :=
  .oneOrMore (.any [
    .all ["[", .many (.any [.all ["\\", noneOf "\n"], noneOf "]\n\\"]), "]"],
    .all ["\\", noneOf "\n"], noneOf "/\\[\n"])

/-- A name in markup that has a hyphen in it. -/
def markupName : Shape :=
  let letters : List (Char × Char) := [('a', 'z'), ('A', 'Z'), ('_', '_'), ('$', '$')]
  .all [inRanges letters, .many (inRanges (('0', '9') :: letters)), "-",
    .many (inRanges (('0', '9') :: ('-', '-') :: letters))]

def markupReference : Shape :=
  .all ["&", .any [
    .all ["#", .any [.all [oneOf "xX", .between 1 6 hexDigit], .between 1 5 digit]],
    .between 1 30 (inRanges [('A', 'Z'), ('a', 'z')])], ";"]

/-- Text in a string of markup that such a quote closes. -/
def markupText (quote : String) : Shape :=
  .oneOrMore (.any [noneOf (quote ++ "&"),
    .all ["&", notInRanges [('#', '#'), ('A', 'Z'), ('a', 'z')]]])

end SdkAudit.Script
