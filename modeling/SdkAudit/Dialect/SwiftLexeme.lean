import SdkAudit.Grammar.Shape

/-!
# Lexemes of Swift

The shapes of those lexemes of Swift that are no words: names, numbers, comments, and the pieces of
strings and regular expressions.

* `Swift.name`: a name, which emoji can be part of;
* `Swift.fraction`: a number with a fraction;
* `Swift.slashedPattern`: a regular expression between slashes.
-/

namespace SdkAudit.Swift

open Grammar

def blank : CharClass := { ranges := [('\t', '\r'), (' ', ' ')] }

/-- What can follow an emoji and belongs to it. -/
def emojiSuffix : Shape :=
  .optional (.any [withProperty .emojiModifier, .all ["\ufe0f", .optional "\u20e3"]])

def name : Shape :=
  .all [
    .one { ranges := [('_', '_')], properties := [.identifierStart, .emoji]
           without := [('0', '9'), ('#', '#'), ('*', '*')] },
    emojiSuffix,
    .many (.all [
      .one { ranges := [('_', '_'), ('\u200d', '\u200d')]
             properties := [.identifierPart, .emoji] },
      emojiSuffix])]

def quotedName : Shape := .all ["\x60", .many (noneOf "\r\n\x60 "), "\x60"]

/-- Digits, between any two of which underscores may stand. -/
def digitsOf (digit : Shape) : Shape :=
  .all [.oneOrMore digit, .many (.all [.oneOrMore "_", .oneOrMore digit])]

/-- The power of ten that ends a number. -/
def exponent : Shape := .all [oneOf "eE", .optional (oneOf "+-"), digitsOf digit]

def fraction : Shape :=
  .any [.all [digitsOf digit, exponent],
    .all [.optional (digitsOf digit), ".", digitsOf digit, .optional exponent],
    .all ["0x", digitsOf hexDigit, .optional (.all [".", digitsOf hexDigit]), oneOf "pP",
      .optional (oneOf "+-"), digitsOf digit]]

def decimal : Shape := .all [.optional (inRanges [('1', '9')]), digitsOf digit]

def hexNumber : Shape := .all ["0", oneOf "xX", digitsOf hexDigit]

def octalNumber : Shape := .all ["0", oneOf "oO", digitsOf octalDigit]

def binaryNumber : Shape := .all ["0", oneOf "bB", digitsOf binaryDigit]

def stringText : Shape := .oneOrMore (noneOf "\\\"")

/-- The code of a character in a string. -/
def characterCode : Shape := .all ["\x7b", .oneOrMore hexDigit, "\x7d"]

def restOfLine : Shape := .many (noneOf "\r\n")

/-- A regular expression between slashes, closed by a number sign. -/
def extendedPattern : Shape :=
  .all ["/", .oneOrMore (.any [.all ["/", noneOf "#"], noneOf "\n"]), "/#"]

/-- The lines of a regular expression, closed by a slash and a number sign. -/
def patternLines : Shape :=
  .all [.many (.any [.all ["/", noneOf "#"], noneOf "/"]), "\n/#"]

def slashedPattern : Shape :=
  .all ["/", .optional (noneOf " \t\n"), .many (noneOf "/\n"), noneOf " \t\n/", "/"]

def label : Shape :=
  let letters : List (Char × Char) := [('a', 'z'), ('A', 'Z'), ('_', '_')]
  .all [inRanges letters, .many (inRanges (('0', '9') :: letters)), ":"]

end SdkAudit.Swift
