import SdkAudit.Decimal
import SdkAudit.Yaml.Scalar

/-!
# What plain scalars stand for

A scalar that is not quoted may stand for nothing, a truth value, a whole number, or a real number,
and for its own text otherwise.  Digits with a zero in front of them are no number.

* `PlainValue.ofText`: what a text stands for;
* `natural?`, `integer?`, `real?`: the numbers that a text may be.
-/

namespace SdkAudit.Yaml

def isNull (text : String) : Bool := ["null", "Null", "NULL", "~"].contains text

def boolean? (text : String) : Option Bool :=
  if ["true", "True", "TRUE"].contains text then some true
  else if ["false", "False", "FALSE"].contains text then some false
  else none

/-! ### Whole numbers -/

/-- A text without a sign in front of it. -/
def dropSign : List Char → List Char
  | '+' :: rest => rest
  | '-' :: rest => rest
  | chars => chars

/-- Whether a text is a row of digits with a zero in front of it. -/
def isPaddedNumber (chars : List Char) : Bool :=
  match dropSign chars with
  | '0' :: digit :: rest => (digit :: rest).all Char.isDigit
  | _ => false

/-- The number that some digits make to a base, if all of them are digits and there is one. -/
def ofDigits? (base : Nat) (chars : List Char) : Option Nat :=
  if chars.isEmpty then none
  else
    chars.foldlM (fun n c => (hexValue? c).bind fun digit =>
      if digit < base then some (n * base + digit) else none) 0

/-- The number that a text without a sign makes: digits, or digits to the base that is said in
front of them. -/
def magnitude? (chars : List Char) : Option Nat :=
  match chars with
  | '0' :: 'x' :: digits => ofDigits? 16 digits
  | '0' :: 'o' :: digits => ofDigits? 8 digits
  | '0' :: 'b' :: digits => ofDigits? 2 digits
  | _ => if isPaddedNumber chars then none else ofDigits? 10 chars

def natural? (text : String) : Option Nat :=
  match text.toList with
  | '+' :: rest => magnitude? rest
  | chars => magnitude? chars

/-- The whole number that a text stands for, if it takes at most 128 bits. -/
def integer? (text : String) : Option Int :=
  match text.toList with
  | '-' :: rest => (magnitude? rest).bind fun n => if n ≤ Nat.pow 2 127 then some (-n) else none
  | _ => (natural? text).bind fun n => if n < Nat.pow 2 128 then some n else none

/-! ### Real numbers -/

/-- The exponent of a number, at most nine digits of which matter. -/
def exponent? (chars : List Char) : Option Int :=
  match chars with
  | [] => some 0
  | e :: rest =>
    if e = 'e' ∨ e = 'E' then
      (ofDigits? 10 (dropSign rest)).map fun n =>
        if rest.head? = some '-' then -(min n 1000000000 : Nat) else (min n 1000000000 : Nat)
    else none

/-- The decimal number that a text without a sign makes. -/
def decimal? (chars : List Char) : Option Decimal :=
  let whole := chars.takeWhile Char.isDigit
  let rest := chars.dropWhile Char.isDigit
  let (places, rest) := match rest with
    | '.' :: rest => (rest.takeWhile Char.isDigit, rest.dropWhile Char.isDigit)
    | _ => ([], rest)
  match ofDigits? 10 (whole ++ places), exponent? rest with
  | some digits, some exponent => some ⟨digits, exponent - places.length⟩
  | _, _ => none

/-- The real number that a text stands for, as it is written. -/
def real? (text : String) : Option String :=
  match text.toList with
  | '+' :: rest => if [".inf", ".Inf", ".INF"].contains (String.ofList rest) then some "inf" else
      (decimal? rest).bind (·.doubleText?)
  | '-' :: rest => if [".inf", ".Inf", ".INF"].contains (String.ofList rest) then some "-inf" else
      ((decimal? rest).bind (·.doubleText?)).map ("-" ++ ·)
  | chars =>
    if [".inf", ".Inf", ".INF"].contains text then some "inf"
    else if [".nan", ".NaN", ".NAN"].contains text then some "NaN"
    else (decimal? chars).bind (·.doubleText?)

/-! ### Values -/

/-- What a scalar stands for. -/
inductive PlainValue where
  | null
  | boolean (b : Bool)
  | integer (n : Int)
  /-- A real number, as it is written. -/
  | real (text : String)
  | text (text : String)
deriving DecidableEq, Repr

namespace PlainValue

/-- What a plain scalar stands for. -/
def ofText (source : String) : PlainValue :=
  if source = "" ∨ isNull source then null
  else
    match boolean? source, integer? source with
    | some b, _ => boolean b
    | none, some n => integer n
    | none, none =>
      if isPaddedNumber source.toList then text source
      else
        match real? source with
        | some number => real number
        | none => text source

end PlainValue

end SdkAudit.Yaml
