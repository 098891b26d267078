import SdkAudit.Decimal

/-!
# Numbers of JSON texts

A number without places and exponent is an integer if it fits in 64 bits.  Of any other number the
digits count as far as they fit in 64 bits, and the double for them is multiplied or divided by a
power of ten.

* `JsonNumber`: what a number stands for, and `JsonNumber.words`, how it is spoken of;
* `NumberText`: the parts of a number, and `NumberText.value?`, what they stand for.
-/

namespace SdkAudit

/-- What a number stands for. -/
inductive JsonNumber where
  | integer (n : Int)
  /-- A finite double, with its sign in front. -/
  | double (negative : Bool) (magnitude : Float)
deriving Repr

/-- A number, as it is spoken of. -/
def JsonNumber.words : JsonNumber → String
  | integer n => "integer \x60" ++ toString n ++ "\x60"
  | double negative magnitude =>
    "floating point \x60" ++ (if negative then "-" else "") ++
      (Decimal.ofFloat magnitude).briefText ++ "\x60"

/-- The parts of a number. -/
structure NumberText where
  negative : Bool
  whole : List Char
  /-- The digits after the point. -/
  places : List Char
  /-- The exponent, if there is one. -/
  exponent : Option Int
deriving DecidableEq, Repr

namespace NumberText

def ofDigits (digits : List Char) : Nat :=
  digits.foldl (fun n c => n * 10 + (c.toNat - '0'.toNat)) 0

/-- The exponent that a text says from its letter on. -/
def exponentOf : List Char → Option Int
  | [] => none
  | _ :: '-' :: digits => some (-(ofDigits digits : Int))
  | _ :: '+' :: digits => some (ofDigits digits)
  | _ :: digits => some (ofDigits digits)

def ofText (text : List Char) : NumberText :=
  let negative := text.head? = some '-'
  let magnitude := if negative then text.drop 1 else text
  let whole := magnitude.takeWhile Char.isDigit
  match magnitude.dropWhile Char.isDigit with
  | '.' :: rest =>
    ⟨negative, whole, rest.takeWhile Char.isDigit, exponentOf (rest.dropWhile Char.isDigit)⟩
  | rest => ⟨negative, whole, [], exponentOf rest⟩

/-- What digits make as far as it fits in 64 bits, and how many of them are left then. -/
def takeDigits (n : Nat) : List Char → Nat × Nat
  | [] => (n, 0)
  | c :: digits =>
    let next := n * 10 + (c.toNat - '0'.toNat)
    if next < Nat.pow 2 64 then takeDigits next digits else (n, digits.length + 1)

/-- A double multiplied or divided by a power of ten; there is none beyond the range of doubles.
Three divisions by the greatest power of ten make every number of 64 bits zero. -/
def scale? : Nat → Float → Int → Option Float
  | 0, _, _ => some 0
  | steps + 1, x, exponent =>
    if exponent.natAbs ≤ 308 then
      let power := Float.ofScientific 1 false exponent.natAbs
      let value := if 0 ≤ exponent then x * power else x / power
      if value.isInf then none else some value
    else if x == 0 then some 0
    else if 0 ≤ exponent then none
    else scale? steps (x / Float.ofScientific 1 false 308) (exponent + 308)

/-- The double that a number stands for, without its sign. -/
def magnitude? (number : NumberText) : Option Float :=
  let (n, left) := takeDigits 0 number.whole
  let (n, unused) := takeDigits n number.places
  let taken := number.places.length - unused
  scale? 4 (Float.ofNat n) (number.exponent.getD 0 + left - taken)

/-- What a number stands for; it stands for nothing beyond the range of doubles. -/
def value? (number : NumberText) : Option JsonNumber :=
  let n : Int := if number.negative then -(ofDigits number.whole : Int) else ofDigits number.whole
  if number.places.isEmpty ∧ number.exponent.isNone ∧ ¬(number.negative ∧ n = 0) ∧
      -(Nat.pow 2 63 : Int) ≤ n ∧ n < Nat.pow 2 64 then
    some (.integer n)
  else number.magnitude?.map (.double number.negative)

end NumberText

end SdkAudit
