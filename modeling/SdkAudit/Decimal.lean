/-!
# Decimal numbers and doubles

A decimal number is a natural number with a power of ten.  The double nearest to it is written with
the fewest digits that read back as that double, and of these with the ones nearest to it; all
digits are written out, and a whole number ends in `.0`.

* `Decimal.toFloat`: the nearest double;
* `Binary.shortest`: the fewest digits for `m * 2 ^ e`;
* `Decimal.text`: a decimal number in positional notation;
* `Decimal.briefText`: a decimal number with an exponent where it is far from one.
-/

namespace SdkAudit

/-- The number `digits * 10 ^ exponent`. -/
structure Decimal where
  digits : Nat
  exponent : Int
deriving DecidableEq, Repr

/-- The number `m * 2 ^ e`. -/
structure Binary where
  m : Nat
  e : Int
deriving DecidableEq, Repr

namespace Decimal

/-- The double nearest to a decimal number.  Beyond the range of doubles the exponent does not
matter any more, so it is bounded first. -/
def toFloat (d : Decimal) : Float :=
  let length : Int := (Nat.toDigits 10 d.digits).length
  if d.digits = 0 ∨ d.exponent + length < -400 then 0
  else if 400 < d.exponent + length then 1 / 0
  else Float.ofScientific d.digits (d.exponent < 0) d.exponent.natAbs

/-- A decimal number in positional notation. -/
def text (d : Decimal) : String :=
  let digits := Nat.toDigits 10 d.digits
  if 0 ≤ d.exponent then
    let zeros := if d.digits = 0 then 0 else d.exponent.toNat
    String.ofList (digits ++ List.replicate zeros '0') ++ ".0"
  else
    let places := d.exponent.natAbs
    let digits := List.replicate (places + 1 - digits.length) '0' ++ digits
    let whole := digits.length - places
    String.ofList (digits.take whole) ++ "." ++ String.ofList (digits.drop whole)

/-- A decimal number in positional notation if its point is among or near its digits, and with one
digit before the point and an exponent otherwise. -/
def briefText (d : Decimal) : String :=
  let digits := Nat.toDigits 10 d.digits
  let point : Int := digits.length + d.exponent
  if -5 < point ∧ point ≤ 16 then d.text
  else
    let places := digits.drop 1
    String.ofList (digits.take 1 ++ (if places.isEmpty then [] else '.' :: places)) ++ "e" ++
      toString (point - 1)

end Decimal

namespace Binary

/-- The mantissa and the exponent of a positive, finite double. -/
def ofFloat (x : Float) : Binary :=
  let bits := x.toBits.toNat
  let exponent : Nat := bits / Nat.pow 2 52 % Nat.pow 2 11
  let fraction : Nat := bits % Nat.pow 2 52
  if exponent = 0 then ⟨fraction, -1074⟩ else ⟨Nat.pow 2 52 + fraction, (exponent : Int) - 1075⟩

/-- Whether `a * 10 ^ p ≤ b * 2 ^ e`. -/
def decimalLe (a : Nat) (p : Int) (b : Nat) (e : Int) : Bool :=
  a * Nat.pow 10 p.toNat * Nat.pow 2 (-e).toNat ≤ b * Nat.pow 2 e.toNat * Nat.pow 10 (-p).toNat

/-- Whether `a * 10 ^ p < b * 2 ^ e`. -/
def decimalLt (a : Nat) (p : Int) (b : Nat) (e : Int) : Bool :=
  a * Nat.pow 10 p.toNat * Nat.pow 2 (-e).toNat < b * Nat.pow 2 e.toNat * Nat.pow 10 (-p).toNat

/-- Whether the double nearest to `a * 10 ^ p` is this one.  The bounds are half the way to the
neighbours, of which the lower one is closer at a power of two; a tie goes to the even mantissa. -/
def isNearest (x : Binary) (a : Nat) (p : Int) : Bool :=
  let low := if x.m = Nat.pow 2 52 ∧ -1074 < x.e then 4 * x.m - 1 else 4 * x.m - 2
  let high := 4 * x.m + 2
  if x.m % 2 = 0 then !decimalLt a p low (x.e - 2) && decimalLe a p high (x.e - 2)
  else !decimalLe a p low (x.e - 2) && decimalLt a p high (x.e - 2)

/-- How many `10 ^ p` there are in a number. -/
def quotient (x : Binary) (p : Int) : Nat :=
  x.m * Nat.pow 2 x.e.toNat * Nat.pow 10 (-p).toNat / (Nat.pow 10 p.toNat * Nat.pow 2 (-x.e).toNat)

/-- Of the two multiples of `10 ^ p` around a number, the one that reads back as it; of both, the
one nearer to it. -/
def onGrid? (x : Binary) (p : Int) : Option Nat :=
  let below := x.quotient p
  match x.isNearest below p, x.isNearest (below + 1) p with
  | true, true =>
    -- the number is above the middle of the two
    if decimalLt (2 * below + 1) p (2 * x.m) x.e then some (below + 1) else some below
  | true, false => some below
  | false, true => some (below + 1)
  | false, false => none

/-- The first grid that has a multiple which reads back, from `10 ^ p` downwards. -/
def shortestFrom (x : Binary) : Nat → Int → Decimal
  | 0, p => ⟨x.quotient p, p⟩
  | steps + 1, p =>
    match x.onGrid? p with
    | some digits => ⟨digits, p⟩
    | none => shortestFrom x steps (p - 1)

/-- The fewest digits that read back as a double, which is not zero.  It is less than `10 ^ 309` and
is a multiple of `10 ^ -1074`. -/
def shortest (x : Binary) : Decimal :=
  let length : Int := (Nat.toDigits 10 (x.quotient 0)).length
  if x.quotient 0 = 0 then shortestFrom x 1074 0 else shortestFrom x (1074 + 309) length

end Binary

namespace Decimal

/-- The fewest digits that read back as a finite double without a sign. -/
def ofFloat (x : Float) : Decimal := if x == 0 then ⟨0, 0⟩ else (Binary.ofFloat x).shortest

/-- The double nearest to a decimal number, as it is written; there is none beyond the range of
doubles. -/
def doubleText? (d : Decimal) : Option String :=
  let x := d.toFloat
  if x.isInf then none else some (ofFloat x).text

end Decimal

end SdkAudit
