/- # LiveScope.Json.Number — numbers of a JSON text

A number is an integer if its text has neither fraction nor exponent and its
value fits a signed or an unsigned 64-bit word; every other number is a binary64
magnitude with a sign. `-0` is not an integer, since it keeps its sign.

`Numeral` is the text of a number, taken apart; `Numeral.value?` reads it. The
significand is built from the leading digits that fit 64 bits. Whole digits that
no longer fit count for the power of ten, digits of the fraction that no longer
fit are dropped, and the significand is then scaled by that power in binary64.
-/
import LiveScope.Number.Shortest

namespace LiveScope.Json

set_option autoImplicit false

inductive Number where
  | integer (value : Int)
  | real (negative : Bool) (magnitude : Binary64)
  deriving DecidableEq, Repr, Inhabited

namespace Number

/-- How a real number is laid out: point notation as long as the decimal point
lies in `(-5, 16]`, scientific notation with a signed exponent outside. -/
def layout (d : Decimal) : String :=
  let digits := toString d.digits
  let count : Int := digits.length
  let point := count + d.power
  if 0 ≤ d.power ∧ point ≤ 16 then
    digits ++ String.ofList (List.replicate d.power.toNat '0') ++ ".0"
  else if 0 < point ∧ point ≤ 16 then
    String.ofList (digits.toList.take point.toNat) ++ "."
      ++ String.ofList (digits.toList.drop point.toNat)
  else if -5 < point ∧ point ≤ 0 then
    "0." ++ String.ofList (List.replicate (-point).toNat '0') ++ digits
  else
    let fraction := digits.toList.drop 1
    String.ofList (digits.toList.take 1)
      ++ (if fraction.isEmpty then "" else "." ++ String.ofList fraction)
      ++ "e" ++ (if 0 < point then "+" else "") ++ toString (point - 1)

def text : Number → String
  | .integer value => toString value
  | .real negative magnitude =>
      (if negative then "-" else "") ++
        (if magnitude.isZero then "0.0" else layout magnitude.shortest)

end Number

/-- The text of a number: its sign, its digits before and after the point, and
the sign and digits of its exponent. -/
structure Numeral where
  negative : Bool
  whole : List Nat
  fraction : Option (List Nat)
  exponent : Option (Bool × List Nat)
  deriving DecidableEq, Repr, Inhabited

namespace Numeral

/-- The greatest significand. -/
def greatestWord : Nat := Nat.pow 2 64 - 1

/-- The greatest exponent that is read. -/
def greatestPower : Nat := Nat.pow 2 31 - 1

/-- Append digits to a number as long as the result stays within `limit`; the
digits from the first that does not fit are given back. -/
def absorb (limit : Nat) : Nat → List Nat → Nat × List Nat
  | value, [] => (value, [])
  | value, digit :: rest =>
      if value * 10 + digit ≤ limit then absorb limit (value * 10 + digit) rest
      else (value, digit :: rest)

/-- The significand and its power of ten, before the written exponent. -/
def significand (n : Numeral) : Nat × Int :=
  let (whole, extra) := absorb greatestWord 0 n.whole
  let digits := n.fraction.getD []
  let (value, dropped) := absorb greatestWord whole digits
  (value, (extra.length : Int) - (digits.length - dropped.length : Nat))

/-- The digits of the exponent from the one at which it grows too large. -/
def exponentExcess (n : Numeral) : List Nat :=
  match n.exponent with
  | some (_, digits) => (absorb greatestPower 0 digits).2
  | none => []

def isInteger (n : Numeral) : Bool :=
  n.fraction.isNone && n.exponent.isNone && (absorb greatestWord 0 n.whole).2.isEmpty

/-- The magnitude, or `none` beyond the largest one. An exponent that is too
large to be read makes zero of a zero significand, and of every other if it is
negative. -/
def magnitude? (n : Numeral) : Option Binary64 :=
  let (value, power) := n.significand
  let (shrinks, digits) := n.exponent.getD (false, [])
  let (written, excess) := absorb greatestPower 0 digits
  if excess.isEmpty then
    (Binary64.ofNat? value).bind fun x =>
      x.scaleByTen? (if shrinks then power - written else power + written)
  else if value ≠ 0 ∧ shrinks = false then none
  else some .zero

def value? (n : Numeral) : Option Number :=
  let whole := n.significand.1
  if n.isInteger ∧ n.negative = false then some (.integer whole)
  else if n.isInteger ∧ 0 < whole ∧ whole ≤ Nat.pow 2 63 then some (.integer (-(whole : Int)))
  else n.magnitude?.map (.real n.negative)

end Numeral

end LiveScope.Json
