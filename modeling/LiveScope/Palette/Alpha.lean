/- # LiveScope.Palette.Alpha — the alpha part of a colour

An alpha is written in decimal, with an optional sign, point and exponent, and
with a digit before or after the point. It is accepted if the binary64 number
nearest to it lies between zero and one; a negative one that is as good as zero
does too. The names of infinities and of what is no number are read like numbers
elsewhere, but they lie in no range, so they are not accepted here.
-/
import LiveScope.Number.Binary64
import LiveScope.Text.Digits

namespace LiveScope.Palette

set_option autoImplicit false

/-- A decimal `digits · 10^power` with its sign. -/
structure Alpha where
  negative : Bool
  digits : List Nat
  power : Int
  deriving DecidableEq, Repr

open Text (takeDigits takeSign ofDigits)

namespace Alpha

/-- The power of ten of an exponent, to the end of the text. -/
def readExponent : List Char → Option Int
  | [] => some 0
  | c :: rest =>
      if c = 'e' ∨ c = 'E' then
        let (negative, unsigned) := takeSign rest
        match takeDigits unsigned with
        | ([], _) => none
        | (found, []) => some (if negative then -(ofDigits found : Int) else ofDigits found)
        | _ => none
      else none

def takeFraction : List Char → List Nat × List Char
  | '.' :: rest => takeDigits rest
  | text => ([], text)

def parse (text : List Char) : Option Alpha :=
  let (negative, unsigned) := takeSign text
  let (whole, afterWhole) := takeDigits unsigned
  let (fraction, afterFraction) := takeFraction afterWhole
  if whole.isEmpty ∧ fraction.isEmpty then none
  else
    (readExponent afterFraction).map fun exponent =>
      ⟨negative, whole ++ fraction, exponent - fraction.length⟩

/-- The number of digits before the point, once leading zeros are dropped; it is
negative if zeros follow the point. -/
def reach (alpha : Alpha) : Int := (alpha.digits.dropWhile (· == 0)).length + alpha.power

/-- Below `10^-400` every number is nearest to zero. -/
def negligible : Int := -400

/-- Is the magnitude as good as zero? -/
def isZero (alpha : Alpha) : Bool :=
  ofDigits alpha.digits == 0 || alpha.reach < negligible

/-- The nearest magnitude, for one that is neither zero nor ten or more. -/
def magnitude? (alpha : Alpha) : Option Binary64 :=
  Binary64.ofQuotient? (ofDigits alpha.digits * Nat.pow 10 alpha.power.toNat)
    (Nat.pow 10 (-alpha.power).toNat)

/-- Is the magnitude at most one? -/
def atMostOne (x : Binary64) : Bool :=
  let (num, den) := x.toQuotient
  num ≤ den

/-- Does the nearest number lie between zero and one? -/
def inRange (alpha : Alpha) : Bool :=
  if alpha.isZero then true
  else if 1 < alpha.reach then false
  else
    match alpha.magnitude? with
    | some x => if alpha.negative then x.isZero else atMostOne x
    | none => false

end Alpha

end LiveScope.Palette
