/- # LiveScope.Number.Binary64 — magnitudes of binary64 numbers, exactly

A finite magnitude is `mantissa · 2^exponent` with `mantissa < 2^53` and
`-1074 ≤ exponent ≤ 971`. Every operation takes the exact quotient of naturals
and rounds it once, to the nearest magnitude and in a tie to the even mantissa;
`none` says that the result lies beyond the largest one.
-/
namespace LiveScope

set_option autoImplicit false

structure Binary64 where
  mantissa : Nat
  exponent : Int
  deriving DecidableEq, Repr, Inhabited

namespace Binary64

def leastExponent : Int := -1074

def greatestExponent : Int := 971

def zero : Binary64 := ⟨0, leastExponent⟩

def isZero (x : Binary64) : Bool := x.mantissa == 0

/-- The magnitude as a numerator and a denominator. -/
def toQuotient (x : Binary64) : Nat × Nat :=
  (x.mantissa * Nat.pow 2 x.exponent.toNat, Nat.pow 2 (-x.exponent).toNat)

/-- The quotient divided by `2^exponent`, again as numerator and denominator. -/
def scaleDown (num den : Nat) (exponent : Int) : Nat × Nat :=
  (num * Nat.pow 2 (-exponent).toNat, den * Nat.pow 2 exponent.toNat)

/-- The natural number nearest to `num / den`; a half goes to the even neighbour. -/
def divideToEven (num den : Nat) : Nat :=
  let quotient := num / den
  let remainder := num % den
  if 2 * remainder < den then quotient
  else if den < 2 * remainder then quotient + 1
  else quotient + quotient % 2

/-- The exponent under which the quotient has 53 bits, or the least one if it is
too small for that. -/
def exponentOf (num den : Nat) : Int :=
  let guess : Int := (num.log2 : Int) - (den.log2 : Int) - 52
  let (a, b) := scaleDown num den guess
  max (if a < b * Nat.pow 2 52 then guess - 1 else guess) leastExponent

/-- The magnitude nearest to `num / den`. -/
def ofQuotient? (num den : Nat) : Option Binary64 :=
  if num = 0 then some zero
  else
    let exponent := exponentOf num den
    let (a, b) := scaleDown num den exponent
    let mantissa := divideToEven a b
    let rounded : Binary64 :=
      if mantissa = Nat.pow 2 53 then ⟨Nat.pow 2 52, exponent + 1⟩ else ⟨mantissa, exponent⟩
    if rounded.exponent ≤ greatestExponent then some rounded else none

def ofNat? (n : Nat) : Option Binary64 := ofQuotient? n 1

def mul? (x y : Binary64) : Option Binary64 :=
  let (a, b) := x.toQuotient
  let (c, d) := y.toQuotient
  ofQuotient? (a * c) (b * d)

/-- The quotient by a magnitude other than zero. -/
def div? (x y : Binary64) : Option Binary64 :=
  let (a, b) := x.toQuotient
  let (c, d) := y.toQuotient
  ofQuotient? (a * d) (b * c)

/-- Widest power of ten that a magnitude is scaled by in one step. -/
def widestPower : Nat := 308

/-- `x · 10^power`, rounded once for the power and once for the product; powers
beyond `10^-308` are reached by several divisions. -/
def scaleByTen? (x : Binary64) (power : Int) : Option Binary64 :=
  if x.isZero then some x
  else if power < -(widestPower : Int) then
    (ofNat? (Nat.pow 10 widestPower)).bind fun ten =>
      (x.div? ten).bind fun y => y.scaleByTen? (power + widestPower)
  else if (widestPower : Int) < power then none
  else
    (ofNat? (Nat.pow 10 power.natAbs)).bind fun ten =>
      if power < 0 then x.div? ten else x.mul? ten
termination_by (-power).toNat
decreasing_by simp [widestPower] at *; omega

end Binary64

end LiveScope
