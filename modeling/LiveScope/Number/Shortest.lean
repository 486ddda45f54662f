/- # LiveScope.Number.Shortest — the shortest decimal that reads back

`Binary64.shortest` gives the fewest decimal digits among the decimals that
round to a magnitude, and of those the nearest to it; an exact tie goes to the
even digit. On each grid of `k` significant digits only the two neighbours of
the magnitude can be nearest, so it is enough to test those, for `k` from 1 to
17: with 17 digits every magnitude reads back.
-/
import LiveScope.Number.Binary64

namespace LiveScope

set_option autoImplicit false

/-- The decimal `digits · 10^power`. -/
structure Decimal where
  digits : Nat
  power : Int
  deriving DecidableEq, Repr, Inhabited

namespace Decimal

/-- Numerator and denominator of the decimal. -/
def toQuotient (d : Decimal) : Nat × Nat :=
  (d.digits * Nat.pow 10 d.power.toNat, Nat.pow 10 (-d.power).toNat)

/-- The same decimal without trailing zeros; `fuel` bounds how many there are. -/
def strip : Nat → Decimal → Decimal
  | 0, d => d
  | fuel + 1, d =>
      if d.digits ≠ 0 ∧ d.digits % 10 = 0 then strip fuel ⟨d.digits / 10, d.power + 1⟩ else d

end Decimal

namespace Binary64

/-- Does the decimal round to this magnitude? The midpoints to the two
neighbouring magnitudes do so exactly when the mantissa is even. -/
def covers (x : Binary64) (d : Decimal) : Bool :=
  let (num, den) := d.toQuotient
  -- in quarters of the last place: the decimal, and the two midpoints
  let (a, b) := scaleDown num den (x.exponent - 2)
  let value := 4 * x.mantissa
  let below := if x.mantissa = Nat.pow 2 52 ∧ leastExponent < x.exponent then 1 else 2
  let low := (value - below) * b
  let high := (value + 2) * b
  if x.mantissa % 2 = 0 then low ≤ a && a ≤ high else low < a && a < high

/-- `⌊log₁₀ x⌋` of a magnitude other than zero, by search from a lower bound. -/
def decimalExponent (x : Binary64) : Int :=
  let (num, den) := x.toQuotient
  let guess : Int := (((num.log2 : Int) - (den.log2 : Int) - 1) * 1233).fdiv 4096 - 1
  let reaches (e : Int) : Bool := den * Nat.pow 10 e.toNat ≤ num * Nat.pow 10 (-e).toNat
  (List.range 4).foldl (fun best (k : Nat) => if reaches (guess + k) then guess + k else best) guess

/-- The two decimals next to `x` on the grid of `count` digits, nearest first. -/
def neighbours (x : Binary64) (count : Nat) : List Decimal :=
  let power := x.decimalExponent + 1 - count
  let (num, den) := x.toQuotient
  let a := num * Nat.pow 10 (-power).toNat
  let b := den * Nat.pow 10 power.toNat
  let floor := a / b
  let twice := 2 * (a % b)
  let lower : Decimal := ⟨floor, power⟩
  let upper : Decimal := ⟨floor + 1, power⟩
  if twice < b ∨ (twice = b ∧ floor % 2 = 0) then [lower, upper] else [upper, lower]

def shortest (x : Binary64) : Decimal :=
  if x.isZero then ⟨0, 0⟩
  else
    let candidates := (List.range 17).flatMap fun k => x.neighbours (k + 1)
    ((candidates.find? x.covers).getD ⟨x.mantissa, 0⟩).strip 17

end Binary64

end LiveScope
