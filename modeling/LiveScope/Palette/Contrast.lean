/- # LiveScope.Palette.Contrast — readable text on a background

A channel is turned into linear light by the sRGB curve, and the three are
weighted into a relative luminance, which is rounded to thousandths. White has
luminance one. Text is white as long as its contrast against the background,
`(1 + 0.05) / (luminance + 0.05)`, is at least three, and dark otherwise.

All of it is computed in integers: linear light in units of `10^-12`, a fifth
root being taken where the curve has the exponent `12/5`. No luminance of the
`2^24` colours comes so near to half a thousandth that this precision decides.
-/
import LiveScope.Palette.Color

namespace LiveScope.Palette

set_option autoImplicit false

/-- The greatest number whose fifth power is at most `n`, bit by bit. -/
def fifthRoot (n : Nat) : Nat :=
  (List.range (n.log2 / 5 + 1)).foldr
    (fun bit root =>
      if Nat.pow (root + Nat.pow 2 bit) 5 ≤ n then root + Nat.pow 2 bit else root) 0

/-- One, in the units of linear light. -/
def fullLight : Nat := Nat.pow 10 12

/-- The linear light of a channel: `x / 12.92` up to `x = 0.03928`, and
`((x + 0.055) / 1.055)^2.4` above it, where `x` is the channel over 255. -/
def linearLight (channel : Nat) : Nat :=
  if channel * 100000 ≤ 3928 * 255 then channel * 100 * fullLight / (255 * 1292)
  else
    fifthRoot (Nat.pow (1000 * channel + 55 * 255) 12 * Nat.pow fullLight 5
      / Nat.pow (1055 * 255) 12)

namespace Color

/-- The relative luminance in thousandths, a half rounded up. -/
def luminance (color : Color) : Nat :=
  let weighted := 2126 * linearLight color.red + 7152 * linearLight color.green
    + 722 * linearLight color.blue
  (2 * weighted + 10 * fullLight) / (20 * fullLight)

/-- Is white text readable on this background? -/
def isDark (color : Color) : Bool := 3 * (color.luminance + 50) ≤ 1000 + 50

end Color

/-- Text on light backgrounds. -/
def darkText : String := "rgba(0, 0, 0, 0.87)"

/-- Text on dark backgrounds. -/
def lightText : String := "#fff"

/-- The colour text that could not be read. -/
structure InvalidColor where
  text : String
  deriving DecidableEq, Repr

def InvalidColor.message (error : InvalidColor) : String :=
  "Invalid color '" ++ error.text ++ "'"

/-- The text colour for a background. -/
def contrastText (background : String) : Except InvalidColor String :=
  match Color.parse background with
  | some color => .ok (if color.isDark then lightText else darkText)
  | none => .error ⟨background⟩

end LiveScope.Palette
