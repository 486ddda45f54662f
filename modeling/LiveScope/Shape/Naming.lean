/- # LiveScope.Shape.Naming — names of definitions

The definition of a nested object is named after its path from the root: the name
of the definition above it, an underscore, and the key, of which every character
that cannot stand in an identifier becomes an underscore (`fragment`). If that
name is taken, the least number from two on that makes it free is appended
(`fresh`). Among the first `used.length + 1` numbered candidates one is free, so
the search is bounded by the names in use.
-/
namespace LiveScope.Naming

set_option autoImplicit false

/-- Characters of an identifier after its first one: ASCII letters and digits,
`_` and `$`. -/
def isWordChar (c : Char) : Bool := c.isAlphanum || c == '_' || c == '$'

/-- A key as part of a name. -/
def fragment (key : String) : String :=
  if key.isEmpty then "_"
  else String.ofList (key.toList.map fun c => if isWordChar c then c else '_')

/-- The name of what lies under `key` in the definition `owner`. -/
def under (owner key : String) : String := owner ++ "_" ++ fragment key

def numbered (base : String) (n : Nat) : String := base ++ "_" ++ toString n

/-- The first free numbered name from `n` on, or the last one that is tried. -/
def firstFree (used : List String) (base : String) : Nat → Nat → String
  | 0, n => numbered base n
  | tries + 1, n =>
      if numbered base n ∈ used then firstFree used base tries (n + 1) else numbered base n

/-- `base` if it is free, else the first free numbered name. -/
def fresh (used : List String) (base : String) : String :=
  if base ∈ used then firstFree used base used.length 2 else base

/-- Take a name that is not in use: the name, and the names in use from then on. -/
def claim (used : List String) (base : String) : String × List String :=
  (fresh used base, used ++ [fresh used base])

/-- The first name that is taken is the one that is asked for. -/
theorem claim_nil (base : String) : claim [] base = (base, [base]) := by
  simp [claim, fresh]

end LiveScope.Naming
