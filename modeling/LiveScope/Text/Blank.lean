/- # LiveScope.Text.Blank — blank characters and trimming

A character is blank if it has the Unicode property `White_Space`: 25 code
points, in ten ranges. `trim` drops the blank characters at both ends of a text
and keeps those inside it; what is trimmed at one end has nothing left to trim there
(`dropWhile_dropWhile`).
-/
namespace LiveScope.Text

set_option autoImplicit false

/-- The ranges of `White_Space`, first and last code point included. -/
def blankRanges : List (Nat × Nat) :=
  [(0x09, 0x0D), (0x20, 0x20), (0x85, 0x85), (0xA0, 0xA0), (0x1680, 0x1680),
    (0x2000, 0x200A), (0x2028, 0x2029), (0x202F, 0x202F), (0x205F, 0x205F), (0x3000, 0x3000)]

def isBlank (c : Char) : Bool :=
  blankRanges.any fun (first, last) => first ≤ c.toNat && c.toNat ≤ last

/-- Drop the characters of a class at both ends. -/
def trimWhile (p : Char → Bool) (text : List Char) : List Char :=
  ((text.dropWhile p).reverse.dropWhile p).reverse

def trim (text : List Char) : List Char :=
  trimWhile isBlank text

private theorem head_not_of_dropWhile {p : Char → Bool} {c : Char} {rest : List Char} :
    ∀ {text : List Char}, text.dropWhile p = c :: rest → p c = false
  | [], dropped => by simp at dropped
  | d :: text, dropped => by
      rw [List.dropWhile_cons] at dropped
      split at dropped
      · exact head_not_of_dropWhile dropped
      · next keeps =>
          obtain ⟨rfl, -⟩ := List.cons.inj dropped
          simpa using keeps

theorem dropWhile_dropWhile (p : Char → Bool) (text : List Char) :
    (text.dropWhile p).dropWhile p = text.dropWhile p := by
  cases dropped : text.dropWhile p with
  | nil => rfl
  | cons c rest => rw [List.dropWhile_cons, head_not_of_dropWhile dropped]; rfl

end LiveScope.Text
