/- # LiveScope.Palette.Color — colours as they are written

A colour is `#` with three, four, six or eight hexadecimal digits, `rgb(r, g, b)`
or `rgba(r, g, b, a)`, with blanks around it and around the parts in brackets. In
the short forms each digit counts twice. The alpha must be one, but it is no part
of the colour.
-/
import LiveScope.Palette.Alpha
import LiveScope.Text.Blank

namespace LiveScope.Palette

set_option autoImplicit false

/-- Three channels from 0 to 255. -/
structure Color where
  red : Nat
  green : Nat
  blue : Nat
  deriving DecidableEq, Repr, Inhabited

namespace Color

/-- The colour of the digits after `#`; the digits of an alpha are left aside. -/
def ofHexDigits : List Nat → Option Color
  | [r, g, b] | [r, g, b, _] => some ⟨r * 17, g * 17, b * 17⟩
  | [r, r', g, g', b, b'] | [r, r', g, g', b, b', _, _] =>
      some ⟨r * 16 + r', g * 16 + g', b * 16 + b'⟩
  | _ => none

/-- The texts between the commas. -/
def splitCommas : List Char → List (List Char)
  | [] => [[]]
  | c :: rest =>
      match splitCommas rest with
      | [] => [[c]]
      | part :: parts => if c = ',' then [] :: part :: parts else (c :: part) :: parts

/-- A channel in decimal digits. -/
def channel? (part : List Char) : Option Nat :=
  if part.isEmpty then none
  else
    (part.mapM Text.digit?).bind fun digits =>
      let value := Text.ofDigits digits
      if value ≤ 255 then some value else none

def alphaInRange (part : List Char) : Bool :=
  match Alpha.parse part with
  | some alpha => alpha.inRange
  | none => false

/-- The parts in brackets, blanks trimmed, if the bracket is closed. -/
def bracketed? (text : List Char) : Option (List (List Char)) :=
  if text.getLast? = some ')' then some ((splitCommas text.dropLast).map Text.trim) else none

def ofChannels (r g b : List Char) : Option Color :=
  match channel? r, channel? g, channel? b with
  | some red, some green, some blue => some ⟨red, green, blue⟩
  | _, _, _ => none

def ofTrimmed : List Char → Option Color
  | '#' :: digits => (digits.mapM Text.hexDigit?).bind ofHexDigits
  | 'r' :: 'g' :: 'b' :: 'a' :: '(' :: rest =>
      match bracketed? rest with
      | some [r, g, b, a] => if alphaInRange a then ofChannels r g b else none
      | _ => none
  | 'r' :: 'g' :: 'b' :: '(' :: rest =>
      match bracketed? rest with
      | some [r, g, b] => ofChannels r g b
      | _ => none
  | _ => none

def parse (text : String) : Option Color := ofTrimmed (Text.trim text.toList)

end Color

end LiveScope.Palette
