/- # LiveScope.Text.Revealed — texts as they are shown in messages

A text is put in double quotes. Quotes, backslashes and the usual controls get a
backslash, every other character that is not printable its code point in braces.
-/
import LiveScope.Text.Printable

namespace LiveScope.Text

set_option autoImplicit false

/-- A code point in hexadecimal, lower case, without leading zeros. -/
def hexadecimal (n : Nat) : String := String.ofList (Nat.toDigits 16 n)

def reveal (c : Char) : String :=
  if c = '\x00' then "\\0"
  else if c = '\t' then "\\t"
  else if c = '\n' then "\\n"
  else if c = '\r' then "\\r"
  else if c = '"' then "\\\""
  else if c = '\\' then "\\\\"
  else if isPrintable c then String.singleton c
  else "\\u\x7b" ++ hexadecimal c.toNat ++ "\x7d"

def revealed (text : String) : String :=
  "\"" ++ String.join (text.toList.map reveal) ++ "\""

end LiveScope.Text
