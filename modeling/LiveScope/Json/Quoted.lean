/- # LiveScope.Json.Quoted — quoted strings

Quotes, backslashes and the characters below `0x20` are escaped, the latter by
their short form where there is one and by `\u00xx` otherwise; every other
character stands for itself. So a quoted string lies on one line.
-/
namespace LiveScope.Json

set_option autoImplicit false

/-- A hexadecimal digit in lower case. -/
def hexChar (n : Nat) : Char :=
  if n < 10 then Char.ofNat ('0'.toNat + n) else Char.ofNat ('a'.toNat + (n - 10))

def escaped (c : Char) : List Char :=
  if c = '"' then ['\\', '"']
  else if c = '\\' then ['\\', '\\']
  else if c = '\x08' then ['\\', 'b']
  else if c = '\x0C' then ['\\', 'f']
  else if c = '\n' then ['\\', 'n']
  else if c = '\r' then ['\\', 'r']
  else if c = '\t' then ['\\', 't']
  else if c.toNat < 0x20 then
    ['\\', 'u', '0', '0', hexChar (c.toNat / 16), hexChar (c.toNat % 16)]
  else [c]

def quoteChars (text : List Char) : List Char :=
  '"' :: text.flatMap escaped ++ ['"']

def quote (text : String) : String := String.ofList (quoteChars text.toList)

end LiveScope.Json
