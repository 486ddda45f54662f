/- # LiveScope.Json.Fault — what is wrong with a JSON text, and where

A reader that stops says why (`Cause`) and what of the text was still unread
(`Fault.rest`). The place of a fault is a number of bytes from the start of the
text: those read so far, and `ahead` more for a fault that belongs to bytes the
reader has only looked at, but never more than there are.

A place is told as a line, counted from one by the line breaks before it, and a
column, the bytes since the last of them.
-/
namespace LiveScope.Json

set_option autoImplicit false

/-- What a reader of JSON text can object to. The last five belong to records:
their fields may hold wrong values, be repeated, be missing or be too many. -/
inductive Cause where
  | endInValue
  | endInList
  | endInObject
  | endInString
  | expectedValue
  | expectedWord
  | expectedColon
  | expectedListComma
  | expectedObjectComma
  | trailingComma
  | keyNotString
  | trailingCharacters
  | invalidNumber
  | numberOutOfRange
  | controlCharacter
  | invalidEscape
  | loneSurrogate
  | unfinishedEscape
  | tooDeep
  | invalidType (found expected : String)
  | invalidValue (found expected : String)
  | duplicateField (name : String)
  | missingField (name : String)
  | extraItem
  deriving DecidableEq, Repr

def Cause.message : Cause → String
  | .endInValue => "EOF while parsing a value"
  | .endInList => "EOF while parsing a list"
  | .endInObject => "EOF while parsing an object"
  | .endInString => "EOF while parsing a string"
  | .expectedValue => "expected value"
  | .expectedWord => "expected ident"
  | .expectedColon => "expected `:`"
  | .expectedListComma => "expected `,` or `]`"
  | .expectedObjectComma => "expected `,` or `\x7d`"
  | .trailingComma => "trailing comma"
  | .keyNotString => "key must be a string"
  | .trailingCharacters => "trailing characters"
  | .invalidNumber => "invalid number"
  | .numberOutOfRange => "number out of range"
  | .controlCharacter => "control character (\\u0000-\\u001F) found while parsing a string"
  | .invalidEscape => "invalid escape"
  | .loneSurrogate => "lone leading surrogate in hex escape"
  | .unfinishedEscape => "unexpected end of hex escape"
  | .tooDeep => "recursion limit exceeded"
  | .invalidType found expected => "invalid type: " ++ found ++ ", expected " ++ expected
  | .invalidValue found expected => "invalid value: " ++ found ++ ", expected " ++ expected
  | .duplicateField name => "duplicate field `" ++ name ++ "`"
  | .missingField name => "missing field `" ++ name ++ "`"
  | .extraItem => "trailing characters"

/-- A fault as a reader sees it, before its place is worked out. -/
structure Fault where
  cause : Cause
  rest : List Char
  ahead : Nat
  deriving DecidableEq, Repr

/-- The number of bytes of a text in UTF-8. -/
def byteCount (text : List Char) : Nat :=
  text.foldl (fun count c => count + c.utf8Size) 0

/-- A line, from one, and a column, from zero. -/
structure Place where
  line : Nat
  column : Nat
  deriving DecidableEq, Repr

namespace Place

def start : Place := ⟨1, 0⟩

/-- The place `offset` bytes further on. It may lie inside a character. -/
def advance : Place → Nat → List Char → Place
  | place, 0, _ => place
  | place, _ + 1, [] => place
  | place, offset + 1, c :: rest =>
      if c = '\n' then advance ⟨place.line + 1, 0⟩ offset rest
      else advance ⟨place.line, place.column + min c.utf8Size (offset + 1)⟩
        (offset + 1 - c.utf8Size) rest

end Place

/-- The place of a fault in the text it was found in. -/
def Fault.place (text : List Char) (fault : Fault) : Place :=
  let unread := byteCount fault.rest
  Place.start.advance (byteCount text - unread + min fault.ahead unread) text

/-- What is wrong with a text, and where. -/
structure Complaint where
  cause : Cause
  place : Place
  deriving DecidableEq, Repr

def Complaint.message (complaint : Complaint) : String :=
  complaint.cause.message ++ " at line " ++ toString complaint.place.line
    ++ " column " ++ toString complaint.place.column

def Fault.locate (text : List Char) (fault : Fault) : Complaint :=
  ⟨fault.cause, fault.place text⟩

end LiveScope.Json
