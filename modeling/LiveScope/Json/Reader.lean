/- # LiveScope.Json.Reader — reading JSON text

A reader takes the unread text and gives back a value with the text it leaves
unread, or a `Fault`. The loops over the items of an array and the entries of an
object take the step that is to be done for each as a parameter, so that the
same loops read values here and records in `LiveScope.Json.Decoder`. They are
driven by the length of the text: each round reads at least one character.

Nesting is bounded: `value care depth` opens at most `depth` levels. A value
that is read only to be passed over is held to the grammar alone (`Care.dropped`):
its numbers may lie beyond every range and its surrogates may be lone.
-/
import LiveScope.Json.Fault
import LiveScope.Json.Value
import LiveScope.Text.Digits

namespace LiveScope.Json

set_option autoImplicit false

abbrev Reader (α : Type) := List Char → Except Fault (α × List Char)

open Text (digit? hexDigit? takeDigits takeSign)

namespace Reader

/-- Is the value that is read wanted, or is it only passed over? -/
inductive Care where
  | kept
  | dropped
  deriving DecidableEq, Repr

/-- A fault at the end of what has been read. -/
def faultAt {α : Type} (cause : Cause) (rest : List Char) : Except Fault α :=
  .error ⟨cause, rest, 0⟩

/-- A fault that belongs to the first unread byte. -/
def faultNext {α : Type} (cause : Cause) (rest : List Char) : Except Fault α :=
  .error ⟨cause, rest, 1⟩

def isSpace (c : Char) : Bool := c == ' ' || c == '\n' || c == '\t' || c == '\r'

def skipSpace (text : List Char) : List Char := text.dropWhile isSpace

/-! ### Words -/

/-- Read the given characters. -/
def word : List Char → Reader Unit
  | [], text => .ok ((), text)
  | _ :: _, [] => faultAt .endInValue []
  | expected :: more, c :: rest =>
      if c = expected then word more rest else faultNext .expectedWord (c :: rest)

/-! ### Strings -/

/-- Four hexadecimal digits as a number. -/
def hexQuad? : List Char → Option Nat
  | a :: b :: c :: d :: _ =>
      match hexDigit? a, hexDigit? b, hexDigit? c, hexDigit? d with
      | some p, some q, some r, some s => some (((p * 16 + q) * 16 + r) * 16 + s)
      | _, _, _, _ => none
  | _ => none

/-- The four digits after `\u`. Fewer than four bytes are an unfinished string. -/
def hexUnit (text : List Char) : Except Fault Nat :=
  if byteCount (text.take 4) < 4 then faultAt .endInString []
  else
    match hexQuad? text with
    | some unit => .ok unit
    | none => .error ⟨.invalidEscape, text, 4⟩

def isHighSurrogate (unit : Nat) : Bool := 0xD800 ≤ unit && unit < 0xDC00

def isLowSurrogate (unit : Nat) : Bool := 0xDC00 ≤ unit && unit < 0xE000

/-- Stands for a surrogate that is passed over. -/
def placeholder : Char := '\uFFFD'

/-- The character that a backslash and one more character stand for. -/
def shortEscape? (c : Char) : Option Char :=
  match c with
  | '"' => some '"'
  | '\\' => some '\\'
  | '/' => some '/'
  | 'b' => some '\x08'
  | 'f' => some '\x0C'
  | 'n' => some '\n'
  | 'r' => some '\r'
  | 't' => some '\t'
  | _ => none

/-- The low half of a surrogate pair, of which `high` has been read: the
character, and the number of characters of the second escape. -/
def lowHalf (high : Nat) (text : List Char) : Except Fault (Char × Nat) :=
  match text with
  | [] => faultAt .endInString []
  | '\\' :: [] => faultAt .endInString []
  | '\\' :: 'u' :: rest =>
      (hexUnit rest).bind fun low =>
        if isLowSurrogate low then
          .ok (Char.ofNat (0x10000 + (high - 0xD800) * 0x400 + (low - 0xDC00)), 6)
        else faultAt .loneSurrogate (rest.drop 4)
  | '\\' :: c :: rest => faultNext .unfinishedEscape (c :: rest)
  | c :: rest => faultNext .unfinishedEscape (c :: rest)

/-- What a backslash begins: the character it stands for, and the number of
characters after the backslash that belong to it. -/
def escape (care : Care) (text : List Char) : Except Fault (Char × Nat) :=
  match text with
  | [] => faultAt .endInString []
  | 'u' :: rest =>
      (hexUnit rest).bind fun unit =>
        if care = .dropped then .ok (placeholder, 5)
        else if isLowSurrogate unit then faultAt .loneSurrogate (rest.drop 4)
        else if isHighSurrogate unit then
          (lowHalf unit (rest.drop 4)).map fun (c, length) => (c, length + 5)
        else .ok (Char.ofNat unit, 5)
  | c :: rest =>
      match shortEscape? c with
      | some meant => .ok (meant, 1)
      | none => faultNext .invalidEscape (c :: rest)

/-- The characters up to the closing quote. The first argument counts the
characters that belong to an escape already read. -/
def stringFrom (care : Care) : Nat → Reader (List Char)
  | _, [] => faultAt .endInString []
  | pending + 1, _ :: rest => stringFrom care pending rest
  | 0, c :: rest =>
      if c = '"' then .ok ([], rest)
      else if c = '\\' then
        (escape care rest).bind fun (meant, length) =>
          (stringFrom care length rest).map fun (more, left) => (meant :: more, left)
      else if c.toNat < 0x20 then faultNext .controlCharacter (c :: rest)
      else (stringFrom care 0 rest).map fun (more, left) => (c :: more, left)

/-- A string, whose opening quote has been read. -/
def string (care : Care) : Reader String := fun text =>
  (stringFrom care 0 text).map fun (chars, rest) => (String.ofList chars, rest)

/-! ### Numbers -/

/-- The digits before the point: a zero alone, or digits that do not begin with
one. -/
def wholePart : Reader (List Nat)
  | [] => faultAt .endInValue []
  | c :: rest =>
      match digit? c with
      | none => faultNext .invalidNumber (c :: rest)
      | some 0 =>
          match takeDigits rest with
          | ([], left) => .ok ([0], left)
          | _ => faultNext .invalidNumber rest
      | some d => let (more, left) := takeDigits rest; .ok (d :: more, left)

def fractionPart : Reader (Option (List Nat))
  | '.' :: rest =>
      match takeDigits rest with
      | ([], []) => faultNext .endInValue []
      | ([], left) => faultNext .invalidNumber left
      | (found, left) => .ok (some found, left)
  | text => .ok (none, text)

def exponentPart : Reader (Option (Bool × List Nat))
  | c :: rest =>
      if c = 'e' ∨ c = 'E' then
        let (shrinks, unsigned) := takeSign rest
        match takeDigits unsigned with
        | ([], []) => faultAt .endInValue []
        | ([], left) => faultNext .invalidNumber left
        | (found, left) => .ok (some (shrinks, found), left)
      else .ok (none, c :: rest)
  | [] => .ok (none, [])

/-- A numeral after its sign. -/
def numeral (negative : Bool) : Reader Numeral := fun text =>
  (wholePart text).bind fun (whole, afterWhole) =>
    (fractionPart afterWhole).bind fun (fraction, afterFraction) =>
      (exponentPart afterFraction).map fun (exponent, rest) =>
        (⟨negative, whole, fraction, exponent⟩, rest)

/-- A number after its sign. It is out of range at its end, or at the digit of
the exponent that makes the exponent too large. -/
def number (care : Care) (negative : Bool) : Reader Number := fun text =>
  (numeral negative text).bind fun (numeral, rest) =>
    match numeral.value? with
    | some value => .ok (value, rest)
    | none =>
        if care = .dropped then .ok (.integer 0, rest)
        else
          let unread := rest.length + (numeral.exponentExcess.length - 1)
          faultAt .numberOutOfRange (text.drop (text.length - unread))

/-! ### Arrays and objects -/

/-- The items of an array whose bracket has been read. -/
def itemsFrom {σ : Type} (step : σ → Reader σ) : Nat → Bool → σ → Reader σ
  | 0, _, _, text => faultNext .endInList text
  | fuel + 1, isFirst, state, text =>
      match skipSpace text with
      | [] => faultNext .endInList []
      | c :: rest =>
          if c = ']' then .ok (state, rest)
          else if isFirst then
            (step state (c :: rest)).bind fun (next, left) => itemsFrom step fuel false next left
          else if c = ',' then
            match skipSpace rest with
            | [] => faultNext .endInValue []
            | d :: more =>
                if d = ']' then faultNext .trailingComma (d :: more)
                else
                  (step state (d :: more)).bind fun (next, left) =>
                    itemsFrom step fuel false next left
          else faultNext .expectedListComma (c :: rest)

def items {σ : Type} (step : σ → Reader σ) (start : σ) : Reader σ := fun text =>
  itemsFrom step (text.length + 1) true start text

/-- The colon after a key. -/
def colon : Reader Unit := fun text =>
  match skipSpace text with
  | [] => faultNext .endInObject []
  | c :: rest => if c = ':' then .ok ((), rest) else faultNext .expectedColon (c :: rest)

/-- The entries of an object whose brace has been read. The step is given the
key, and the text from the end of the key on. -/
def entriesFrom {σ : Type} (keys : Care) (step : σ → String → Reader σ) : Nat → Bool → σ → Reader σ
  | 0, _, _, text => faultNext .endInObject text
  | fuel + 1, isFirst, state, text =>
      let entry (quoted : List Char) : Except Fault (σ × List Char) :=
        (string keys quoted).bind fun (key, afterKey) =>
          (step state key afterKey).bind fun (next, left) =>
            entriesFrom keys step fuel false next left
      match skipSpace text with
      | [] => faultNext .endInObject []
      | c :: rest =>
          if c = '}' then .ok (state, rest)
          else if isFirst then
            if c = '"' then entry rest else faultNext .keyNotString (c :: rest)
          else if c = ',' then
            match skipSpace rest with
            | [] => faultNext .endInValue []
            | d :: more =>
                if d = '"' then entry more
                else if d = '}' then faultNext .trailingComma (d :: more)
                else faultNext .keyNotString (d :: more)
          else faultNext .expectedObjectComma (c :: rest)

def entries {σ : Type} (keys : Care) (step : σ → String → Reader σ) (start : σ) : Reader σ :=
  fun text => entriesFrom keys step (text.length + 1) true start text

/-! ### Values -/

/-- A value, given the reader for the values inside it, if any may be. -/
def valueWith (care : Care) (inner : Option (Reader Json)) : Reader Json := fun text =>
  match skipSpace text with
  | [] => faultNext .endInValue []
  | 'n' :: rest => (word "ull".toList rest).map fun (_, left) => (.null, left)
  | 't' :: rest => (word "rue".toList rest).map fun (_, left) => (.boolean true, left)
  | 'f' :: rest => (word "alse".toList rest).map fun (_, left) => (.boolean false, left)
  | '-' :: rest => (number care true rest).map fun (value, left) => (.number value, left)
  | '"' :: rest => (string care rest).map fun (text, left) => (.string text, left)
  | '[' :: rest =>
      match inner with
      | none => faultNext .tooDeep ('[' :: rest)
      | some item =>
          (items (fun found text => (item text).map fun (value, left) => (value :: found, left))
            [] rest).map fun (found, left) => (.array found.reverse, left)
  | '{' :: rest =>
      match inner with
      | none => faultNext .tooDeep ('{' :: rest)
      | some item =>
          (entries care (fun found key text =>
            (colon text).bind fun (_, afterColon) =>
              (item afterColon).map fun (value, left) => (upsert key value found, left))
            [] rest).map fun (found, left) => (.object found, left)
  | c :: rest =>
      match digit? c with
      | some _ => (number care false (c :: rest)).map fun (value, left) => (.number value, left)
      | none => faultNext .expectedValue (c :: rest)

/-- A value that opens at most `depth` levels. -/
def value (care : Care) : Nat → Reader Json
  | 0 => valueWith care none
  | depth + 1 => valueWith care (some (value care depth))

/-! ### Documents -/

/-- The number of levels a document may open. -/
def depthLimit : Nat := 127

/-- A reader's answer for a whole text, after which only space may follow. -/
def whole {α : Type} (reader : Reader α) (text : List Char) : Except Fault α :=
  (reader text).bind fun (answer, rest) =>
    match skipSpace rest with
    | [] => .ok answer
    | c :: left => faultNext .trailingCharacters (c :: left)

end Reader

/-- The value of a JSON text. -/
def parse (source : String) : Except Complaint Json :=
  (Reader.whole (Reader.value .kept Reader.depthLimit) source.toList).mapError
    (Fault.locate source.toList)

end LiveScope.Json
