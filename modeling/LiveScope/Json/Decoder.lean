/- # LiveScope.Json.Decoder — records in JSON

A `Decoder` reads a type from a value and, without building the value first,
from text. A record is an object whose unknown keys are passed over, or an array
that lists its fields in order, of which trailing ones may be left out. In a
text a repeated field is an error; an object value has no repeated keys.

`Field` ties one field to the record under construction, so that one list of
fields gives both readings of a record.
-/
import LiveScope.Json.Reader
import LiveScope.Text.Revealed

namespace LiveScope.Json

set_option autoImplicit false

/-- How a value is named in the message that it has the wrong type. -/
def describe : Json → String
  | .null => "null"
  | .boolean value => "boolean `" ++ (if value then "true" else "false") ++ "`"
  | .number (.integer value) => "integer `" ++ toString value ++ "`"
  | .number value => "floating point `" ++ value.text ++ "`"
  | .string text => "string " ++ Text.revealed text
  | .array _ => "sequence"
  | .object _ => "map"

structure Decoder (α : Type) where
  ofJson : Json → Option α
  read : Reader α

namespace Reader

/-- The fault of a value that has the wrong type. Arrays and objects are not read
to tell what they are; every other value is. -/
def mismatch {α : Type} (expected : String) : Reader α := fun text =>
  match skipSpace text with
  | '[' :: rest => faultAt (.invalidType (describe (.array [])) expected) ('[' :: rest)
  | '{' :: rest => faultAt (.invalidType (describe (.object [])) expected) ('{' :: rest)
  | scalar =>
      (value .kept 0 scalar).bind fun (found, rest) =>
        faultAt (.invalidType (describe found) expected) rest

def text (expected : String) : Reader String := fun unread =>
  match skipSpace unread with
  | '"' :: rest => string .kept rest
  | other => mismatch expected other

end Reader

open Reader (skipSpace word mismatch faultAt)

namespace Decoder

def text : Decoder String where
  ofJson := text?
  read := Reader.text "a string"

def flag : Decoder Bool where
  ofJson := flag?
  read := fun unread =>
    match skipSpace unread with
    | 't' :: rest => (word "rue".toList rest).map fun (_, left) => (true, left)
    | 'f' :: rest => (word "alse".toList rest).map fun (_, left) => (false, left)
    | other => mismatch "a boolean" other

/-- The only character of a string. -/
def single? (text : String) : Option Char :=
  match text.toList with
  | [c] => some c
  | _ => none

def character : Decoder Char where
  ofJson := fun json => json.text?.bind single?
  read := fun unread =>
    (Reader.text "a character" unread).bind fun (text, rest) =>
      match single? text with
      | some c => .ok (c, rest)
      | none => faultAt (.invalidValue (describe (.string text)) "a character") rest

/-- Null stands for a value that is absent. -/
def optional {α : Type} (inner : Decoder α) : Decoder (Option α) where
  ofJson
    | .null => some none
    | json => (inner.ofJson json).map some
  read := fun unread =>
    match skipSpace unread with
    | 'n' :: rest => (word "ull".toList rest).map fun (_, left) => (none, left)
    | other => (inner.read other).map fun (found, left) => (some found, left)

end Decoder

/-- A field of the record `σ` under construction: a decoder of what it does to
the record. -/
structure Field (σ : Type) where
  name : String
  isSet : σ → Bool
  decoder : Decoder (σ → σ)

def Field.of {σ α : Type} (name : String) (inner : Decoder α) (get : σ → Option α)
    (set : α → σ → σ) : Field σ where
  name := name
  isSet := fun draft => (get draft).isSome
  decoder := {
    ofJson := fun json => (inner.ofJson json).map set
    read := fun text => (inner.read text).map fun (found, rest) => (set found, rest) }

namespace Decoder

section Record

variable {σ α : Type} (fields : List (Field σ)) (start : σ)

def draftOfJson (json : Json) : Option σ :=
  (json.record? (fields.map (·.name))).bind fun found =>
    (fields.zip found).foldlM (fun draft (field, value?) =>
      match value? with
      | none => some draft
      | some value => (field.decoder.ofJson value).map fun set => set draft) start

/-- One entry of a record's object text, from the end of its key on. -/
def readEntry (draft : σ) (key : String) : Reader σ := fun text =>
  match fields.find? (·.name == key) with
  | none =>
      (Reader.colon text).bind fun (_, afterColon) =>
        (Reader.value .dropped afterColon.length afterColon).map fun (_, rest) => (draft, rest)
  | some field =>
      if field.isSet draft then faultAt (.duplicateField key) (skipSpace text)
      else
        (Reader.colon text).bind fun (_, afterColon) =>
          (field.decoder.read afterColon).map fun (set, rest) => (set draft, rest)

/-- One item of a record's array text, with the fields that are still to come. -/
def readItem (state : List (Field σ) × σ) : Reader (List (Field σ) × σ) := fun text =>
  match state with
  | ([], _) => faultAt .extraItem text
  | (field :: later, draft) =>
      (field.decoder.read text).map fun (set, rest) => ((later, set draft), rest)

def readDraft (expected : String) : Reader σ := fun text =>
  match skipSpace text with
  | '{' :: rest => Reader.entries .kept (readEntry fields) start rest
  | '[' :: rest =>
      (Reader.items readItem (fields, start) rest).map fun ((_, draft), left) => (draft, left)
  | other => mismatch expected other

/-- A record with the given fields; `finish` fills in what was left out, or names
the field that may not be. -/
def record (expected : String) (finish : σ → Except String α) : Decoder α where
  ofJson := fun json => (draftOfJson fields start json).bind fun draft => (finish draft).toOption
  read := fun text =>
    (readDraft fields start expected text).bind fun (draft, rest) =>
      match finish draft with
      | .ok found => .ok (found, rest)
      | .error name => faultAt (.missingField name) rest

end Record

/-- Read a whole text. -/
def parse {α : Type} (decoder : Decoder α) (source : String) : Except Complaint α :=
  (Reader.whole decoder.read source.toList).mapError (Fault.locate source.toList)

end Decoder

end LiveScope.Json
