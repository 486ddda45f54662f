/- # LiveScope.Command.Config — the configuration file

A configuration holds the options of the declarations and the file they are
written to, all in one object. The file is read as it is met, so it is refused
where it stands; the options are taken from the finished object, entry by entry,
so what is wrong with them is found at its end. Other keys are passed over, but
their values must be proper JSON.
-/
import LiveScope.Json.Printer
import LiveScope.Options

namespace LiveScope

set_option autoImplicit false

structure Config where
  options : Options := {}
  outFile : Option String := none
  deriving DecidableEq, Repr, Inhabited

namespace Config

open Json (Reader Fault Complaint Decoder)
open Json.Reader (skipSpace faultAt mismatch)

def fileName : String := "scopetype.config.json"

/-- What has been read of the object: the file, and all other entries. -/
structure Draft where
  outFile : Option (Option String) := none
  others : List (String × Json) := []

/-- Where an object is left that is given up between two of its parts: after the
space that comes next, and after its brace if that is there. -/
def leave (text : List Char) : List Char :=
  match skipSpace text with
  | '}' :: rest => rest
  | other => other

def readEntry (draft : Draft) (key : String) : Reader Draft := fun text =>
  if key = "outFile" then
    if draft.outFile.isSome then faultAt (.duplicateField key) (leave text)
    else
      (Reader.colon text).bind fun (_, afterColon) =>
        ((Decoder.optional .text).read afterColon).map fun (file, rest) =>
          ({ draft with outFile := some file }, rest)
  else
    (Reader.colon text).bind fun (_, afterColon) =>
      (Reader.value .kept (Reader.depthLimit - 1) afterColon).map fun (value, rest) =>
        ({ draft with others := draft.others ++ [(key, value)] }, rest)

/-- Take one entry into the options. -/
def takeOption (draft : Options.Draft) (entry : String × Json) :
    Except Json.Cause Options.Draft :=
  match Options.fields.find? (·.name == entry.1) with
  | none => .ok draft
  | some field =>
      if field.isSet draft then .error (.duplicateField entry.1)
      else
        match field.decoder.ofJson entry.2 with
        | some set => .ok (set draft)
        | none => .error (.invalidType entry.2.describe "a string")

def finish (draft : Draft) : Except Json.Cause Config :=
  (draft.others.foldlM takeOption {}).map fun options =>
    ⟨options.finish, draft.outFile.getD none⟩

def read : Reader Config := fun text =>
  match skipSpace text with
  | '{' :: rest =>
      (Reader.entries .kept readEntry {} rest).bind fun (draft, left) =>
        match finish draft with
        | .ok config => .ok (config, left)
        | .error cause => faultAt cause left
  | other => mismatch "struct Config" other

def parse (source : String) : Except Complaint Config :=
  (Reader.whole read source.toList).mapError (Fault.locate source.toList)

def toJson (config : Config) : Json :=
  .object ([("rootName", .string config.options.rootName),
      ("indent", .string config.options.indent)]
    ++ match config.outFile with
      | some file => [("outFile", .string file)]
      | none => [])

end Config

end LiveScope
