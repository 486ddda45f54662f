/- # LiveScope.Palette.Theme — the palette of a theme

A theme is a JSON object of any content; its palette is the object under the key
`palette`, and empty if there is none. Setting a slot gives the whole theme back
with that slot alone changed: a key keeps its place if it is there and is put at
the end if it is not, in the palette and in the theme.
-/
import LiveScope.Json.Value
import LiveScope.Palette.Contrast

namespace LiveScope

set_option autoImplicit false

abbrev Theme := List (String × Json)

namespace Palette

/-- What a colour of the palette is for. -/
inductive Intent where
  | primary
  | secondary
  deriving DecidableEq, Repr

namespace Intent

def key : Intent → String
  | .primary => "primary"
  | .secondary => "secondary"

/-- The colour where the theme sets none. -/
def defaultMain : Intent → String
  | .primary => "#2196f3"
  | .secondary => "#f50057"

def ofJson? (json : Json) : Option Intent :=
  match json.choice? with
  | some "primary" => some .primary
  | some "secondary" => some .secondary
  | _ => none

end Intent

inductive Mode where
  | light
  | dark
  deriving DecidableEq, Repr

namespace Mode

def key : Mode → String
  | .light => "light"
  | .dark => "dark"

def ofJson? (json : Json) : Option Mode :=
  match json.choice? with
  | some "light" => some .light
  | some "dark" => some .dark
  | _ => none

end Mode

end Palette

namespace Theme

open Palette (Intent Mode InvalidColor contrastText)

/-- The palette's slots, if the theme has a palette. -/
def palette? (theme : Theme) : Option (List (String × Json)) :=
  match theme.lookup "palette" with
  | some (.object slots) => some slots
  | _ => none

def slot? (theme : Theme) (key : String) : Option Json :=
  theme.palette?.bind fun slots => slots.lookup key

/-- The main colour of an intent; an empty one counts as none. -/
def color (theme : Theme) (intent : Intent) : String :=
  match ((theme.slot? intent.key).bind (·.get? "main")).bind Json.text? with
  | some main => if main.isEmpty then intent.defaultMain else main
  | none => intent.defaultMain

def mode? (theme : Theme) : Option Mode := (theme.slot? "mode").bind Mode.ofJson?

def withSlot (theme : Theme) (key : String) (value : Json) : Theme :=
  Json.upsert "palette" (.object (Json.upsert key value (theme.palette?.getD []))) theme

/-- Set the main colour of an intent, with the text colour that goes with it. -/
def withColor (theme : Theme) (intent : Intent) (main : String) : Except InvalidColor Theme :=
  (contrastText main).map fun text =>
    theme.withSlot intent.key (.object [("main", .string main), ("contrastText", .string text)])

def withMode (theme : Theme) (mode : Mode) : Theme := theme.withSlot "mode" (.string mode.key)

end Theme

end LiveScope
