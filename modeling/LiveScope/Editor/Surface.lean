/- # LiveScope.Editor.Surface — what an editor asks of its widget

The surface is the widget a user types into. An editor sets its options, its
text, its focus and its commands; a command is bound to a chord of keys, and the
chord that commits an expression is Ctrl, or Cmd, with `S`.
-/
import LiveScope.Json.Decoder

namespace LiveScope

set_option autoImplicit false

structure SurfaceOptions where
  minimap : Bool := false
  accessibilitySupport : String := "off"
  fixedOverflowWidgets : Bool := true
  readOnly : Bool
  deriving DecidableEq, Repr

def SurfaceOptions.toJson (options : SurfaceOptions) : Json :=
  .object [("minimap", .object [("enabled", .boolean options.minimap)]),
    ("accessibilitySupport", .string options.accessibilitySupport),
    ("fixedOverflowWidgets", .boolean options.fixedOverflowWidgets),
    ("readOnly", .boolean options.readOnly)]

/-- A key with the modifiers held; `ctrlCmd` is Ctrl or Cmd. -/
structure KeyChord where
  ctrlCmd : Bool
  shift : Bool
  alt : Bool
  key : Char
  deriving DecidableEq, Repr, Inhabited

namespace KeyChord

/-- The chord that commits an expression. -/
def commit : KeyChord := ⟨true, false, false, 'S'⟩

structure Draft where
  ctrlCmd : Option Bool := none
  shift : Option Bool := none
  alt : Option Bool := none
  key : Option Char := none

def fields : List (Json.Field Draft) :=
  [.of "ctrlCmd" .flag (·.ctrlCmd) (fun flag draft => { draft with ctrlCmd := some flag }),
    .of "shift" .flag (·.shift) (fun flag draft => { draft with shift := some flag }),
    .of "alt" .flag (·.alt) (fun flag draft => { draft with alt := some flag }),
    .of "key" .character (·.key) (fun key draft => { draft with key := some key })]

/-- No part of a chord may be left out. -/
def Draft.finish (draft : Draft) : Except String KeyChord :=
  match draft.ctrlCmd, draft.shift, draft.alt, draft.key with
  | some ctrlCmd, some shift, some alt, some key => .ok ⟨ctrlCmd, shift, alt, key⟩
  | none, _, _, _ => .error "ctrlCmd"
  | _, none, _, _ => .error "shift"
  | _, _, none, _ => .error "alt"
  | _, _, _, none => .error "key"

def decoder : Json.Decoder KeyChord := .record fields {} "struct KeyChord" Draft.finish

def toJson (chord : KeyChord) : Json :=
  .object [("ctrlCmd", .boolean chord.ctrlCmd), ("shift", .boolean chord.shift),
    ("alt", .boolean chord.alt), ("key", .string (String.singleton chord.key))]

end KeyChord

/-- One request to a surface. -/
inductive SurfaceCall where
  | updateOptions (options : SurfaceOptions)
  | setText (text : String)
  | focus
  | addCommand (chord : KeyChord)
  deriving DecidableEq, Repr

end LiveScope
