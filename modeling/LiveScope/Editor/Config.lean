/- # LiveScope.Editor.Config — what is fixed when an editor is made

How its declarations are named and laid out, and the path they are installed
under, if it is not to be a path of its own.
-/
import LiveScope.Options

namespace LiveScope

set_option autoImplicit false

structure EditorConfig where
  options : Options := {}
  path : Option String := none
  deriving DecidableEq, Repr, Inhabited

namespace EditorConfig

structure Draft where
  options : Option Options := none
  path : Option (Option String) := none

def fields : List (Json.Field Draft) :=
  [.of "inference" Options.decoder (·.options)
      (fun options draft => { draft with options := some options }),
    .of "libPath" (.optional .text) (·.path) (fun path draft => { draft with path := some path })]

def Draft.finish (draft : Draft) : EditorConfig :=
  ⟨draft.options.getD {}, draft.path.getD none⟩

def decoder : Json.Decoder EditorConfig :=
  .record fields {} "struct EditorConfig" fun draft => .ok draft.finish

/-- A path that is not fixed is not written. -/
def toJson (config : EditorConfig) : Json :=
  .object (("inference", config.options.toJson) ::
    match config.path with
    | some path => [("libPath", .string path)]
    | none => [])

end EditorConfig

end LiveScope
