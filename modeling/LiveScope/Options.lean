/- # LiveScope.Options — how declarations are named and laid out

The name of the root interface, from which the names of all others are built, and
the text that stands before each of an interface's lines.
-/
import LiveScope.Json.Decoder

namespace LiveScope

set_option autoImplicit false

structure Options where
  rootName : String := "RootObject"
  indent : String := "  "
  deriving DecidableEq, Repr, Inhabited

namespace Options

structure Draft where
  rootName : Option String := none
  indent : Option String := none

def fields : List (Json.Field Draft) :=
  [.of "rootName" .text (·.rootName) (fun text draft => { draft with rootName := some text }),
    .of "indent" .text (·.indent) (fun text draft => { draft with indent := some text })]

/-- What was left out has its default. -/
def Draft.finish (draft : Draft) : Options :=
  let default : Options := {}
  ⟨draft.rootName.getD default.rootName, draft.indent.getD default.indent⟩

def decoder : Json.Decoder Options :=
  .record fields {} "struct InferenceOptions" fun draft => .ok draft.finish

/-- Options for a root name that may be left open. -/
def ofRootName (rootName : Option String) : Options :=
  match rootName with
  | some name => { rootName := name }
  | none => {}

def toJson (options : Options) : Json :=
  .object [("rootName", .string options.rootName), ("indent", .string options.indent)]

end Options

end LiveScope
