/- # LiveScope.Host.Settings — how a language host checks expressions

The compiler options and the diagnostics switches that an editor sets on its
host. The defaults are what expressions need: the latest language level, plain
scripts allowed, nothing emitted, both validations on.
-/
import LiveScope.Json.Value

namespace LiveScope

set_option autoImplicit false

structure CompilerOptions where
  target : String := "Latest"
  allowNonTsExtensions : Bool := true
  moduleResolution : String := "NodeJs"
  module : String := "CommonJS"
  noEmit : Bool := true
  esModuleInterop : Bool := true
  jsx : String := "React"
  reactNamespace : String := "React"
  allowJs : Bool := true
  typeRoots : List String := ["node_modules/@types"]
  deriving DecidableEq, Repr

def CompilerOptions.toJson (options : CompilerOptions) : Json :=
  .object [("target", .string options.target),
    ("allowNonTsExtensions", .boolean options.allowNonTsExtensions),
    ("moduleResolution", .string options.moduleResolution),
    ("module", .string options.module),
    ("noEmit", .boolean options.noEmit),
    ("esModuleInterop", .boolean options.esModuleInterop),
    ("jsx", .string options.jsx),
    ("reactNamespace", .string options.reactNamespace),
    ("allowJs", .boolean options.allowJs),
    ("typeRoots", .array (options.typeRoots.map .string))]

structure DiagnosticsOptions where
  noSemanticValidation : Bool := false
  noSyntaxValidation : Bool := false
  deriving DecidableEq, Repr

def DiagnosticsOptions.toJson (options : DiagnosticsOptions) : Json :=
  .object [("noSemanticValidation", .boolean options.noSemanticValidation),
    ("noSyntaxValidation", .boolean options.noSyntaxValidation)]

end LiveScope
