/- # LiveScope.Log — what is told about a run

Everything the library reports while it works is an `Event`; its severity, its
wording and the fields that go with it follow from it.
-/
import LiveScope.Json.Value

namespace LiveScope

set_option autoImplicit false

namespace Log

/-- Severities, the gravest first. -/
inductive Level where
  | warn
  | info
  | debug
  deriving DecidableEq, Repr

namespace Level

def name : Level → String
  | .warn => "warn"
  | .info => "info"
  | .debug => "debug"

def ofName? : String → Option Level
  | "warn" => some .warn
  | "info" => some .info
  | "debug" => some .debug
  | _ => none

def rank : Level → Nat
  | .warn => 0
  | .info => 1
  | .debug => 2

/-- Does a log of this level show events of the other? -/
def shows (threshold level : Level) : Bool := level.rank ≤ threshold.rank

end Level

inductive Event where
  | emptyRoot (found : Json.Kind)
  | inferred (keys definitions : Nat)
  | reservedKey (key : String)
  | unbindableKey (key : String)
  | unknownKey (key root : String)
  | synthesized (definitions bindings bytes : Nat)
  | hostMissing (path : String)
  | installed (path : String) (id bytes : Nat)
  | rejected (path error : String)
  | disposed (path : String) (id : Nat)
  | mounted (path : String) (disabled focused : Bool)
  | scopeChanged (keys : Nat)
  | unmounted (path : String)
  deriving DecidableEq, Repr

namespace Event

def level : Event → Level
  | .reservedKey _ | .unbindableKey _ | .unknownKey _ _ | .rejected _ _ => .warn
  | .mounted _ _ _ | .unmounted _ => .info
  | .emptyRoot _ | .inferred _ _ | .synthesized _ _ _ | .hostMissing _ | .installed _ _ _
  | .disposed _ _ | .scopeChanged _ => .debug

def message : Event → String
  | .emptyRoot _ => "Top-level value is not an object, inferring empty root"
  | .inferred _ _ => "Scope inference complete"
  | .reservedKey _ => "Scope key is a reserved word, its binding will not type-check"
  | .unbindableKey _ => "Scope key is not a valid identifier, its binding will not type-check"
  | .unknownKey _ _ => "Scope key has no field in the root definition"
  | .synthesized _ _ _ => "Synthesized declaration document"
  | .hostMissing _ => "No language host attached, skipping declaration install"
  | .installed _ _ _ => "Installed scope declarations"
  | .rejected _ _ => "Language host rejected scope declarations"
  | .disposed _ _ => "Disposed scope declarations"
  | .mounted _ _ _ => "Expression editor mounted"
  | .scopeChanged _ => "Scope changed, reinstalling declarations"
  | .unmounted _ => "Expression editor unmounted"

private def count (n : Nat) : Json := .number (.integer n)

def fields : Event → List (String × Json)
  | .emptyRoot found => [("kind", .string found.name)]
  | .inferred keys definitions => [("keys", count keys), ("definitions", count definitions)]
  | .reservedKey key | .unbindableKey key => [("key", .string key)]
  | .unknownKey key root => [("key", .string key), ("root", .string root)]
  | .synthesized definitions bindings bytes =>
      [("definitions", count definitions), ("bindings", count bindings), ("bytes", count bytes)]
  | .hostMissing path | .unmounted path => [("path", .string path)]
  | .installed path id bytes =>
      [("path", .string path), ("id", count id), ("bytes", count bytes)]
  | .rejected path error => [("path", .string path), ("error", .string error)]
  | .disposed path id => [("path", .string path), ("id", count id)]
  | .mounted path disabled focused =>
      [("path", .string path), ("disabled", .boolean disabled), ("focused", .boolean focused)]
  | .scopeChanged keys => [("keys", count keys)]

def toJson (event : Event) : Json :=
  .object [("level", .string event.level.name), ("message", .string event.message),
    ("fields", .object event.fields)]

end Event

end Log

end LiveScope
