/- # LiveScope.Scope — the data an expression may refer to

A scope is a JSON object: named values, in the order in which they were written.
A text that is not JSON, or not an object, is no scope, and `ScopeError` says
which of the two.
-/
import LiveScope.Json.Reader

namespace LiveScope

set_option autoImplicit false

structure Scope where
  entries : List (String × Json)
  deriving Inhabited

inductive ScopeError where
  | invalidJson (complaint : Json.Complaint)
  | notAnObject (found : Json.Kind)
  deriving DecidableEq, Repr

def ScopeError.message : ScopeError → String
  | .invalidJson complaint => "Scope is not valid JSON: " ++ complaint.message
  | .notAnObject found => "Scope must be a JSON object, found " ++ found.name

namespace Scope

def empty : Scope := ⟨[]⟩

def keys (scope : Scope) : List String := scope.entries.map Prod.fst

def ofJson : Json → Except ScopeError Scope
  | .object entries => .ok ⟨entries⟩
  | json => .error (.notAnObject json.kind)

def parse (source : String) : Except ScopeError Scope :=
  match Json.parse source with
  | .ok json => ofJson json
  | .error complaint => .error (.invalidJson complaint)

end Scope

end LiveScope
