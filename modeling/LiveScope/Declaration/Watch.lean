/- # LiveScope.Declaration.Watch — declarations that follow a scope

A watch keeps the declarations of the last scope text it accepted, first those of
the empty scope. An update tells whether the declarations changed; a text that is
no scope is refused and changes nothing.
-/
import LiveScope.Declaration.Document
import LiveScope.Shape.Codec

namespace LiveScope

set_option autoImplicit false

/-- The declarations of a scope text. -/
def Document.ofText (options : Options) (source : String) : Except ScopeError Document :=
  (Scope.parse source).map (Document.ofScope options)

/-- The definitions of a scope text. -/
def Catalog.ofText (options : Options) (source : String) : Except ScopeError Catalog :=
  (Scope.parse source).map (Catalog.ofScope options)

structure Watch where
  options : Options
  text : String
  deriving DecidableEq, Repr

namespace Watch

def start (options : Options) : Watch := ⟨options, (Document.ofScope options .empty).text⟩

/-- Follow the scope to a new text. -/
def update (watch : Watch) (source : String) : Except ScopeError (Bool × Watch) :=
  (Document.ofText watch.options source).map fun document =>
    if document.text = watch.text then (false, watch)
    else (true, { watch with text := document.text })

/-- The watch after an update; a text that is refused leaves it as it was. -/
def after (watch : Watch) (source : String) : Watch :=
  match watch.update source with
  | .ok (_, next) => next
  | .error _ => watch

end Watch

end LiveScope
