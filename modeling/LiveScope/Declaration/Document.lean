/- # LiveScope.Declaration.Document — declaration documents

A document declares the interfaces of a catalog and then, after a blank line, one
constant for each key. The type of a constant is an access to the root interface
under its key, so the root alone says what the type is. Without keys the document
ends with the last interface.

`Document.ofScope` is the document of a scope: its inferred definitions and its
keys. Writing a document also reports the keys that cannot be bound.
-/
import LiveScope.Declaration.Interface
import LiveScope.Shape.Inference

namespace LiveScope

set_option autoImplicit false

structure Document where
  text : String
  bindings : List String
  deriving DecidableEq, Repr, Inhabited

namespace Document

def empty : Document := ⟨"", []⟩

/-- The line that declares the constant of a key. -/
def bindingLine (root key : String) : String :=
  "declare const " ++ Declaration.keyText key ++ ": " ++ root ++ "[" ++ Json.quote key ++ "];"

def bindingText (root : String) (keys : List String) : String :=
  if keys.isEmpty then ""
  else "\n" ++ String.intercalate "\n" (keys.map (bindingLine root)) ++ "\n"

def ofCatalog (indent : String) (keys : List String) (catalog : Catalog) : Document :=
  ⟨catalog.text indent ++ "\n" ++ bindingText catalog.root.name keys, keys⟩

def ofScope (options : Options) (scope : Scope) : Document :=
  ofCatalog options.indent scope.keys (Catalog.ofScope options scope)

/-- What is wrong with a key as the name of a constant of the root's fields. -/
def keyLog (root : Definition) (key : String) : List Log.Event :=
  (if Declaration.isIdentifier key then
    if Declaration.isReserved key then [.reservedKey key] else []
  else [.unbindableKey key])
    ++ if (root.field? key).isNone then [.unknownKey key root.name] else []

def catalogLog (indent : String) (keys : List String) (catalog : Catalog) : List Log.Event :=
  keys.flatMap (keyLog catalog.root)
    ++ [.synthesized catalog.length keys.length (ofCatalog indent keys catalog).text.utf8ByteSize]

def scopeLog (options : Options) (scope : Scope) : List Log.Event :=
  Catalog.scopeLog options scope
    ++ catalogLog options.indent scope.keys (Catalog.ofScope options scope)

end Document

end LiveScope
