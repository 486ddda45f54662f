/- # LiveScope.Shape.Basic — structural types and their definitions

A `Shape` is what is known of a value: its primitive kind, that it is an array of
one shape, or that it is a record, by the name of a definition. `any` stands for
values that say nothing. A `Catalog` is a list of definitions that is not empty;
the first one, its root, is the record of the whole scope. `Catalog.get?` finds
the first definition of a name.
-/
namespace LiveScope

set_option autoImplicit false

inductive Shape where
  | any
  | string
  | number
  | boolean
  | array (element : Shape)
  | reference (name : String)
  deriving DecidableEq, Repr, Inhabited

structure Field where
  name : String
  shape : Shape
  deriving DecidableEq, Repr, Inhabited

structure Definition where
  name : String
  fields : List Field
  deriving DecidableEq, Repr, Inhabited

structure Catalog where
  root : Definition
  others : List Definition
  deriving DecidableEq, Repr, Inhabited

namespace Shape

/-- The definition the shape points at in the end, through any arrays. -/
def referenced? : Shape → Option String
  | .reference name => some name
  | .array element => element.referenced?
  | _ => none

/-- Neither an array nor a reference. -/
def isPrimitive : Shape → Bool
  | .any | .string | .number | .boolean => true
  | .array _ | .reference _ => false

end Shape

namespace Definition

def field? (definition : Definition) (name : String) : Option Field :=
  definition.fields.find? (·.name == name)

def fieldNames (definition : Definition) : List String := definition.fields.map (·.name)

end Definition

namespace Catalog

def definitions (catalog : Catalog) : List Definition := catalog.root :: catalog.others

def ofDefinitions? : List Definition → Option Catalog
  | [] => none
  | root :: others => some ⟨root, others⟩

def get? (catalog : Catalog) (name : String) : Option Definition :=
  catalog.definitions.find? (·.name == name)

def length (catalog : Catalog) : Nat := catalog.definitions.length

theorem ofDefinitions?_definitions (catalog : Catalog) :
    ofDefinitions? catalog.definitions = some catalog := rfl

end Catalog

end LiveScope
