/- # LiveScope.Shape.Inference — the definitions a scope gives rise to

Every object, the scope itself first, has a definition of its own; equal records
are not merged. An array takes the shape of its first item, null and the item of
an empty array are `any`. The definitions come out in the order in which the
objects are met, each before those of the objects inside it, and each name is
chosen against all that were chosen before: those of the definitions so far.

`shape used path json` is the shape of a value that lies at `path`, with the
definitions it adds to those that have taken the names `used`.
-/
import LiveScope.Log
import LiveScope.Options
import LiveScope.Scope
import LiveScope.Shape.Basic
import LiveScope.Shape.Naming

namespace LiveScope

set_option autoImplicit false

namespace Inference

def names (definitions : List Definition) : List String := definitions.map (·.name)

mutual

def shape (used : List String) (path : String) : Json → Shape × List Definition
  | .null => (.any, [])
  | .boolean _ => (.boolean, [])
  | .number _ => (.number, [])
  | .string _ => (.string, [])
  | .array items =>
      let (element, added) := elementShape used path items
      (.array element, added)
  | .object entries =>
      let (name, taken) := Naming.claim used path
      let (found, below) := fields taken name entries
      (.reference name, ⟨name, found⟩ :: below)

/-- The shape that the items of an array share: that of the first. -/
def elementShape (used : List String) (path : String) : List Json → Shape × List Definition
  | [] => (.any, [])
  | first :: _ => shape used path first

/-- The fields of the definition `owner`, whose name is in use already. -/
def fields (used : List String) (owner : String) :
    List (String × Json) → List Field × List Definition
  | [] => ([], [])
  | (key, value) :: rest =>
      let (found, added) := shape used (Naming.under owner key) value
      let (more, below) := fields (used ++ names added) owner rest
      (⟨key, found⟩ :: more, added ++ below)

end

end Inference

namespace Catalog

/-- The definitions of a scope. -/
def ofScope (options : Options) (scope : Scope) : Catalog :=
  let (name, taken) := Naming.claim [] options.rootName
  let (fields, below) := Inference.fields taken name scope.entries
  ⟨⟨name, fields⟩, below⟩

/-- The definitions of any value; one that is no object counts as an empty scope. -/
def ofJson (options : Options) : Json → Catalog
  | .object entries => ofScope options ⟨entries⟩
  | _ => ofScope options .empty

/-- What inference from a scope reports. -/
def scopeLog (options : Options) (scope : Scope) : List Log.Event :=
  [.inferred scope.entries.length (ofScope options scope).length]

def jsonLog (options : Options) : Json → List Log.Event
  | .object entries => scopeLog options ⟨entries⟩
  | json => .emptyRoot json.kind :: scopeLog options .empty

end Catalog

end LiveScope
