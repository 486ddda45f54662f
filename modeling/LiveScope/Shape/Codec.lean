/- # LiveScope.Shape.Codec — definitions as JSON

A shape is an object with its `kind` and, for an array and a reference, what it
is `of`; a field has a `name` and a `type`, a definition a `name` and `fields`,
and a catalog is the array of its definitions. Reading accepts more than is
written: other keys, any order, an `of` that is null where none belongs, and
records as arrays. A shape as an array is its kind and what it is of, both of
them; the kind must then be a string, while under its key it may be any choice.
-/
import LiveScope.Shape.Basic
import LiveScope.Json.Printer

namespace LiveScope

set_option autoImplicit false

namespace Shape

/-- The choices of `kind`. -/
inductive Tag where
  | any
  | string
  | number
  | boolean
  | array
  | reference
  deriving DecidableEq, Repr

def Tag.ofName? : String → Option Tag
  | "any" => some .any
  | "string" => some .string
  | "number" => some .number
  | "boolean" => some .boolean
  | "array" => some .array
  | "reference" => some .reference
  | _ => none

def toJson : Shape → Json
  | .any => .object [("kind", .string "any")]
  | .string => .object [("kind", .string "string")]
  | .number => .object [("kind", .string "number")]
  | .boolean => .object [("kind", .string "boolean")]
  | .array element => .object [("kind", .string "array"), ("of", element.toJson)]
  | .reference name => .object [("kind", .string "reference"), ("of", .string name)]

/-- The shape of a tag, given what it is of: the value itself, if there is one,
and that value as a shape. -/
def assemble (tag : Tag) (content : Option Json) (element : Option Shape) : Option Shape :=
  let plain (shape : Shape) : Option Shape :=
    match content with
    | none | some .null => some shape
    | some _ => none
  match tag with
  | .any => plain .any
  | .string => plain .string
  | .number => plain .number
  | .boolean => plain .boolean
  | .array => element.map .array
  | .reference => (content.bind Json.text?).map .reference

mutual

def ofJson? : Json → Option Shape
  | .object entries =>
      (((entries.lookup "kind").bind Json.choice?).bind Tag.ofName?).bind fun tag =>
        assemble tag (entries.lookup "of") (elementOf? entries)
  | .array [.string name, content] =>
      (Tag.ofName? name).bind fun tag => assemble tag (some content) (ofJson? content)
  | _ => none

/-- The shape under the key `of`. -/
def elementOf? : List (String × Json) → Option Shape
  | [] => none
  | (key, value) :: rest => if key = "of" then ofJson? value else elementOf? rest

end

end Shape

namespace Field

def toJson (field : Field) : Json :=
  .object [("name", .string field.name), ("type", field.shape.toJson)]

def ofJson? (json : Json) : Option Field :=
  match json.record? ["name", "type"] with
  | some [some (.string name), some type] => (Shape.ofJson? type).map (⟨name, ·⟩)
  | _ => none

end Field

namespace Definition

def toJson (definition : Definition) : Json :=
  .object [("name", .string definition.name),
    ("fields", .array (definition.fields.map Field.toJson))]

def ofJson? (json : Json) : Option Definition :=
  match json.record? ["name", "fields"] with
  | some [some (.string name), some (.array fields)] =>
      (fields.mapM Field.ofJson?).map (⟨name, ·⟩)
  | _ => none

/-- A list of definitions, which may be empty. -/
def listOfJson? : Json → Option (List Definition)
  | .array items => items.mapM ofJson?
  | _ => none

end Definition

namespace Catalog

def toJson (catalog : Catalog) : Json := .array (catalog.definitions.map Definition.toJson)

def ofJson? (json : Json) : Option Catalog := (Definition.listOfJson? json).bind ofDefinitions?

end Catalog

end LiveScope
