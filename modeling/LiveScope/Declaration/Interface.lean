/- # LiveScope.Declaration.Interface — shapes and definitions as text

A definition is written as an interface, one field a line. A key is written bare
if it is an identifier and quoted otherwise, so that it never leaves its line.
-/
import LiveScope.Declaration.Identifier
import LiveScope.Json.Quoted
import LiveScope.Shape.Basic

namespace LiveScope

set_option autoImplicit false

namespace Declaration

/-- A key as it is written in front of a colon or as the name of a binding. -/
def keyText (key : String) : String := if isIdentifier key then key else Json.quote key

end Declaration

def Shape.text : Shape → String
  | .any => "any"
  | .string => "string"
  | .number => "number"
  | .boolean => "boolean"
  | .array element => element.text ++ "[]"
  | .reference name => name

def Field.text (field : Field) : String :=
  Declaration.keyText field.name ++ ": " ++ field.shape.text

namespace Definition

def lines (indent : String) (definition : Definition) : List String :=
  ("interface " ++ definition.name ++ " \x7b")
    :: definition.fields.map (fun field => indent ++ field.text ++ ";") ++ ["\x7d"]

def text (indent : String) (definition : Definition) : String :=
  String.intercalate "\n" (definition.lines indent)

end Definition

/-- All interfaces, a blank line between two of them. -/
def Catalog.text (indent : String) (catalog : Catalog) : String :=
  String.intercalate "\n\n" (catalog.definitions.map (Definition.text indent))

end LiveScope
