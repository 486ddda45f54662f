/- # LiveScope.Declaration.Identifier — names that stand bare

A name can be written bare if it is an ASCII letter, `_` or `$` followed by such
characters and digits. A reserved word can be written bare too, but nothing can
be declared under it.
-/
import LiveScope.Shape.Naming

namespace LiveScope.Declaration

set_option autoImplicit false

open Naming (isWordChar)

def isIdentifierStart (c : Char) : Bool := c.isAlpha || c == '_' || c == '$'

def isIdentifierChars : List Char → Bool
  | [] => false
  | c :: rest => isIdentifierStart c && rest.all isWordChar

def isIdentifier (name : String) : Bool := isIdentifierChars name.toList

def reservedWords : List String :=
  ["await", "break", "case", "catch", "class", "const", "continue", "debugger", "default",
    "delete", "do", "else", "enum", "export", "extends", "false", "finally", "for", "function",
    "if", "implements", "import", "in", "instanceof", "interface", "let", "new", "null",
    "package", "private", "protected", "public", "return", "static", "super", "switch", "this",
    "throw", "true", "try", "typeof", "var", "void", "while", "with", "yield"]

def isReserved (name : String) : Bool := reservedWords.contains name

end LiveScope.Declaration
