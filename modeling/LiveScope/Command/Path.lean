/- # LiveScope.Command.Path — paths

A path is a list of parts between slashes. An empty part says nothing. `.` says that
what comes before it is a directory, and so does a slash at the end; `..` leads to the
directory above. Every other part is a name.
-/
namespace LiveScope.Path

set_option autoImplicit false

/-- Can something in a directory be called so? -/
def IsName (text : String) : Prop :=
  text ≠ "" ∧ text ≠ "." ∧ text ≠ ".." ∧ '/' ∉ text.toList

instance (text : String) : Decidable (IsName text) :=
  inferInstanceAs (Decidable (_ ∧ _ ∧ _ ∧ _))

structure Name where
  text : String
  isName : IsName text
  deriving DecidableEq, Repr

inductive Part where
  | here
  | up
  | named (name : Name)
  deriving DecidableEq, Repr

namespace Part

def text : Part → String
  | .here => "."
  | .up => ".."
  | .named name => name.text

/-- The part that a text between slashes is; none if it is empty. -/
def ofText? (text : String) : Option Part :=
  if text = "." then some .here
  else if text = ".." then some .up
  else if isName : IsName text then some (.named ⟨text, isName⟩)
  else none

end Part

/-- The texts between the slashes. -/
def splitSlashes : List Char → List (List Char)
  | [] => [[]]
  | c :: rest =>
      match splitSlashes rest with
      | [] => [[c]]
      | part :: parts => if c = '/' then [] :: part :: parts else (c :: part) :: parts

def parts (path : String) : List Part :=
  (splitSlashes path.toList).filterMap fun chars => Part.ofText? (String.ofList chars)

/-- The path of names that are in one another. -/
def ofNames (names : List Name) : String := "/".intercalate (names.map Name.text)

def endsWithSlash (path : String) : Bool := path.toList.getLast? == some '/'

def isAbsolute (path : String) : Bool := path.toList.head? == some '/'

/-- Does the part lead nowhere? -/
def isSilent (part : List Char) : Bool := part.isEmpty || part == ['.']

/-- Is the path the given name, with nothing after it that leads anywhere? A `.` in
front makes a path another one. -/
def isName (name path : String) : Bool :=
  match splitSlashes path.toList with
  | [] => false
  | first :: rest => first == name.toList && rest.all isSilent

/-- A path as seen from a directory. -/
def join (directory path : String) : String :=
  if isAbsolute path then path
  else if endsWithSlash directory then directory ++ path
  else directory ++ "/" ++ path

/-- The path of the directory above, if any part is left: the text before the last
part that says something. -/
def parent? (path : String) : Option String :=
  let reversed := (splitSlashes path.toList).reverse
  let above := ((reversed.dropWhile isSilent).drop 1).dropWhile isSilent
  if above.isEmpty then none
  else some (String.intercalate "/" (above.reverse.map String.ofList))

end LiveScope.Path
