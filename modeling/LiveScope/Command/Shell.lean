/- # LiveScope.Command.Shell — what commands ask of their surroundings

Commands read and write files, read standard input and print. `Shell` lists those
requests, so that one text of a command serves the program and a directory that
is only described (`LiveScope.Command.Directory`).
-/
namespace LiveScope

set_option autoImplicit false

/-- Why a file operation fails. -/
inductive FileError where
  | notFound
  | alreadyExists
  | notDirectory
  | isDirectory
  | nameTooLong
  | nulInName
  | notText
  | other (text : String)
  deriving DecidableEq, Repr

def FileError.message : FileError → String
  | .notFound => "No such file or directory (os error 2)"
  | .alreadyExists => "File exists (os error 17)"
  | .notDirectory => "Not a directory (os error 20)"
  | .isDirectory => "Is a directory (os error 21)"
  | .nameTooLong => "File name too long (os error 36)"
  | .nulInName => "file name contained an unexpected NUL byte"
  | .notText => "stream did not contain valid UTF-8"
  | .other text => text

/-- The text of some bytes. -/
def decodeText (content : ByteArray) : Except FileError String :=
  match String.fromUTF8? content with
  | some text => .ok text
  | none => .error .notText

class Shell (m : Type → Type) where
  /-- The absolute path of the working directory. -/
  workingDirectory : m String
  readText : String → m (Except FileError String)
  readInput : m (Except FileError String)
  fileExists : String → m Bool
  /-- Make a directory and those above it, unless it is there. -/
  makeDirectories : String → m (Except FileError Unit)
  writeText : String → String → m (Except FileError Unit)
  /-- Write to standard output. -/
  print : String → m Unit
  /-- Write to standard error. -/
  note : String → m Unit

end LiveScope
