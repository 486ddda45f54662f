/- # LiveScope.Main — the program

The shell that the machine gives: files, standard input and output. Everything
else is `LiveScope.execute`.
-/
import LiveScope.Command.Run

namespace LiveScope.Main

set_option autoImplicit false

def fileError : IO.Error → FileError
  | .noFileOrDirectory .. => .notFound
  | .noSuchThing .. => .notFound
  | .alreadyExists .. => .alreadyExists
  | .inappropriateType _ code _ => if code = 21 then .isDirectory else .notDirectory
  | error => .other (toString error)

/-- Carry out an action, keeping its failure. -/
def attempt {α : Type} (action : IO α) : IO (Except FileError α) := do
  match ← action.toBaseIO with
  | .ok found => return .ok found
  | .error error => return .error (fileError error)

/-- Everything on a stream. -/
partial def drain (stream : IO.FS.Stream) (found : ByteArray) : IO ByteArray := do
  let more ← stream.read 65536
  if more.isEmpty then return found else drain stream (found ++ more)

instance : Shell IO where
  workingDirectory := return (← IO.currentDir).toString
  readText path := return (← attempt (IO.FS.readBinFile path)).bind decodeText
  readInput := do
    let stream ← IO.getStdin
    return (← attempt (drain stream .empty)).bind decodeText
  fileExists path := do
    match ← attempt (IO.FS.Handle.mk path .read) with
    | .ok _ => return true
    | .error error => return error == .isDirectory
  makeDirectories path := attempt (IO.FS.createDirAll path)
  writeText path text := attempt (IO.FS.writeFile path text)
  print text := do
    let stream ← IO.getStdout
    stream.putStr text
  note text := do
    let stream ← IO.getStderr
    stream.putStr text

end LiveScope.Main

def main (arguments : List String) : IO UInt32 := do
  let code : Nat ← LiveScope.execute arguments
  return code.toUInt32
