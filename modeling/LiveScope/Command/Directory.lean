/- # LiveScope.Command.Directory — a tree of files, described

A tree has files and directories in it, and devices. A place in it is known by the
names that lead there from the root. One of its directories is the working one; that
one and those above it are always there. What else is in the working directory is
kept under its path from there, what is outside under its path from the root. There
are no links, so a place has no other names.

A path is walked part by part, from the root if it is absolute and from the working
directory if it is not: what is walked through must be a directory, `.` stays there,
and `..` leads to the directory above. The root is above itself.

A path that is to be written to is walked up to its last part; if a slash follows,
or that part is a dot or two, the path is that of a directory and is refused.

A `Bench` is a tree with the streams of a program. Devices give access to them
under a path; what has been read from the input is used up, whichever way it was read.
-/
import LiveScope.Command.Path
import LiveScope.Command.Shell
import LiveScope.Shelf

namespace LiveScope

set_option autoImplicit false

/-- What is read from or written to under a path, and is no file: nothing at all,
or a stream of the program. -/
inductive Device where
  | null
  | input
  | output
  | notes
  deriving DecidableEq, Repr

inductive Node where
  | directory
  | file (content : ByteArray)
  | device (device : Device)
  deriving Inhabited

/-- Contents are compared by the instance of `ByteArray` that is named here,
whatever others there are. -/
instance : DecidableEq Node
  | .directory, .directory => isTrue rfl
  | .file a, .file b =>
      @decidable_of_decidable_of_iff _ _ (ByteArray.instDecidableEq a b)
        (Iff.of_eq (Node.file.injEq a b).symm)
  | .device a, .device b =>
      decidable_of_decidable_of_iff (Iff.of_eq (Node.device.injEq a b).symm)
  | .directory, .file _ | .directory, .device _ => isFalse nofun
  | .file _, .directory | .file _, .device _ => isFalse nofun
  | .device _, .directory | .device _, .file _ => isFalse nofun

/-- A tree with a working directory: the path from the root that leads there, what is in it,
and what is outside. -/
structure Directory where
  name : String
  nodes : Shelf Node := .empty
  surroundings : Shelf Node := .empty

/-- A place in a tree, whether there is something or not. -/
structure Place where
  names : List Path.Name := []
  deriving DecidableEq, Repr

namespace Place

open LiveScope.Path (Part)

def root : Place := {}

/-- The place one part further on. -/
def step (here : Place) : Part → Place
  | .here => here
  | .up => ⟨here.names.dropLast⟩
  | .named name => ⟨here.names ++ [name]⟩

/-- The place that parts lead to if there is nothing in the way. -/
def follow (here : Place) (parts : List Part) : Place := parts.foldl step here

/-- The absolute path of a place. -/
def path (place : Place) : String := "/" ++ Path.ofNames place.names

end Place

namespace Directory

open LiveScope.Path (Part)

/-- The working directory. -/
def work (directory : Directory) : Place := Place.root.follow (Path.parts directory.name)

/-- Where what is at a place is kept. -/
inductive Slot where
  | inside (path : String)
  | outside (path : String)
  deriving DecidableEq, Repr

def slot (directory : Directory) (place : Place) : Slot :=
  match directory.work.names.isPrefixOf? place.names with
  | some below => .inside (Path.ofNames below)
  | none => .outside place.path

def kept (directory : Directory) : Slot → Option Node
  | .inside path => directory.nodes.get? path
  | .outside path => directory.surroundings.get? path

/-- What is at a place. -/
def nodeAt (directory : Directory) (place : Place) : Option Node :=
  if place.names.isPrefixOf directory.work.names then some .directory
  else directory.kept (directory.slot place)

def put (directory : Directory) (place : Place) (node : Node) : Directory :=
  match directory.slot place with
  | .inside path => { directory with nodes := directory.nodes.insert path node }
  | .outside path => { directory with surroundings := directory.surroundings.insert path node }

/-- What a system has outside a working directory: the directories under the root,
and the devices. -/
def system : Shelf Node :=
  let top := ["/bin", "/boot", "/dev", "/etc", "/home", "/lib", "/media", "/mnt", "/opt",
    "/proc", "/root", "/run", "/sbin", "/srv", "/sys", "/tmp", "/usr", "/var"]
  let streams (above : String) : List (String × Node) :=
    [(above ++ "/0", .device .input), (above ++ "/1", .device .output),
      (above ++ "/2", .device .notes)]
  let directories := top ++ ["/dev/fd", "/proc/self", "/proc/self/fd"]
  let devices : List (String × Node) :=
    [("/dev/null", .device .null), ("/dev/stdin", .device .input),
      ("/dev/stdout", .device .output), ("/dev/stderr", .device .notes)]
  let found := directories.map (fun path => (path, Node.directory)) ++ devices
    ++ streams "/dev/fd" ++ streams "/proc/self/fd"
  found.foldl (fun shelf (path, node) => shelf.insert path node) .empty

/-- The greatest number of bytes in a part. -/
def longestPart : Nat := 255

/-- The greatest number of bytes in a path. -/
def longestPath : Nat := 4095

/-- What is wrong with a path before it is walked. -/
def vet (path : String) : Except FileError Unit :=
  if path.isEmpty then .error .notFound
  else if path.contains '\x00' then .error .nulInName
  else if longestPath < path.utf8ByteSize then .error .nameTooLong
  else .ok ()

/-- Walk on from a place. -/
def walk (directory : Directory) : Place → List Part → Except FileError Place
  | here, [] => .ok here
  | here, part :: rest =>
      match directory.nodeAt here with
      | none => .error .notFound
      | some (.file _) | some (.device _) => .error .notDirectory
      | some .directory =>
          if longestPart < part.text.utf8ByteSize then .error .nameTooLong
          else directory.walk (here.step part) rest

/-- The place from which a path is walked. -/
def begin (directory : Directory) (path : String) : Place :=
  if Path.isAbsolute path then .root else directory.work

/-- The place of a path, whether there is something or not; before a slash at the
end there must be a directory. -/
def locate (directory : Directory) (path : String) : Except FileError Place :=
  (vet path).bind fun _ =>
    let parts := Path.parts path
    directory.walk (directory.begin path)
      (if Path.endsWithSlash path then parts ++ [.here] else parts)

/-- What a path that is to be read leads to. -/
def find (directory : Directory) (path : String) : Except FileError Node :=
  (directory.locate path).bind fun place =>
    match directory.nodeAt place with
    | some node => .ok node
    | none => .error .notFound

def isThere (directory : Directory) (path : String) : Bool :=
  match directory.locate path with
  | .error _ => false
  | .ok place => (directory.nodeAt place).isSome

/-- Make one directory. -/
def makeOne (directory : Directory) (start : Place) (parts : List Part) :
    Except FileError Directory :=
  (directory.walk start parts).bind fun place =>
    match directory.nodeAt place with
    | none => .ok (directory.put place .directory)
    | some _ => .error .alreadyExists

def isDirectoryAt (directory : Directory) (start : Place) (parts : List Part) : Bool :=
  match directory.walk start parts with
  | .ok place => directory.nodeAt place == some .directory
  | .error _ => false

/-- Make a directory, first those above it if they are missing. The parts come
last first. What was made before a failure stays. -/
def makeAll (directory : Directory) (start : Place) :
    List Part → Except FileError Unit × Directory
  | [] => (.ok (), directory)
  | part :: above =>
      let parts := (part :: above).reverse
      let settle (made : Directory) (error : FileError) : Except FileError Unit × Directory :=
        if made.isDirectoryAt start parts then (.ok (), made) else (.error error, made)
      match directory.makeOne start parts with
      | .ok made => (.ok (), made)
      | .error .notFound =>
          match directory.makeAll start above with
          | (.error error, made) => (.error error, made)
          | (.ok _, made) =>
              match made.makeOne start parts with
              | .ok finished => (.ok (), finished)
              | .error error => settle made error
      | .error error => settle directory error

def makeDirectories (directory : Directory) (path : String) :
    Except FileError Unit × Directory :=
  if path.isEmpty then (.ok (), directory)
  else
    match vet path with
    | .error error => (.error error, directory)
    | .ok _ =>
        directory.makeAll (directory.begin path) ((Path.parts path).filter (· ≠ .here)).reverse

/-- The place that a path leads to when it is to be written to: no directory is
there, and what is above it is one. -/
def destination (directory : Directory) (path : String) : Except FileError Place :=
  (vet path).bind fun _ =>
    let parts := Path.parts path
    match parts.getLast? with
    | none => .error .isDirectory
    | some last =>
        (directory.walk (directory.begin path) (parts.dropLast ++ [.here])).bind fun parent =>
          if last = .here ∨ last = .up ∨ Path.endsWithSlash path then .error .isDirectory
          else
            (directory.walk parent [last]).bind fun place =>
              if directory.nodeAt place = some .directory then .error .isDirectory
              else .ok place

/-- A file, or a directory, with the directories above it. -/
def plant (directory : Directory) (path : String) (node : Node) : Directory :=
  let parts := Path.parts path
  let (_, made) := directory.makeAll directory.work parts.dropLast.reverse
  made.put (directory.work.follow parts) node

end Directory

/-- A tree with standard input and what was printed. -/
structure Bench where
  directory : Directory
  input : ByteArray := .empty
  output : String := ""
  notes : String := ""

namespace Bench

/-- The text that is left on the input, which is used up. -/
def readInput : StateM Bench (Except FileError String) := do
  let bench ← get
  set { bench with input := .empty }
  return decodeText bench.input

def print (text : String) : StateM Bench Unit :=
  modify fun bench => { bench with output := bench.output ++ text }

def note (text : String) : StateM Bench Unit :=
  modify fun bench => { bench with notes := bench.notes ++ text }

/-- The text that a device gives. -/
def readDevice : Device → StateM Bench (Except FileError String)
  | .input => readInput
  | .null | .output | .notes => return .ok ""

/-- A device takes a text; what is written to the input goes nowhere. -/
def writeDevice (text : String) : Device → StateM Bench Unit
  | .null | .input => return
  | .output => print text
  | .notes => note text

def readText (path : String) : StateM Bench (Except FileError String) := do
  match (← get).directory.find path with
  | .error error => return .error error
  | .ok .directory => return .error .isDirectory
  | .ok (.file content) => return decodeText content
  | .ok (.device device) => readDevice device

def writeText (path text : String) : StateM Bench (Except FileError Unit) := do
  let bench ← get
  match bench.directory.destination path with
  | .error error => return .error error
  | .ok place =>
      match bench.directory.nodeAt place with
      | some (.device device) => writeDevice text device
      | _ => set { bench with directory := bench.directory.put place (.file text.toUTF8) }
      return .ok ()

instance : Shell (StateM Bench) where
  workingDirectory := return (← get).directory.work.path
  readText := readText
  readInput := readInput
  fileExists path := return (← get).directory.isThere path
  makeDirectories path := do
    let bench ← get
    let (made, directory) := bench.directory.makeDirectories path
    set { bench with directory }
    return made
  writeText := writeText
  print := print
  note := note

end Bench

end LiveScope
