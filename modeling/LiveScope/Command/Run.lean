/- # LiveScope.Command.Run — carrying out commands

A command works with whatever `Shell` it is given. It ends at its first failure,
which is told on standard error with what was being done; what it printed before
stays. The configuration is read before the scope, and nothing is written before
both have been read.
-/
import LiveScope.Command.Arguments
import LiveScope.Command.Config
import LiveScope.Command.Path
import LiveScope.Command.Shell
import LiveScope.Declaration.Watch
import LiveScope.Palette.Contrast

namespace LiveScope

set_option autoImplicit false

namespace Command

/-- Where a scope comes from, as it was asked for. -/
structure Source where
  operand : String
  deriving DecidableEq, Repr

namespace Source

/-- Is the scope read from standard input? -/
def isInput (source : Source) : Bool := Path.isName "-" source.operand

/-- The source in the failure to read it. -/
def reading (source : Source) : String :=
  if source.isInput then "from stdin" else source.operand

end Source

inductive Failure where
  | unreadableConfig (path : String) (error : FileError)
  | invalidConfig (path : String) (complaint : Json.Complaint)
  | unreadableScope (source : Source) (error : FileError)
  | invalidScope (source : Source) (error : ScopeError)
  | unwritable (path : String) (error : FileError)
  | fileFailure (error : FileError)
  | invalidColor (error : Palette.InvalidColor)
  deriving DecidableEq, Repr

/-- A failure with its causes. A complaint about JSON is the cause of the message
that tells it, so it is told twice. -/
def Failure.message : Failure → String
  | .unreadableConfig path error => "Cannot read config " ++ path ++ ": " ++ error.message
  | .invalidConfig path complaint => "Invalid config " ++ path ++ ": " ++ complaint.message
  | .unreadableScope source error =>
      "Cannot read scope " ++ source.reading ++ ": " ++ error.message
  | .invalidScope source error =>
      "Invalid scope " ++ source.operand ++ ": " ++ error.message ++
        match error with
        | .invalidJson complaint => ": " ++ complaint.message
        | .notAnObject _ => ""
  | .unwritable path error => "Cannot write " ++ path ++ ": " ++ error.message
  | .fileFailure error => error.message
  | .invalidColor error => error.message

section Run

variable {m : Type → Type} [Monad m] [Shell m]

/-- Go on with an answer, or fail. -/
def orFail {ε α : Type} (failure : ε → Failure) (answer : m (Except ε α)) :
    ExceptT Failure m α :=
  ExceptT.mk do return (← answer).mapError failure

def say (text : String) : ExceptT Failure m Unit := ExceptT.lift (Shell.print text)

/-- The configuration in a file. -/
def loadConfig (path : String) : ExceptT Failure m Config := do
  let source ← orFail (.unreadableConfig path) (Shell.readText path)
  orFail (.invalidConfig path) (pure (Config.parse source))

/-- The named configuration, else that of the working directory if there is one. -/
def findConfig (path? : Option String) : ExceptT Failure m Config := do
  match path? with
  | some path => loadConfig path
  | none =>
      let path := Path.join (← ExceptT.lift Shell.workingDirectory) Config.fileName
      if ← ExceptT.lift (Shell.fileExists path) then loadConfig path else return {}

def loadScope (operand : String) : ExceptT Failure m Scope := do
  let source : Source := ⟨operand⟩
  let text ← orFail (.unreadableScope source)
    (if source.isInput then Shell.readInput else Shell.readText operand)
  orFail (.invalidScope source) (pure (Scope.parse text))

/-- The options of a configuration, under another root name if one is given. -/
def chooseOptions (config : Config) (rootName? : Option String) : Options :=
  match rootName? with
  | some rootName => { config.options with rootName }
  | none => config.options

/-- Write a text to a file, making the directories above it. -/
def deliver (path text : String) : ExceptT Failure m Unit := do
  match Path.parent? path with
  | some parent => orFail .fileFailure (Shell.makeDirectories parent)
  | none => pure ()
  orFail (.unwritable path) (Shell.writeText path text)

/-- The file that declarations are written to, if they are not printed. -/
def chooseFile (arguments : DeclarationsArguments) (config : Config) (directory : String) :
    Option String :=
  if arguments.toOutput then none
  else arguments.out <|> config.outFile.map (Path.join directory)

def writeDeclarations (arguments : DeclarationsArguments) : ExceptT Failure m Unit := do
  let config ← findConfig arguments.config
  let scope ← loadScope arguments.input
  let document := Document.ofScope (chooseOptions config arguments.rootName) scope
  let directory ← ExceptT.lift Shell.workingDirectory
  match chooseFile arguments config directory with
  | none => say document.text
  | some path =>
      deliver path document.text
      ExceptT.lift (Shell.note
        ("  ✓ " ++ toString document.bindings.length ++ " bindings → " ++ path ++ "\n"))

def printTypes (arguments : TypesArguments) : ExceptT Failure m Unit := do
  let config ← findConfig arguments.config
  let scope ← loadScope arguments.input
  let options := chooseOptions config arguments.rootName
  let catalog := Catalog.ofScope options scope
  say ((if arguments.asJson then catalog.toJson.pretty else catalog.text options.indent) ++ "\n")

/-- The scope that a new project begins with. -/
def exampleScope : String :=
  "\x7b\n  \"page\": \x7b \"id\": \"p1\", \"title\": \"Home\" \x7d,\n" ++
    "  \"users\": [\x7b \"name\": \"Ada\", \"admin\": true \x7d]\n\x7d\n"

/-- The configuration that a new project begins with. -/
def startingConfig (arguments : InitArguments) : Config :=
  ⟨{ rootName := arguments.rootName }, some arguments.outFile⟩

def setUp (arguments : InitArguments) : ExceptT Failure m Unit := do
  let directory ← ExceptT.lift Shell.workingDirectory
  let configPath := Path.join directory Config.fileName
  let taken ← ExceptT.lift (Shell.fileExists configPath)
  if taken && !arguments.force then
    say ("⚠️ " ++ Config.fileName ++ " already exists\n")
    say "Use --force to overwrite\n"
  else
    say "📝 Initializing scopetype config...\n"
    let examplePath := Path.join directory "scope.json"
    if !(← ExceptT.lift (Shell.fileExists examplePath)) then
      orFail .fileFailure (Shell.writeText examplePath exampleScope)
      say "  ✓ Created scope.json\n"
    orFail .fileFailure
      (Shell.writeText configPath (startingConfig arguments).toJson.pretty)
    say ("  ✓ Created " ++ Config.fileName ++ "\n")
    say "\n✅ Config initialized!\n\nNext steps:\n  1. Edit scope.json\n"
    say "  2. Run: scopetype declarations scope.json\n"
    say ("  3. Check output in " ++ arguments.outFile ++ "\n")

def printContrast (colors : List String) : ExceptT Failure m Unit := do
  for color in colors do
    let text ← orFail .invalidColor (pure (Palette.contrastText color))
    say (color ++ " → " ++ text ++ "\n")

def run : Command → ExceptT Failure m Unit
  | .declarations arguments => writeDeclarations arguments
  | .types arguments => printTypes arguments
  | .init arguments => setUp arguments
  | .contrast colors => printContrast colors

end Run

end Command

def versionText : String := "scopetype 0.1.0\n"

def usageText : String :=
  "Usage: scopetype [-v] init|declarations|types|contrast [options] [operands]\n"

/-- Carry out a command line: zero is success, one a failure that was told, and
two an error of usage. -/
def execute {m : Type → Type} [Monad m] [Shell m] (arguments : List String) : m Nat := do
  match Request.read arguments with
  | none =>
      Shell.note usageText
      return 2
  | some .version =>
      Shell.print versionText
      return 0
  | some (.run command) =>
      match ← command.run.run with
      | .ok _ => return 0
      | .error failure =>
          Shell.note ("\nError: " ++ failure.message ++ "\n\n")
          return 1

end LiveScope
