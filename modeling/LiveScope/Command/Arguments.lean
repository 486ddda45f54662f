/- # LiveScope.Command.Arguments — the command line

A command line is a command with options and operands, in any order. A long
option may carry its value after `=`, a short one directly or after `=`; otherwise
the value is the next argument, which must not look like an option. Short options
that take no value may be joined. After `--` every argument is an operand. No
option may be given twice. Everything else is a usage error.
-/
namespace LiveScope

set_option autoImplicit false

namespace Arguments

/-- An option of a command. -/
structure Flag where
  long : String
  short : Option Char := none
  takesValue : Bool := false
  mayBeEmpty : Bool := true
  deriving DecidableEq, Repr

/-- What a command accepts. `most` bounds the operands, if they are bounded. -/
structure Grammar where
  flags : List Flag
  least : Nat
  most : Option Nat
  mayBeEmpty : Bool := true
  deriving Repr

/-- What was given: options by their long names, the last first, and operands. -/
structure Given where
  values : List (String × String) := []
  switches : List String := []
  operands : List String := []
  deriving DecidableEq, Repr

namespace Given

def value? (given : Given) (long : String) : Option String := given.values.lookup long

def isOn (given : Given) (long : String) : Bool := given.switches.contains long

def setValue (given : Given) (flag : Flag) (value : String) : Option Given :=
  if (given.value? flag.long).isSome ∨ (value.isEmpty ∧ !flag.mayBeEmpty) then none
  else some { given with values := (flag.long, value) :: given.values }

def setSwitch (given : Given) (flag : Flag) : Option Given :=
  if given.isOn flag.long then none
  else some { given with switches := flag.long :: given.switches }

end Given

/-- Split a long option at its first `=`. -/
def splitEquals (text : List Char) : String × Option String :=
  match text.dropWhile (· ≠ '=') with
  | [] => (String.ofList text, none)
  | _ :: value => (String.ofList (text.takeWhile (· ≠ '=')), some (String.ofList value))

/-- What has been read, and the option whose value comes next. -/
abbrev Progress := Given × Option Flag

def readLong (grammar : Grammar) (given : Given) (text : List Char) : Option Progress :=
  let (name, value?) := splitEquals text
  (grammar.flags.find? (·.long == name)).bind fun flag =>
    match flag.takesValue, value? with
    | true, some value => (given.setValue flag value).map (·, none)
    | true, none => some (given, some flag)
    | false, some _ => none
    | false, none => (given.setSwitch flag).map (·, none)

/-- Short options joined in one argument. -/
def readShort (grammar : Grammar) (given : Given) : List Char → Option Progress
  | [] => some (given, none)
  | c :: rest =>
      (grammar.flags.find? (·.short == some c)).bind fun flag =>
        if flag.takesValue then
          match rest with
          | [] => some (given, some flag)
          | '=' :: value => (given.setValue flag (String.ofList value)).map (·, none)
          | value => (given.setValue flag (String.ofList value)).map (·, none)
        else (given.setSwitch flag).bind fun next => readShort grammar next rest

def addOperand (grammar : Grammar) (given : Given) (operand : String) : Option Given :=
  if operand.isEmpty ∧ !grammar.mayBeEmpty then none
  else some { given with operands := given.operands ++ [operand] }

def addOperands (grammar : Grammar) (given : Given) (operands : List String) : Option Given :=
  operands.foldlM (addOperand grammar) given

/-- Read all arguments; an option still waits for its value where one is due. -/
def readAll (grammar : Grammar) : Progress → List String → Option Given
  | (given, none), [] => some given
  | (_, some _), [] => none
  | (given, waiting), argument :: rest =>
      match argument.toList, waiting with
      | '-' :: '-' :: [], none => addOperands grammar given rest
      | '-' :: '-' :: long, none =>
          (readLong grammar given long).bind fun progress => readAll grammar progress rest
      | '-' :: c :: shorts, none =>
          (readShort grammar given (c :: shorts)).bind fun progress =>
            readAll grammar progress rest
      | '-' :: _ :: _, some _ => none
      | _, some flag =>
          (given.setValue flag argument).bind fun next => readAll grammar (next, none) rest
      | _, none =>
          (addOperand grammar given argument).bind fun next => readAll grammar (next, none) rest

def read (grammar : Grammar) (arguments : List String) : Option Given :=
  (readAll grammar ({}, none) arguments).bind fun given =>
    let count := given.operands.length
    if grammar.least ≤ count ∧ grammar.most.all (count ≤ ·) then some given else none

end Arguments

/-! ### Commands -/

structure DeclarationsArguments where
  input : String
  rootName : Option String := none
  out : Option String := none
  toOutput : Bool := false
  config : Option String := none
  deriving DecidableEq, Repr

structure TypesArguments where
  input : String
  rootName : Option String := none
  asJson : Bool := false
  config : Option String := none
  deriving DecidableEq, Repr

structure InitArguments where
  rootName : String := "RootObject"
  outFile : String := "scope.d.ts"
  force : Bool := false
  deriving DecidableEq, Repr

inductive Command where
  | declarations (arguments : DeclarationsArguments)
  | types (arguments : TypesArguments)
  | init (arguments : InitArguments)
  | contrast (colors : List String)
  deriving DecidableEq, Repr

/-- What the program is asked for. -/
inductive Request where
  | version
  | run (command : Command)
  deriving DecidableEq, Repr

namespace Command

open Arguments (Flag Grammar)

def verbose : Flag := { long := "verbose", short := some 'v' }

def rootName : Flag := { long := "root-name", takesValue := true }

def configFile : Flag :=
  { long := "config", short := some 'c', takesValue := true, mayBeEmpty := false }

def declarationsGrammar : Grammar where
  flags := [verbose, rootName, configFile, { long := "stdout" },
    { long := "out", short := some 'o', takesValue := true, mayBeEmpty := false }]
  least := 1
  most := some 1
  mayBeEmpty := false

def typesGrammar : Grammar where
  flags := [verbose, rootName, configFile, { long := "json" }]
  least := 1
  most := some 1
  mayBeEmpty := false

def initGrammar : Grammar where
  flags := [verbose, rootName, { long := "force", short := some 'f' },
    { long := "out-file", short := some 'o', takesValue := true }]
  least := 0
  most := some 0

def contrastGrammar : Grammar where
  flags := [verbose]
  least := 1
  most := none

def readDeclarations (arguments : List String) : Option DeclarationsArguments :=
  (Arguments.read declarationsGrammar arguments).bind fun given =>
    given.operands.head?.map fun input =>
      ⟨input, given.value? "root-name", given.value? "out", given.isOn "stdout",
        given.value? "config"⟩

def readTypes (arguments : List String) : Option TypesArguments :=
  (Arguments.read typesGrammar arguments).bind fun given =>
    given.operands.head?.map fun input =>
      ⟨input, given.value? "root-name", given.isOn "json", given.value? "config"⟩

def readInit (arguments : List String) : Option InitArguments :=
  (Arguments.read initGrammar arguments).map fun given =>
    let default : InitArguments := {}
    ⟨(given.value? "root-name").getD default.rootName,
      (given.value? "out-file").getD default.outFile, given.isOn "force"⟩

def read (name : String) (arguments : List String) : Option Command :=
  match name with
  | "declarations" => (readDeclarations arguments).map .declarations
  | "types" => (readTypes arguments).map .types
  | "init" => (readInit arguments).map .init
  | "contrast" =>
      (Arguments.read contrastGrammar arguments).map fun given => .contrast given.operands
  | _ => none

end Command

namespace Request

/-- What joined short options before the command say: whether `-v` was among
them, or that the version is asked for. -/
def readShort (verbose : Bool) : List Char → Option (Bool ⊕ Unit)
  | [] => some (.inl verbose)
  | 'V' :: _ => some (.inr ())
  | 'v' :: rest => if verbose then none else readShort true rest
  | _ => none

/-- Read the arguments before the command, then the command. -/
def readFrom (verbose : Bool) : List String → Option Request
  | [] => none
  | argument :: rest =>
      match argument.toList with
      | '-' :: '-' :: _ =>
          if argument = "--version" then some .version
          else if argument = "--verbose" ∧ verbose = false then readFrom true rest
          else none
      | '-' :: c :: shorts =>
          match readShort verbose (c :: shorts) with
          | some (.inl seen) => readFrom seen rest
          | some (.inr _) => some .version
          | none => none
      | _ => (Command.read argument rest).map .run

def read (arguments : List String) : Option Request := readFrom false arguments

end Request

end LiveScope
