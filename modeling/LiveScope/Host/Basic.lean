/- # LiveScope.Host.Basic — the declarations a language service knows

A host keeps declaration documents under paths. Adding one hands out a handle
with an id that was never used before; what lies under the path already is
replaced. Disposing a handle takes away what it added and nothing else: a handle
is stale as soon as its path holds another document or none. A rejecting host
refuses to add and is left as it was.

Every accepted document is counted as added, and when it goes either as disposed
or as replaced.
-/
import LiveScope.Declaration.Document
import LiveScope.Host.Settings
import LiveScope.Shelf

namespace LiveScope

set_option autoImplicit false

/-- The token of one added document. -/
structure Handle where
  id : Nat
  path : String
  deriving DecidableEq, Repr, Inhabited

/-- A document as a host keeps it. -/
structure Lib where
  id : Nat
  document : Document
  deriving DecidableEq, Repr, Inhabited

structure Host where
  lastId : Nat := 0
  libs : Shelf Lib := .empty
  compiler : Option CompilerOptions := none
  diagnostics : Option DiagnosticsOptions := none
  added : Nat := 0
  disposed : Nat := 0
  replaced : Nat := 0
  rejecting : Bool := false
  deriving Inhabited

/-- A host refuses to keep a document under a path. -/
structure Rejection where
  path : String
  deriving DecidableEq, Repr

def Rejection.message (rejection : Rejection) : String :=
  "Language host rejected extra lib '" ++ rejection.path ++ "': host is rejecting extra libs"

namespace Host

def setRejecting (host : Host) (rejecting : Bool) : Host := { host with rejecting }

/-- Set the options under which expressions are checked. -/
def configure (host : Host) : Host :=
  { host with compiler := some {}, diagnostics := some {} }

def isConfigured (host : Host) : Bool := host.compiler.isSome && host.diagnostics.isSome

def add (host : Host) (document : Document) (path : String) :
    Except Rejection (Handle × Host) :=
  if host.rejecting then .error ⟨path⟩
  else
    let id := host.lastId + 1
    .ok (⟨id, path⟩,
      { host with
        lastId := id
        libs := host.libs.insert path ⟨id, document⟩
        added := host.added + 1
        replaced := if host.libs.contains path then host.replaced + 1 else host.replaced })

/-- Is the document under the handle's path the one the handle was given for? -/
def isLive (host : Host) (handle : Handle) : Bool :=
  match host.libs.get? handle.path with
  | some lib => lib.id == handle.id
  | none => false

def dispose (host : Host) (handle : Handle) : Host :=
  if host.isLive handle then
    { host with libs := host.libs.erase handle.path, disposed := host.disposed + 1 }
  else host

def text? (host : Host) (path : String) : Option String :=
  (host.libs.get? path).map (·.document.text)

def paths (host : Host) : List String := host.libs.names

/-- The constants that are visible through all documents, in path order. -/
def visibleBindings (host : Host) : List String :=
  host.libs.values.flatMap (·.document.bindings)

def liveCount (host : Host) : Nat := host.libs.size

end Host

/-- Hosts by name. A name that is not there stands for a host nobody has used. -/
abbrev Hosts := Shelf Host

namespace Hosts

def host (hosts : Hosts) (name : String) : Host := (hosts.get? name).getD {}

def set (hosts : Hosts) (name : String) (host : Host) : Hosts := hosts.insert name host

/-- Make a host that is named for the first time. -/
def touch (hosts : Hosts) (name : String) : Hosts :=
  if hosts.contains name then hosts else hosts.insert name {}

end Hosts

end LiveScope
