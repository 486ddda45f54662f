/- # LiveScope.Workspace.Operation — operations on a workspace

`Workspace.perform` carries out one operation: it answers or refuses, and tells
what surfaces, callbacks and the log received on the way. An operation that is
refused for a name nobody knows changes nothing.

A registry or an editor that is made under the name of another takes its place,
and the other one is dropped once the new one is made.
-/
import LiveScope.Workspace.Basic

namespace LiveScope

set_option autoImplicit false

namespace Workspace

/-- What is to be installed: the declarations of a scope, a document that was made
before, or an empty one. -/
inductive Content where
  | nothing
  | ofScope (options : Options) (scope : Scope)
  | given (document : Document)
  deriving Inhabited

namespace Content

def document : Content → Document
  | .nothing => .empty
  | .ofScope options scope => .ofScope options scope
  | .given document => document

def events : Content → List Log.Event
  | .nothing | .given _ => []
  | .ofScope options scope => Document.scopeLog options scope

end Content

/-- Props that name their scope. -/
structure PropsRequest where
  value : String
  scope : String
  disabled : Bool
  autoFocus : Bool
  deriving DecidableEq, Repr, Inhabited

/-- A handle, or the name it is kept under. -/
inductive HandleRequest where
  | kept (name : String)
  | given (handle : Handle)
  deriving DecidableEq, Repr

inductive Operation where
  | bindScope (name : String) (scope : Scope)
  | rejectAt (host : String) (rejecting : Bool)
  | addAt (host path : String) (content : Content) (keepAs : Option String)
  | disposeAt (host : String) (handle : HandleRequest)
  | readAt (host path : String)
  | settingsOf (host : String)
  | allocatePath
  | makeRegistry (id : String) (path : Option String)
  | attach (id host : String)
  | detach (id : String)
  | install (id : String) (content : Content)
  | disposeRegistry (id : String)
  | dropRegistry (id : String)
  | describeRegistry (id : String)
  | makeEditor (id : String) (props : PropsRequest) (config : EditorConfig)
      (onCommit : Option String)
  | mount (id host : String)
  | update (id : String) (props : PropsRequest)
  | edit (id : String) (text : Option String)
  | command (id : String) (chord : KeyChord)
  | setOnCommit (id : String) (label : Option String)
  | unmount (id : String)
  | dropEditor (id : String)
  | readDocument (id : String)

inductive Answer where
  | nothing
  | flag (value : Bool)
  | text (value : Option String)
  | handle (value : Handle)
  | settings (compiler : Option CompilerOptions) (diagnostics : Option DiagnosticsOptions)
  | document (value : Document)
  deriving DecidableEq, Repr

/-- Why an operation is refused. -/
inductive Refusal where
  | unknownName
  | unknownScope
  | unknownHandle
  | rejected (rejection : Rejection)
  deriving DecidableEq, Repr

structure Reply where
  workspace : Workspace
  answer : Except Refusal Answer
  effects : List Effect := []

def refuse (workspace : Workspace) (refusal : Refusal) : Reply :=
  { workspace, answer := .error refusal }

def done (workspace : Workspace) (answer : Answer := .nothing) : Reply :=
  { workspace, answer := .ok answer }

/-! ### Hosts -/

def touch (workspace : Workspace) (host : String) : Workspace :=
  { workspace with hosts := workspace.hosts.touch host }

def addAt (workspace : Workspace) (host path : String) (content : Content)
    (keepAs : Option String) : Reply :=
  let logged := content.events.map Effect.logged
  match (workspace.hosts.host host).add content.document path with
  | .ok (handle, changed) =>
      let handles :=
        match keepAs with
        | some name => workspace.handles.insert name handle
        | none => workspace.handles
      ⟨{ workspace with hosts := workspace.hosts.set host changed, handles },
        .ok (.handle handle), logged⟩
  | .error rejection => ⟨workspace.touch host, .error (.rejected rejection), logged⟩

def findHandle (workspace : Workspace) : HandleRequest → Option Handle
  | .kept name => workspace.handles.get? name
  | .given handle => some handle

def disposeAt (workspace : Workspace) (host : String) (request : HandleRequest) : Reply :=
  match workspace.findHandle request with
  | none => workspace.refuse .unknownHandle
  | some handle =>
      { workspace with
        hosts := workspace.hosts.set host ((workspace.hosts.host host).dispose handle) }.done

/-! ### Registries -/

/-- What is left after an operation on the registry `id`. -/
def afterRegistry (workspace : Workspace) (id : String) (outcome : Registry.Outcome) : Reply :=
  ⟨{ workspace with
      hosts := outcome.hosts
      registries := workspace.registries.insert id outcome.registry },
    .ok .nothing, outcome.events.map .logged⟩

/-- Operate on a registry that is known. -/
def onRegistry (workspace : Workspace) (id : String)
    (operate : Registry → Hosts → Registry.Outcome) : Reply :=
  match workspace.registries.get? id with
  | none => workspace.refuse .unknownName
  | some registry => workspace.afterRegistry id (operate registry workspace.hosts)

/-- Take a registry away, if it is there; it gives up what it installed. -/
def dropRegistry (workspace : Workspace) (id : String) : Reply :=
  match workspace.registries.get? id with
  | none => workspace.done (.flag false)
  | some registry =>
      let outcome := registry.dispose workspace.hosts
      ⟨{ workspace with hosts := outcome.hosts, registries := workspace.registries.erase id },
        .ok (.flag true), outcome.events.map .logged⟩

def makeRegistry (workspace : Workspace) (id : String) (path : Option String) : Reply :=
  let (chosen, allocated) := workspace.choosePath path
  let dropped := allocated.dropRegistry id
  let registry : Registry := { path := chosen }
  ⟨{ dropped.workspace with registries := dropped.workspace.registries.insert id registry },
    .ok .nothing, dropped.effects⟩

/-! ### Editors -/

/-- The props that are asked for, if their scope is known. -/
def findProps (workspace : Workspace) (request : PropsRequest) : Option Props :=
  (workspace.scopes.get? request.scope).map fun scope =>
    ⟨request.value, scope, request.disabled, request.autoFocus⟩

/-- What is left after an operation on the editor `id`. -/
def afterEditor (workspace : Workspace) (id : String) (answer : Answer)
    (outcome : Editor.Outcome) : Reply :=
  ⟨{ workspace with
      hosts := outcome.hosts
      editors := workspace.editors.insert id outcome.editor },
    .ok answer, outcome.effects⟩

/-- Operate on an editor that is known. -/
def onEditor (workspace : Workspace) (id : String)
    (operate : Editor → Hosts → Editor.Outcome) : Reply :=
  match workspace.editors.get? id with
  | none => workspace.refuse .unknownName
  | some editor => workspace.afterEditor id .nothing (operate editor workspace.hosts)

/-- Take an editor away, if it is there; its registry gives up what it installed. -/
def dropEditor (workspace : Workspace) (id : String) : Reply :=
  match workspace.editors.get? id with
  | none => workspace.done (.flag false)
  | some editor =>
      let outcome := editor.drop workspace.hosts
      ⟨{ workspace with hosts := outcome.hosts, editors := workspace.editors.erase id },
        .ok (.flag true), outcome.effects⟩

def makeEditor (workspace : Workspace) (id : String) (request : PropsRequest)
    (config : EditorConfig) (onCommit : Option String) : Reply :=
  match workspace.findProps request with
  | none => workspace.refuse .unknownScope
  | some props =>
      let (path, allocated) := workspace.choosePath config.path
      let editor := Editor.make config.options path props onCommit
      let written := Document.scopeLog config.options props.scope.scope
      let dropped := allocated.dropEditor id
      ⟨{ dropped.workspace with editors := dropped.workspace.editors.insert id editor },
        .ok .nothing, written.map .logged ++ dropped.effects⟩

/-- Mount an editor on the next surface. -/
def mount (workspace : Workspace) (id host : String) : Reply :=
  match workspace.editors.get? id with
  | none => workspace.refuse .unknownName
  | some _ =>
      let surface := workspace.surfaces + 1
      { workspace with surfaces := surface }.onEditor id (Editor.mount surface host)

def update (workspace : Workspace) (id : String) (request : PropsRequest) : Reply :=
  match workspace.editors.get? id, workspace.findProps request with
  | none, _ => workspace.refuse .unknownName
  | some _, none => workspace.refuse .unknownScope
  | some _, some props => workspace.onEditor id (Editor.update props)

section Known

variable {workspace : Workspace} {id : String} {editor : Editor}

theorem onEditor_of_found (found : workspace.editors.get? id = some editor)
    (operate : Editor → Hosts → Editor.Outcome) : workspace.onEditor id operate =
      workspace.afterEditor id .nothing (operate editor workspace.hosts) := by
  simp only [onEditor, found]

theorem mount_of_found (found : workspace.editors.get? id = some editor) (host : String) :
    workspace.mount id host =
      { workspace with surfaces := workspace.surfaces + 1 }.afterEditor id .nothing
        (editor.mount (workspace.surfaces + 1) host workspace.hosts) := by
  simp only [mount, found, onEditor]

theorem update_of_known {request : PropsRequest} {props : Props}
    (found : workspace.editors.get? id = some editor)
    (known : workspace.findProps request = some props) : workspace.update id request =
      workspace.afterEditor id .nothing (editor.update props workspace.hosts) := by
  simp only [update, found, known, onEditor]

end Known

def command (workspace : Workspace) (id : String) (chord : KeyChord) : Reply :=
  match workspace.editors.get? id with
  | none => workspace.refuse .unknownName
  | some editor =>
      workspace.afterEditor id (.flag (editor.handles chord))
        (editor.handleCommand chord workspace.hosts)

/-! ### Operations -/

def perform (workspace : Workspace) : Operation → Reply
  | .bindScope name scope => (workspace.bindScope name scope).done
  | .rejectAt host rejecting =>
      { workspace with
        hosts := workspace.hosts.set host ((workspace.hosts.host host).setRejecting rejecting)
      }.done
  | .addAt host path content keepAs => workspace.addAt host path content keepAs
  | .disposeAt host handle => workspace.disposeAt host handle
  | .readAt host path =>
      (workspace.touch host).done (.text ((workspace.hosts.host host).text? path))
  | .settingsOf host =>
      let found := workspace.hosts.host host
      (workspace.touch host).done (.settings found.compiler found.diagnostics)
  | .allocatePath =>
      let (path, allocated) := workspace.allocatePath
      allocated.done (.text (some path))
  | .makeRegistry id path => workspace.makeRegistry id path
  | .attach id host =>
      workspace.onRegistry id fun registry hosts => registry.attach host (hosts.touch host)
  | .detach id => workspace.onRegistry id Registry.detach
  | .install id content =>
      workspace.onRegistry id fun registry hosts =>
        let outcome := registry.install content.document hosts
        { outcome with events := content.events ++ outcome.events }
  | .disposeRegistry id => workspace.onRegistry id Registry.dispose
  | .dropRegistry id => workspace.dropRegistry id
  | .describeRegistry id =>
      match workspace.registries.get? id with
      | none => workspace.refuse .unknownName
      | some registry => workspace.done (.text (some registry.describe))
  | .makeEditor id props config onCommit => workspace.makeEditor id props config onCommit
  | .mount id host => workspace.mount id host
  | .update id props => workspace.update id props
  | .edit id text => workspace.onEditor id (Editor.handleEdit text)
  | .command id chord => workspace.command id chord
  | .setOnCommit id label =>
      workspace.onEditor id fun editor hosts => ⟨editor.setOnCommit label, hosts, []⟩
  | .unmount id => workspace.onEditor id Editor.unmount
  | .dropEditor id => workspace.dropEditor id
  | .readDocument id =>
      match workspace.editors.get? id with
      | none => workspace.refuse .unknownName
      | some editor => workspace.done (.document editor.document)

/-- Carry out operations one after the other. -/
def run (workspace : Workspace) (operations : List Operation) : Workspace :=
  operations.foldl (fun current operation => (current.perform operation).workspace) workspace

end Workspace

end LiveScope
