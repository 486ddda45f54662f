/- # LiveScope.Editor.Basic — an expression editor and its life

An editor shows the expression its owner passes in and declares the scope the
expression may refer to. It is made unmounted, mounted on a surface and a host,
updated with new props, and unmounted; it may be mounted again.

* The declarations are written anew only for a scope with another identity, and
  installed anew only if the document differs.
* The text of the surface is set only where it differs from the last text known
  to be in it, so an edit that the owner passes back is not set again.
* The focus is asked for once in the life of an editor, at the first mount that
  wants it while the editor is not disabled.
* The commit chord is bound at every mount; the callback that it fires is looked
  up when it is pressed.
-/
import LiveScope.Editor.Config
import LiveScope.Editor.Surface
import LiveScope.Registry

namespace LiveScope

set_option autoImplicit false

/-- A scope with the identity it is shared under. -/
structure SharedScope where
  identity : Nat
  scope : Scope
  deriving Inhabited

structure Props where
  value : String
  scope : SharedScope
  disabled : Bool := false
  autoFocus : Bool := false
  deriving Inhabited

/-- The surface an editor is mounted on, the chord bound there, and the last text
known to be in it. -/
structure Mounted where
  surface : Nat
  chord : KeyChord
  content : String
  deriving DecidableEq, Repr

structure Editor where
  props : Props
  onCommit : Option String := none
  options : Options
  document : Document
  registry : Registry
  focused : Bool := false
  mounted : Option Mounted := none
  deriving Inhabited

/-- What an operation lets others see: requests to a surface, calls of the
owner's callbacks, and the log. A commit callback is known by its label. -/
inductive Effect where
  | surface (number : Nat) (call : SurfaceCall)
  | changed (text : String)
  | committed (label : String)
  | logged (event : Log.Event)
  deriving DecidableEq, Repr

namespace Editor

/-- What an operation leaves: the editor, the hosts, and what others see of it,
in order. -/
structure Outcome where
  editor : Editor
  hosts : Hosts
  effects : List Effect

/-- The outcome of an operation on the editor's registry. -/
def ofRegistry (editor : Editor) (outcome : Registry.Outcome) : Outcome :=
  ⟨{ editor with registry := outcome.registry }, outcome.hosts, outcome.events.map .logged⟩

/-- Go on from an outcome; what is seen of both is seen in order. -/
def Outcome.andThen (first : Outcome) (next : Editor → Hosts → Outcome) : Outcome :=
  let second := next first.editor first.hosts
  { second with effects := first.effects ++ second.effects }

def isMounted (editor : Editor) : Bool := editor.mounted.isSome

/-- The chord that is bound at the moment. -/
def boundChord (editor : Editor) : Option KeyChord := editor.mounted.map (·.chord)

/-- A new editor that installs its declarations under `path`. -/
def make (options : Options) (path : String) (props : Props) (onCommit : Option String) : Editor where
  props := props
  onCommit := onCommit
  options := options
  document := .ofScope options props.scope.scope
  registry := { path }

def setOnCommit (editor : Editor) (onCommit : Option String) : Editor :=
  { editor with onCommit }

/-- Release the surface and give up the declarations. -/
def unmount (editor : Editor) (hosts : Hosts) : Outcome :=
  match editor.mounted with
  | none => ⟨editor, hosts, []⟩
  | some _ =>
      let outcome := { editor with mounted := none }.ofRegistry (editor.registry.detach hosts)
      { outcome with effects := outcome.effects ++ [.logged (.unmounted editor.registry.path)] }

/-- Is this the mount that asks for the focus? -/
def wantsFocus (editor : Editor) : Bool :=
  !editor.focused && editor.props.autoFocus && !editor.props.disabled

/-- What a surface is asked for when it is mounted. -/
def greeting (editor : Editor) : List SurfaceCall :=
  [.updateOptions { readOnly := editor.props.disabled }, .setText editor.props.value,
    .addCommand .commit] ++ if editor.wantsFocus then [.focus] else []

/-- Mount an editor that is not mounted. -/
def mountFresh (surface : Nat) (host : String) (editor : Editor) (hosts : Hosts) : Outcome :=
  let configured := hosts.set host (hosts.host host).configure
  let focused := editor.focused || editor.wantsFocus
  let attached := editor.registry.attach host configured
  let installed := attached.registry.install editor.document attached.hosts
  ⟨{ editor with
      registry := installed.registry
      focused
      mounted := some ⟨surface, .commit, editor.props.value⟩ },
    installed.hosts,
    editor.greeting.map (.surface surface)
      ++ (attached.events ++ installed.events).map .logged
      ++ [.logged (.mounted editor.registry.path editor.props.disabled focused)]⟩

/-- Mount on a surface and a host, leaving those it is mounted on. -/
def mount (surface : Nat) (host : String) (editor : Editor) (hosts : Hosts) : Outcome :=
  (editor.unmount hosts).andThen (mountFresh surface host)

/-- Declare a scope: nothing is done for the same identity, and nothing is
installed for an equal document. -/
def declareScope (scope : SharedScope) (editor : Editor) (hosts : Hosts) : Outcome :=
  if scope.identity = editor.props.scope.identity then ⟨editor, hosts, []⟩
  else
    let document := Document.ofScope editor.options scope.scope
    let written := (Document.scopeLog editor.options scope.scope).map Effect.logged
    if document = editor.document then ⟨editor, hosts, written⟩
    else
      let outcome := { editor with document }.ofRegistry (editor.registry.install document hosts)
      { outcome with
        effects := written ++ .logged (.scopeChanged scope.scope.entries.length)
          :: outcome.effects }

/-- Bring the surface in line with new props, and keep the props. -/
def adopt (props : Props) (editor : Editor) (hosts : Hosts) : Outcome :=
  match editor.mounted with
  | none => ⟨{ editor with props }, hosts, []⟩
  | some mounted =>
      ⟨{ editor with props, mounted := some { mounted with content := props.value } }, hosts,
        (if props.disabled = editor.props.disabled then []
          else [.surface mounted.surface (.updateOptions { readOnly := props.disabled })])
        ++ if props.value = mounted.content then []
          else [.surface mounted.surface (.setText props.value)]⟩

/-- Take over new props from the owner. -/
def update (props : Props) (editor : Editor) (hosts : Hosts) : Outcome :=
  (editor.declareScope props.scope hosts).andThen (adopt props)

/-- The user changed the text of the surface; a text that is missing is empty. -/
def handleEdit (text : Option String) (editor : Editor) (hosts : Hosts) : Outcome :=
  let content := text.getD ""
  ⟨{ editor with mounted := editor.mounted.map fun mounted => { mounted with content } },
    hosts, [.changed content]⟩

/-- Is a chord the one that is bound? -/
def handles (editor : Editor) (chord : KeyChord) : Bool := editor.boundChord == some chord

/-- The user pressed a chord. -/
def handleCommand (chord : KeyChord) (editor : Editor) (hosts : Hosts) : Outcome :=
  ⟨editor, hosts,
    if editor.handles chord then editor.onCommit.toList.map .committed else []⟩

/-- The editor goes away: its registry gives up the declarations. -/
def drop (editor : Editor) (hosts : Hosts) : Outcome :=
  editor.ofRegistry (editor.registry.dispose hosts)

end Editor

end LiveScope
