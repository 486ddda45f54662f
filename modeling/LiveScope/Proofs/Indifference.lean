/- # LiveScope.Proofs.Indifference — what a host that rejects cannot change

A host may begin or cease to reject at any time. What it accepts decides what is
registered, and nothing else: surfaces, callbacks and the state of editors are the
same whether it accepts or not.

The view of a workspace leaves out registrations: the handles that editors hold,
registries, what lies on hosts and how often it was counted. An operation is blind
if what it leaves and what is seen of it depend on the view alone (`Editor.Blind`);
all operations of editors are, so equal views stay equal (`agrees_perform`), and
two runs that differ in the readiness of hosts are seen alike (`readiness_unseen`).
-/
import LiveScope.Proofs.Observation
import LiveScope.Proofs.Ownership

namespace LiveScope

set_option autoImplicit false

/-! ### Settings of hosts -/

/-- The options that a host checks expressions under. -/
def Host.settings (host : Host) : Option CompilerOptions × Option DiagnosticsOptions :=
  (host.compiler, host.diagnostics)

namespace Hosts

def settings (hosts : Hosts) (name : String) : Option CompilerOptions × Option DiagnosticsOptions :=
  (hosts.host name).settings

theorem settings_set (hosts : Hosts) (name : String) (host : Host) :
    (hosts.set name host).settings =
      fun other => if name = other then host.settings else hosts.settings other := by
  funext other
  rw [settings, host_set]
  split <;> rfl

/-- A host may be replaced by one under the same options. -/
theorem settings_set_of_same {hosts : Hosts} {name : String} {host : Host}
    (same : host.settings = hosts.settings name) : (hosts.set name host).settings = hosts.settings := by
  rw [settings_set]
  funext other
  split
  · next here => rw [same, here]
  · rfl

@[simp] theorem settings_touch (hosts : Hosts) (name : String) :
    (hosts.touch name).settings = hosts.settings := by
  funext other
  rw [settings, host_touch, settings]

end Hosts

theorem Host.settings_dispose (host : Host) (handle : Handle) :
    (host.dispose handle).settings = host.settings := by
  unfold dispose
  split <;> rfl

theorem Host.settings_add {host changed : Host} {document : Document} {path : String}
    {handle : Handle} (added : host.add document path = .ok (handle, changed)) :
    changed.settings = host.settings := by
  unfold add at added
  split at added
  · cases added
  · cases added
    rfl

/-! ### Registries -/

namespace Registry

/-- A registry without what it has installed. -/
def erased (registry : Registry) : Registry := { registry with installed := none }

variable (registry : Registry) (hosts : Hosts)

@[simp] theorem settings_dispose : (registry.dispose hosts).hosts.settings = hosts.settings := by
  unfold dispose
  split
  · exact Hosts.settings_set_of_same (Host.settings_dispose _ _)
  · rfl

@[simp] theorem settings_attach (name : String) :
    (registry.attach name hosts).hosts.settings = hosts.settings :=
  registry.settings_dispose hosts

@[simp] theorem settings_detach : (registry.detach hosts).hosts.settings = hosts.settings :=
  registry.settings_dispose hosts

@[simp] theorem settings_install (document : Document) :
    (registry.install document hosts).hosts.settings = hosts.settings := by
  simp only [install]
  split
  · exact registry.settings_dispose hosts
  · split
    · next added =>
        rw [Hosts.settings_set_of_same (Host.settings_add added), settings_dispose]
    · exact registry.settings_dispose hosts

theorem erased_install (document : Document) :
    (registry.install document hosts).registry.erased = registry.erased := by
  simp only [install]
  split
  · rw [registry_dispose]
    rfl
  · split
    · rw [registry_dispose]
      rfl
    · rw [registry_dispose]
      rfl

end Registry

/-! ### What is seen -/

/-- What surfaces and callbacks receive is seen; the log is not. -/
def Effect.isSeen : Effect → Bool
  | .surface _ _ | .changed _ | .committed _ => true
  | .logged _ => false

def seen (effects : List Effect) : List Effect := effects.filter Effect.isSeen

@[simp] theorem seen_append (first second : List Effect) :
    seen (first ++ second) = seen first ++ seen second := List.filter_append _ _

@[simp] theorem seen_logged (events : List Log.Event) : seen (events.map .logged) = [] := by
  rw [seen, List.filter_eq_nil_iff]
  intro effect member
  obtain ⟨event, -, rfl⟩ := List.mem_map.1 member
  exact Bool.false_ne_true

namespace Editor

/-- The editor with another handle in its hands. -/
def holding (editor : Editor) (installed : Option Handle) : Editor :=
  { editor with registry := { editor.registry with installed } }

/-- The editor without what its registry has installed. -/
def face (editor : Editor) : Editor := { editor with registry := editor.registry.erased }

theorem holding_of_face {left right : Editor} (same : left.face = right.face) :
    right = left.holding right.registry.installed := by
  have restored : right = right.face.holding right.registry.installed := rfl
  rw [restored, ← same]
  rfl

/-- Two outcomes that differ in registrations alone. -/
structure Outcome.Alike (left right : Outcome) : Prop where
  face : left.editor.face = right.editor.face
  settings : left.hosts.settings = right.hosts.settings
  seen : seen left.effects = seen right.effects

/-- An operation that registrations make no difference to. -/
def Blind (operate : Editor → Hosts → Outcome) : Prop :=
  ∀ left right leftHosts rightHosts, left.face = right.face →
    Hosts.settings leftHosts = Hosts.settings rightHosts →
    (operate left leftHosts).Alike (operate right rightHosts)

namespace Blind

/-- It is enough to put another handle into an editor's hands. -/
theorem of_holding {operate : Editor → Hosts → Outcome}
    (alike : ∀ editor installed hosts others, Hosts.settings hosts = Hosts.settings others →
      (operate editor hosts).Alike (operate (editor.holding installed) others)) :
    Blind operate := by
  intro left right leftHosts rightHosts sameFace sameSettings
  rw [holding_of_face sameFace]
  exact alike left right.registry.installed leftHosts rightHosts sameSettings

theorem andThen {first next : Editor → Hosts → Outcome} (here : Blind first) (there : Blind next) :
    Blind fun editor hosts => (first editor hosts).andThen next := by
  intro left right leftHosts rightHosts sameFace sameSettings
  have before := here left right leftHosts rightHosts sameFace sameSettings
  have after := there _ _ _ _ before.face before.settings
  refine ⟨after.face, after.settings, ?_⟩
  simp only [Outcome.andThen, seen_append, before.seen, after.seen]

end Blind

theorem blind_unmount : Blind unmount := by
  refine .of_holding fun editor installed hosts others same => ?_
  cases mounted : editor.mounted with
  | none =>
      simp only [unmount, holding, mounted]
      exact ⟨by simp only [face, Registry.erased, mounted], same, rfl⟩
  | some here =>
      simp only [unmount, holding, mounted, ofRegistry]
      refine ⟨?_, ?_, ?_⟩
      · simp only [face, Registry.registry_detach]
      · simp only [Registry.settings_detach, same]
      · simp only [seen_append, seen_logged]

theorem blind_mountFresh (surface : Nat) (host : String) : Blind (mountFresh surface host) := by
  refine .of_holding fun editor installed hosts others same => ⟨?_, ?_, ?_⟩
  · simp only [mountFresh, face, Registry.erased_install, Registry.registry_attach]
    rfl
  · simp only [mountFresh, Registry.settings_install, Registry.settings_attach,
      Hosts.settings_set, same]
    rfl
  · simp only [mountFresh, seen_append, seen_logged]
    rfl

theorem blind_mount (surface : Nat) (host : String) : Blind (mount surface host) :=
  blind_unmount.andThen (blind_mountFresh surface host)

theorem blind_declareScope (scope : SharedScope) : Blind (declareScope scope) := by
  refine .of_holding fun editor installed hosts others same => ?_
  by_cases sameIdentity : scope.identity = editor.props.scope.identity
  · simp only [declareScope, holding, sameIdentity, if_true]
    exact ⟨rfl, same, rfl⟩
  · by_cases sameDocument : Document.ofScope editor.options scope.scope = editor.document
    · simp only [declareScope, holding, sameIdentity, sameDocument, if_false, if_true]
      exact ⟨rfl, same, by simp only [seen_logged]⟩
    · simp only [declareScope, holding, sameIdentity, sameDocument, if_false, ofRegistry]
      refine ⟨?_, ?_, ?_⟩
      · simp only [face, Registry.erased_install]
        rfl
      · simp only [Registry.settings_install, same]
      · simp only [seen_append, seen_logged, ← List.map_cons]

theorem blind_adopt (props : Props) : Blind (adopt props) := by
  refine .of_holding fun editor installed hosts others same => ?_
  cases mounted : editor.mounted with
  | none =>
      simp only [adopt, holding, mounted]
      exact ⟨rfl, same, rfl⟩
  | some here =>
      simp only [adopt, holding, mounted]
      exact ⟨rfl, same, rfl⟩

theorem blind_update (props : Props) : Blind (update props) :=
  (blind_declareScope props.scope).andThen (blind_adopt props)

theorem blind_handleEdit (text : Option String) : Blind (handleEdit text) :=
  .of_holding fun _ _ _ _ same => ⟨rfl, same, rfl⟩

theorem blind_handleCommand (chord : KeyChord) : Blind (handleCommand chord) :=
  .of_holding fun _ _ _ _ same => ⟨rfl, same, rfl⟩

theorem blind_setOnCommit (label : Option String) :
    Blind fun editor hosts => ⟨editor.setOnCommit label, hosts, []⟩ :=
  .of_holding fun _ _ _ _ same => ⟨rfl, same, rfl⟩

end Editor

/-! ### Views -/

/-- A workspace without its registrations. -/
structure View where
  editors : String → Option Editor
  settings : String → Option CompilerOptions × Option DiagnosticsOptions
  scopes : Shelf SharedScope
  nextPath : Nat
  nextScope : Nat
  surfaces : Nat

namespace Workspace

def view (workspace : Workspace) : View where
  editors id := (workspace.editors.get? id).map Editor.face
  settings := workspace.hosts.settings
  scopes := workspace.scopes
  nextPath := workspace.nextPath
  nextScope := workspace.nextScope
  surfaces := workspace.surfaces

/-- Does the operation switch a host between accepting and rejecting? -/
def Operation.setsReadiness : Operation → Bool
  | .rejectAt _ _ => true
  | _ => false

/-- Operations on editors, and those that only look at what is in a view. -/
def Operation.isEditing : Operation → Bool
  | .bindScope _ _ | .settingsOf _ | .allocatePath => true
  | .makeEditor _ _ _ _ | .mount _ _ | .update _ _ | .edit _ _ | .command _ _ => true
  | .setOnCommit _ _ | .unmount _ | .dropEditor _ | .readDocument _ => true
  | .rejectAt _ _ | .addAt _ _ _ _ | .disposeAt _ _ | .readAt _ _ => false
  | .makeRegistry _ _ | .attach _ _ | .detach _ | .install _ _ => false
  | .disposeRegistry _ | .dropRegistry _ | .describeRegistry _ => false

/-- Two replies to an operation that differ in registrations alone. An operation
that is not one of editors may be answered by what is registered. -/
structure Reply.Agrees (operation : Operation) (left right : Reply) : Prop where
  view : left.workspace.view = right.workspace.view
  seen : seen left.effects = seen right.effects
  answer : operation.isEditing = true → left.answer = right.answer

variable {left right : Workspace} {operation : Operation}

/-- The two editors under an id, in workspaces of one view. -/
theorem editors_of_view (same : left.view = right.view) (id : String) :
    (left.editors.get? id = none ∧ right.editors.get? id = none) ∨
      ∃ here there, left.editors.get? id = some here ∧ right.editors.get? id = some there ∧
        here.face = there.face := by
  have faces : (left.editors.get? id).map Editor.face = (right.editors.get? id).map Editor.face :=
    congrFun (congrArg View.editors same) id
  cases here : left.editors.get? id with
  | none =>
      rw [here, Option.map_none] at faces
      exact .inl ⟨rfl, Option.map_eq_none_iff.1 faces.symm⟩
  | some editor =>
      rw [here, Option.map_some] at faces
      obtain ⟨other, there, sameFace⟩ := Option.map_eq_some_iff.1 faces.symm
      exact .inr ⟨editor, other, rfl, there, sameFace.symm⟩

/-! ### Operations on hosts and registries -/

/-- Nothing is seen, and the view stays as it is. -/
structure Reply.Unseen (workspace : Workspace) (reply : Reply) : Prop where
  view : reply.workspace.view = workspace.view
  seen : seen reply.effects = []

theorem agrees_of_unseen (same : left.view = right.view)
    (unseen : ∀ workspace : Workspace, (workspace.perform operation).Unseen workspace)
    (other : operation.isEditing = false) :
    (left.perform operation).Agrees operation (right.perform operation) where
  view := by rw [(unseen left).view, (unseen right).view, same]
  seen := by rw [(unseen left).seen, (unseen right).seen]
  answer editing := by
    rw [other] at editing
    cases editing

section Unseen

variable (workspace : Workspace)

theorem view_of_hosts {hosts : Hosts} (same : hosts.settings = workspace.hosts.settings) :
    { workspace with hosts }.view = workspace.view := by
  simp only [view, same]

theorem unseen_rejectAt (name : String) (rejecting : Bool) :
    (workspace.perform (.rejectAt name rejecting)).Unseen workspace :=
  ⟨workspace.view_of_hosts (Hosts.settings_set_of_same rfl), rfl⟩

theorem unseen_readAt (name path : String) :
    (workspace.perform (.readAt name path)).Unseen workspace :=
  ⟨workspace.view_of_hosts (Hosts.settings_touch _ _), rfl⟩

theorem unseen_addAt (name path : String) (content : Content) (keepAs : Option String) :
    (workspace.addAt name path content keepAs).Unseen workspace := by
  simp only [addAt]
  split
  · next added =>
      exact ⟨workspace.view_of_hosts (Hosts.settings_set_of_same (Host.settings_add added)),
        seen_logged _⟩
  · exact ⟨workspace.view_of_hosts (Hosts.settings_touch _ _), seen_logged _⟩

theorem unseen_disposeAt (name : String) (request : HandleRequest) :
    (workspace.disposeAt name request).Unseen workspace := by
  unfold disposeAt
  split
  · exact ⟨rfl, rfl⟩
  · exact ⟨workspace.view_of_hosts (Hosts.settings_set_of_same (Host.settings_dispose _ _)), rfl⟩

theorem unseen_onRegistry (id : String) {operate : Registry → Hosts → Registry.Outcome}
    (keeps : ∀ registry hosts, (operate registry hosts).hosts.settings = hosts.settings) :
    (workspace.onRegistry id operate).Unseen workspace := by
  unfold onRegistry
  split
  · exact ⟨rfl, rfl⟩
  · exact ⟨workspace.view_of_hosts (keeps _ _), seen_logged _⟩

theorem unseen_dropRegistry (id : String) :
    (workspace.dropRegistry id).Unseen workspace := by
  unfold dropRegistry
  split
  · exact ⟨rfl, rfl⟩
  · exact ⟨workspace.view_of_hosts (Registry.settings_dispose _ _), seen_logged _⟩

theorem unseen_describeRegistry (id : String) :
    (workspace.perform (.describeRegistry id)).Unseen workspace := by
  simp only [perform]
  split
  · exact ⟨rfl, rfl⟩
  · exact ⟨rfl, rfl⟩

end Unseen

/-! ### Operations on editors -/

theorem choosePath_of_view (same : left.view = right.view) (path : Option String) :
    (left.choosePath path).1 = (right.choosePath path).1 ∧
      (left.choosePath path).2.view = (right.choosePath path).2.view := by
  cases path with
  | some path => exact ⟨rfl, same⟩
  | none =>
      constructor
      · show numberedPath left.view.nextPath = numberedPath right.view.nextPath
        rw [same]
      · show { left.view with nextPath := left.view.nextPath + 1 } =
          { right.view with nextPath := right.view.nextPath + 1 }
        rw [same]

theorem findProps_of_view (same : left.view = right.view) (request : PropsRequest) :
    left.findProps request = right.findProps request := by
  have scopes : left.scopes = right.scopes := congrArg View.scopes same
  rw [findProps, findProps, scopes]

theorem view_insertEditor (workspace : Workspace) (id : String) (editor : Editor) :
    { workspace with editors := workspace.editors.insert id editor }.view =
      { workspace.view with
        editors := fun other =>
          if id = other then some editor.face else workspace.view.editors other } := by
  simp only [view, View.mk.injEq, and_true]
  funext other
  rw [Shelf.get?_insert]
  split <;> rfl

theorem view_afterEditor (workspace : Workspace) (id : String) (answer : Answer)
    (outcome : Editor.Outcome) : (workspace.afterEditor id answer outcome).workspace.view =
      { workspace.view with
        settings := outcome.hosts.settings
        editors := fun other =>
          if id = other then some outcome.editor.face else workspace.view.editors other } :=
  { workspace with hosts := outcome.hosts }.view_insertEditor id outcome.editor

theorem agrees_afterEditor (same : left.view = right.view) (id : String) (answer : Answer)
    {here there : Editor.Outcome} (alike : here.Alike there) :
    (left.afterEditor id answer here).Agrees operation (right.afterEditor id answer there) where
  view := by rw [view_afterEditor, view_afterEditor, same, alike.face, alike.settings]
  seen := alike.seen
  answer _ := rfl

theorem agrees_refuse (same : left.view = right.view) (refusal : Refusal) :
    (left.refuse refusal).Agrees operation (right.refuse refusal) :=
  ⟨same, rfl, fun _ => rfl⟩

theorem agrees_onEditor (same : left.view = right.view) (id : String)
    {operate : Editor → Hosts → Editor.Outcome} (blind : Editor.Blind operate) :
    (left.onEditor id operate).Agrees operation (right.onEditor id operate) := by
  have settings : left.hosts.settings = right.hosts.settings := congrArg View.settings same
  obtain ⟨here, there⟩ | ⟨editor, other, here, there, faces⟩ := editors_of_view same id
  · simp only [onEditor, here, there]
    exact agrees_refuse same _
  · simp only [onEditor, here, there]
    exact agrees_afterEditor same id _ (blind editor other _ _ faces settings)

theorem agrees_mount (same : left.view = right.view) (id host : String) :
    (left.mount id host).Agrees operation (right.mount id host) := by
  have surfaces : left.surfaces = right.surfaces := congrArg View.surfaces same
  have grown : { left with surfaces := left.surfaces + 1 }.view =
      { right with surfaces := right.surfaces + 1 }.view := by
    show { left.view with surfaces := left.view.surfaces + 1 } =
      { right.view with surfaces := right.view.surfaces + 1 }
    rw [same]
  obtain ⟨here, there⟩ | ⟨editor, other, here, there, -⟩ := editors_of_view same id
  · simp only [mount, here, there]
    exact agrees_refuse same _
  · simp only [mount, here, there]
    rw [surfaces] at grown ⊢
    exact agrees_onEditor grown id (Editor.blind_mount _ host)

theorem agrees_update (same : left.view = right.view) (id : String) (request : PropsRequest) :
    (left.update id request).Agrees operation (right.update id request) := by
  have props := findProps_of_view same request
  obtain ⟨here, there⟩ | ⟨editor, other, here, there, -⟩ := editors_of_view same id
  · simp only [update, here, there]
    exact agrees_refuse same _
  · simp only [update, here, there, props]
    cases right.findProps request with
    | none => exact agrees_refuse same _
    | some props => exact agrees_onEditor same id (Editor.blind_update props)

theorem agrees_command (same : left.view = right.view) (id : String) (chord : KeyChord) :
    (left.command id chord).Agrees operation (right.command id chord) := by
  have settings : left.hosts.settings = right.hosts.settings := congrArg View.settings same
  obtain ⟨here, there⟩ | ⟨editor, other, here, there, faces⟩ := editors_of_view same id
  · simp only [command, here, there]
    exact agrees_refuse same _
  · have handles : other.handles chord = editor.handles chord := by
      rw [Editor.holding_of_face faces]
      rfl
    simp only [command, here, there, handles]
    exact agrees_afterEditor same id _ (Editor.blind_handleCommand chord _ _ _ _ faces settings)

theorem view_dropEditor (workspace : Workspace) (id : String) :
    (workspace.dropEditor id).workspace.view =
      { workspace.view with
        editors := fun other => if id = other then none else workspace.view.editors other } := by
  unfold dropEditor
  split
  · next absent =>
      simp only [done, view, View.mk.injEq, and_true]
      funext other
      split
      · next same => rw [← same, absent, Option.map_none]
      · rfl
  · simp only [view, Editor.drop, Editor.ofRegistry, Registry.settings_dispose, View.mk.injEq,
      and_true]
    funext other
    rw [Shelf.get?_erase]
    split <;> rfl

theorem seen_dropEditor (workspace : Workspace) (id : String) :
    seen (workspace.dropEditor id).effects = [] := by
  unfold dropEditor
  split
  · rfl
  · exact seen_logged _

theorem agrees_dropEditor (same : left.view = right.view) (id : String) :
    (left.dropEditor id).Agrees operation (right.dropEditor id) where
  view := by rw [view_dropEditor, view_dropEditor, same]
  seen := by rw [seen_dropEditor, seen_dropEditor]
  answer _ := by
    obtain ⟨here, there⟩ | ⟨editor, other, here, there, -⟩ := editors_of_view same id
    · simp only [dropEditor, here, there, done]
    · simp only [dropEditor, here, there]

theorem agrees_makeEditor (same : left.view = right.view) (id : String) (request : PropsRequest)
    (config : EditorConfig) (onCommit : Option String) :
    (left.makeEditor id request config onCommit).Agrees operation
      (right.makeEditor id request config onCommit) := by
  have props := findProps_of_view same request
  obtain ⟨paths, allocated⟩ := choosePath_of_view same config.path
  simp only [makeEditor, props]
  cases right.findProps request with
  | none => exact agrees_refuse same _
  | some props =>
      simp only
      refine ⟨?_, ?_, fun _ => rfl⟩
      · rw [view_insertEditor, view_insertEditor, view_dropEditor, view_dropEditor, allocated,
          paths]
      · simp only [seen_append, seen_logged, seen_dropEditor]

/-! ### Runs -/

theorem agrees_perform (same : left.view = right.view) (operation : Operation) :
    (left.perform operation).Agrees operation (right.perform operation) := by
  have settings : left.hosts.settings = right.hosts.settings := congrArg View.settings same
  cases operation with
  | bindScope name scope =>
      refine ⟨?_, rfl, fun _ => rfl⟩
      show { left.view with
          scopes := left.view.scopes.insert name ⟨left.view.nextScope, scope⟩
          nextScope := left.view.nextScope + 1 } =
        { right.view with
          scopes := right.view.scopes.insert name ⟨right.view.nextScope, scope⟩
          nextScope := right.view.nextScope + 1 }
      rw [same]
  | rejectAt name rejecting => exact agrees_of_unseen same (·.unseen_rejectAt name rejecting) rfl
  | addAt name path content keepAs =>
      exact agrees_of_unseen same (·.unseen_addAt name path content keepAs) rfl
  | disposeAt name request => exact agrees_of_unseen same (·.unseen_disposeAt name request) rfl
  | readAt name path => exact agrees_of_unseen same (·.unseen_readAt name path) rfl
  | settingsOf name =>
      have touched (workspace : Workspace) : (workspace.touch name).view = workspace.view :=
        workspace.view_of_hosts (Hosts.settings_touch _ _)
      refine ⟨(touched left).trans (same.trans (touched right).symm), rfl, fun _ => ?_⟩
      obtain ⟨compiler, diagnostics⟩ := Prod.mk.inj (congrFun settings name)
      show Except.ok (Answer.settings _ _) = Except.ok (Answer.settings _ _)
      rw [compiler, diagnostics]
  | allocatePath =>
      obtain ⟨paths, allocated⟩ := choosePath_of_view same none
      refine ⟨allocated, rfl, fun _ => ?_⟩
      show Except.ok (Answer.text (some (left.choosePath none).1)) =
        Except.ok (Answer.text (some (right.choosePath none).1))
      rw [paths]
  | makeRegistry id path =>
      obtain ⟨-, allocated⟩ := choosePath_of_view same path
      have dropped (workspace : Workspace) := workspace.unseen_dropRegistry id
      refine ⟨?_, ?_, fun editing => by cases editing⟩
      · show ((left.choosePath path).2.dropRegistry id).workspace.view =
          ((right.choosePath path).2.dropRegistry id).workspace.view
        rw [(dropped _).view, (dropped _).view, allocated]
      · show seen ((left.choosePath path).2.dropRegistry id).effects =
          seen ((right.choosePath path).2.dropRegistry id).effects
        rw [(dropped _).seen, (dropped _).seen]
  | attach id name =>
      have keeps (registry : Registry) (hosts : Hosts) :
          (registry.attach name (hosts.touch name)).hosts.settings = hosts.settings := by
        rw [Registry.settings_attach, Hosts.settings_touch]
      exact agrees_of_unseen same (·.unseen_onRegistry id keeps) rfl
  | detach id =>
      exact agrees_of_unseen same (·.unseen_onRegistry id Registry.settings_detach) rfl
  | install id content =>
      refine agrees_of_unseen same (fun workspace => ?_) rfl
      simp only [perform]
      apply unseen_onRegistry
      intro registry hosts
      exact registry.settings_install hosts content.document
  | disposeRegistry id =>
      exact agrees_of_unseen same (·.unseen_onRegistry id Registry.settings_dispose) rfl
  | dropRegistry id => exact agrees_of_unseen same (·.unseen_dropRegistry id) rfl
  | describeRegistry id => exact agrees_of_unseen same (·.unseen_describeRegistry id) rfl
  | makeEditor id request config onCommit =>
      exact agrees_makeEditor same id request config onCommit
  | mount id name => exact agrees_mount same id name
  | update id request => exact agrees_update same id request
  | edit id text => exact agrees_onEditor same id (Editor.blind_handleEdit text)
  | command id chord => exact agrees_command same id chord
  | setOnCommit id label => exact agrees_onEditor same id (Editor.blind_setOnCommit label)
  | unmount id => exact agrees_onEditor same id Editor.blind_unmount
  | dropEditor id => exact agrees_dropEditor same id
  | readDocument id =>
      obtain ⟨here, there⟩ | ⟨editor, other, here, there, faces⟩ := editors_of_view same id
      · simp only [perform, here, there]
        exact agrees_refuse same _
      · have documents : editor.document = other.document := by
          rw [Editor.holding_of_face faces]
          rfl
        simp only [perform, here, there, documents]
        exact ⟨same, rfl, fun _ => rfl⟩

/-- What there is to see of one operation: what it is answered, if it is one of
editors, what surfaces and callbacks receive, and the view it leaves. -/
structure Sight where
  answer : Option (Except Refusal Answer)
  seen : List Effect
  view : View

/-- Nothing is seen of a host that begins or ceases to accept. -/
def sight? (workspace : Workspace) (operation : Operation) : Option Sight :=
  let reply := workspace.perform operation
  if operation.setsReadiness then none
  else some ⟨if operation.isEditing then some reply.answer else none, seen reply.effects,
    reply.workspace.view⟩

theorem view_of_setsReadiness (workspace : Workspace) (sets : operation.setsReadiness = true) :
    (workspace.perform operation).workspace.view = workspace.view := by
  cases operation with
  | rejectAt name rejecting => exact (workspace.unseen_rejectAt name rejecting).view
  | _ => cases sets

theorem sight?_of_view (same : left.view = right.view) (operation : Operation) :
    sight? left operation = sight? right operation := by
  have agrees := agrees_perform same operation
  unfold sight?
  by_cases sets : operation.setsReadiness = true
  · rw [if_pos sets, if_pos sets]
  · rw [if_neg sets, if_neg sets, agrees.seen, agrees.view]
    by_cases editing : operation.isEditing = true
    · rw [if_pos editing, if_pos editing, agrees.answer editing]
    · rw [if_neg editing, if_neg editing]

/-- From workspaces of one view, a run is seen as if no host had changed its mind. -/
theorem sights_filter (same : left.view = right.view) (operations : List Operation) :
    let steady := operations.filter (!·.setsReadiness)
    observations sight? left operations = observations sight? right steady ∧
      (left.run operations).view = (right.run steady).view := by
  intro steady
  induction operations generalizing left right with
  | nil => exact ⟨rfl, same⟩
  | cons operation rest ih =>
      by_cases sets : operation.setsReadiness = true
      · have skipped : steady = rest.filter (!·.setsReadiness) := by
          simp only [steady, List.filter_cons, sets, Bool.not_true, Bool.false_eq_true, if_false]
        have unseen : sight? left operation = none := if_pos sets
        rw [skipped, observations, unseen]
        exact ih ((left.view_of_setsReadiness sets).trans same)
      · have kept : steady = operation :: rest.filter (!·.setsReadiness) := by
          simp only [steady, List.filter_cons, sets, Bool.not_false, if_true]
        rw [kept, observations, observations, sight?_of_view same]
        obtain ⟨seen, views⟩ := ih (agrees_perform same operation).view
        exact ⟨by rw [seen], views⟩

/-- **A host that rejects blocks nothing.** Two runs of the same operations may
differ in when hosts begin and cease to accept. Then surfaces and callbacks receive
the same, in the same order, operations on editors are answered the same, and after
every operation editors differ in the handles they hold and hosts in what lies on
them, and in nothing else. -/
theorem readiness_unseen (workspace : Workspace) (first second : List Operation)
    (sameButReadiness :
      first.filter (!·.setsReadiness) = second.filter (!·.setsReadiness)) :
    observations sight? workspace first = observations sight? workspace second ∧
      (workspace.run first).view = (workspace.run second).view := by
  obtain ⟨firstSeen, firstView⟩ := sights_filter (rfl : workspace.view = workspace.view) first
  obtain ⟨secondSeen, secondView⟩ := sights_filter (rfl : workspace.view = workspace.view) second
  rw [sameButReadiness] at firstSeen firstView
  exact ⟨firstSeen.trans secondSeen.symm, firstView.trans secondView.symm⟩

/-- An editor that is mounted, given another scope, typed into and committed; the
host may be told something before that and something after. -/
def committed (before after : List Operation) : List Operation :=
  [.bindScope "empty" ⟨[]⟩, .bindScope "one" ⟨[("a", .null)]⟩,
    .makeEditor "editor" ⟨"a", "empty", false, true⟩ {} (some "save")] ++ before ++
  [.mount "editor" "host", .update "editor" ⟨"a", "one", false, true⟩,
    .edit "editor" (some "b"), .command "editor" .commit] ++ after

/-- A host that rejects all the while keeps nothing, and nobody sees it. -/
theorem readiness_unseen_committed :
    let accepting := committed [] []
    let rejecting := committed [.rejectAt "host" true] [.rejectAt "host" false]
    accepting.filter (!·.setsReadiness) = rejecting.filter (!·.setsReadiness) ∧
    observations sight? (start 0) accepting = observations sight? (start 0) rejecting ∧
    (((start 0).run accepting).hosts.host "host").liveCount = 1 ∧
    (((start 0).run rejecting).hosts.host "host").liveCount = 0 := by
  have same : (committed [] []).filter (!·.setsReadiness) =
      (committed [.rejectAt "host" true] [.rejectAt "host" false]).filter (!·.setsReadiness) := rfl
  exact ⟨same, (readiness_unseen (start 0) _ _ same).1, by decide, by decide⟩

end Workspace

end LiveScope
