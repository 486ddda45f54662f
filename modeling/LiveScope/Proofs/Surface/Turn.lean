/- # LiveScope.Proofs.Surface.Turn — what one operation asks of the surfaces

An editor that is mounted takes its surface to show a text and to be read-only or
not (`Editor.shown?`). An operation takes one of four turns (`Turn`): it asks
nothing of any surface, and each editor shows what it showed or nothing any more;
it mounts an editor, which greets a surface that was never used; it updates an
editor, which asks its surface for what differs and for nothing else; or it reports
what a user typed. `turn_perform` is the one place where the operations are gone
through.
-/
import LiveScope.Proofs.Installation.Editor
import LiveScope.Workspace.Operation

namespace LiveScope

set_option autoImplicit false

/-! ### What surfaces are asked for -/

/-- What an effect asks of the surface with a number. -/
def Effect.call? (number : Nat) : Effect → Option SurfaceCall
  | .surface other call => if other = number then some call else none
  | .changed _ | .committed _ | .logged _ => none

/-- What the surface with a number is asked for, in order. -/
def calls (number : Nat) (effects : List Effect) : List SurfaceCall :=
  effects.filterMap (·.call? number)

@[simp] theorem calls_nil (number : Nat) : calls number [] = [] := rfl

@[simp] theorem calls_append (number : Nat) (first second : List Effect) :
    calls number (first ++ second) = calls number first ++ calls number second :=
  List.filterMap_append

@[simp] theorem calls_logged (number : Nat) (events : List Log.Event) :
    calls number (events.map .logged) = [] := by
  simp [calls, Effect.call?]

@[simp] theorem calls_surface (number other : Nat) (requests : List SurfaceCall) :
    calls number (requests.map (.surface other)) = if other = number then requests else [] := by
  rw [calls, List.filterMap_map]
  by_cases same : other = number
  · have asked : (fun effect : Effect => effect.call? number) ∘ Effect.surface other = some := by
      funext call
      simp [Effect.call?, same]
    rw [asked, List.filterMap_some, if_pos same]
  · rw [if_neg same, List.filterMap_eq_nil_iff]
    intro call _
    simp [Effect.call?, same]

/-! ### What editors show -/

/-- What an editor takes its surface to show. -/
structure Shown where
  surface : Nat
  text : String
  readOnly : Bool
  deriving DecidableEq, Repr

namespace Editor

def shown? (editor : Editor) : Option Shown :=
  editor.mounted.map fun mounted => ⟨mounted.surface, mounted.content, editor.props.disabled⟩

/-- What a surface that shows something is asked for, so that it shows new props. -/
def corrections (shown : Shown) (props : Props) : List SurfaceCall :=
  (if props.disabled = shown.readOnly then []
    else [.updateOptions { readOnly := props.disabled }]) ++
  if props.value = shown.text then [] else [.setText props.value]

variable (editor : Editor) (hosts : Hosts)

theorem shown?_unmount : (editor.unmount hosts).editor.shown? = none := by
  unfold unmount
  split
  · next absent => simp [shown?, absent]
  · rfl

theorem calls_unmount (number : Nat) : calls number (editor.unmount hosts).effects = [] := by
  unfold unmount
  split
  · rfl
  · simp only [ofRegistry, calls_append, calls_logged, List.nil_append]
    rfl

/-- An editor greets a surface in the same way whether it left another one or not. -/
theorem greeting_unmount : (editor.unmount hosts).editor.greeting = editor.greeting := by
  unfold unmount
  split <;> rfl

theorem shown?_mount (surface : Nat) (name : String) :
    (editor.mount surface name hosts).editor.shown? =
      some ⟨surface, editor.props.value, editor.props.disabled⟩ := by
  simp only [mount, Outcome.andThen, mountFresh, shown?, props_unmount, Option.map_some]

theorem calls_mount (surface : Nat) (name : String) (number : Nat) :
    calls number (editor.mount surface name hosts).effects =
      if surface = number then editor.greeting else [] := by
  simp only [mount, Outcome.andThen, mountFresh, calls_append, calls_unmount, calls_surface,
    calls_logged, greeting_unmount, List.nil_append, List.append_nil]
  exact List.append_nil _

theorem calls_declareScope (scope : SharedScope) (number : Nat) :
    calls number (editor.declareScope scope hosts).effects = [] := by
  unfold declareScope
  split
  · rfl
  · simp only
    split
    · exact calls_logged number _
    · have told := calls_logged number (Document.scopeLog editor.options scope.scope)
      have installed := calls_logged number
        (.scopeChanged scope.scope.entries.length :: (editor.registry.install
          (Document.ofScope editor.options scope.scope) hosts).events)
      rw [List.map_cons] at installed
      simp only [ofRegistry, calls_append, told, installed, List.append_nil]

theorem shown?_update (props : Props) : (editor.update props hosts).editor.shown? =
    editor.shown?.map fun shown => ⟨shown.surface, props.value, props.disabled⟩ := by
  obtain ⟨document, registry, after⟩ := editor_declareScope props.scope editor hosts
  simp only [update, Outcome.andThen, editor_adopt, shown?, after, Option.map_map,
    Function.comp_def]

theorem calls_update (props : Props) (number : Nat) :
    calls number (editor.update props hosts).effects =
      match editor.shown? with
      | some shown => if shown.surface = number then corrections shown props else []
      | none => [] := by
  obtain ⟨document, registry, after⟩ := editor_declareScope props.scope editor hosts
  simp only [update, Outcome.andThen, calls_append, calls_declareScope, List.nil_append, adopt,
    after, shown?]
  cases editor.mounted with
  | none => rfl
  | some mounted =>
      have asked := calls_surface number mounted.surface
        (corrections ⟨mounted.surface, mounted.content, editor.props.disabled⟩ props)
      rw [corrections, List.map_append] at asked
      simp only [Option.map_some, corrections]
      rw [← asked]
      congr 2 <;> split <;> rfl

theorem shown?_handleEdit (text : Option String) : (editor.handleEdit text hosts).editor.shown? =
    editor.shown?.map fun shown => { shown with text := text.getD "" } := by
  simp only [handleEdit, shown?, Option.map_map, Function.comp_def]

end Editor

/-! ### Turns -/

namespace Workspace

/-- What the editor `id` takes its surface to show. -/
def shown? (workspace : Workspace) (id : String) : Option Shown :=
  (workspace.editors.get? id).bind Editor.shown?

/-- The surface that an operation reports a user's edit of, and its text. -/
def typed? (workspace : Workspace) : Operation → Option (Nat × String)
  | .edit id text => (workspace.shown? id).map fun shown => (shown.surface, text.getD "")
  | _ => none

/-- What an operation asks of the surfaces, and what the editors show after it. -/
inductive Turn (workspace : Workspace) (operation : Operation) (reply : Reply) : Prop where
  /-- Nothing is asked for and nothing was typed. -/
  | rests
      (untyped : workspace.typed? operation = none)
      (shows : ∀ id, reply.workspace.shown? id = none ∨
        reply.workspace.shown? id = workspace.shown? id)
      (surfaces : reply.workspace.surfaces = workspace.surfaces)
      (asked : ∀ number, calls number reply.effects = [])
  /-- The editor `id` greets the next surface. -/
  | mounts (id host : String) (editor : Editor)
      (own : operation = .mount id host)
      (found : workspace.editors.get? id = some editor)
      (shows : reply.workspace.shown? id =
        some ⟨workspace.surfaces + 1, editor.props.value, editor.props.disabled⟩)
      (others : ∀ other, other ≠ id → reply.workspace.shown? other = workspace.shown? other)
      (surfaces : reply.workspace.surfaces = workspace.surfaces + 1)
      (asked : ∀ number, calls number reply.effects =
        if workspace.surfaces + 1 = number then editor.greeting else [])
  /-- The editor `id` asks its surface for what differs from new props. -/
  | updates (id : String) (request : PropsRequest) (props : Props) (shown : Shown)
      (own : operation = .update id request)
      (known : workspace.findProps request = some props)
      (showed : workspace.shown? id = some shown)
      (shows : reply.workspace.shown? id = some ⟨shown.surface, props.value, props.disabled⟩)
      (others : ∀ other, other ≠ id → reply.workspace.shown? other = workspace.shown? other)
      (surfaces : reply.workspace.surfaces = workspace.surfaces)
      (asked : ∀ number, calls number reply.effects =
        if shown.surface = number then Editor.corrections shown props else [])
  /-- The editor `id` is told what was typed into its surface. -/
  | types (id : String) (text : Option String) (shown : Shown)
      (own : operation = .edit id text)
      (showed : workspace.shown? id = some shown)
      (shows : reply.workspace.shown? id = some { shown with text := text.getD "" })
      (others : ∀ other, other ≠ id → reply.workspace.shown? other = workspace.shown? other)
      (surfaces : reply.workspace.surfaces = workspace.surfaces)
      (asked : ∀ number, calls number reply.effects = [])

variable {workspace : Workspace} {operation : Operation}

theorem shown?_of_editors {next : Workspace} (same : next.editors = workspace.editors)
    (id : String) : next.shown? id = workspace.shown? id := by
  rw [shown?, same, shown?]

theorem shown?_of_found {id : String} {editor : Editor}
    (found : workspace.editors.get? id = some editor) : workspace.shown? id = editor.shown? := by
  rw [shown?, found, Option.bind_some]

/-- An operation that leaves the editors as they are and only tells the log. -/
theorem Turn.of_sameEditors {reply : Reply} (untyped : workspace.typed? operation = none)
    (editors : reply.workspace.editors = workspace.editors)
    (surfaces : reply.workspace.surfaces = workspace.surfaces) (events : List Log.Event)
    (logged : reply.effects = events.map .logged) : workspace.Turn operation reply := by
  refine .rests untyped (fun id => .inr (shown?_of_editors editors id)) surfaces fun number => ?_
  rw [logged, calls_logged]

theorem Turn.of_refused (untyped : workspace.typed? operation = none) (refusal : Refusal) :
    workspace.Turn operation (workspace.refuse refusal) :=
  .of_sameEditors untyped rfl rfl [] rfl

/-- What is shown after an operation on the editor `id`. -/
theorem shown?_afterEditor (id other : String) (answer : Answer) (outcome : Editor.Outcome) :
    (workspace.afterEditor id answer outcome).workspace.shown? other =
      if id = other then outcome.editor.shown? else workspace.shown? other := by
  simp only [shown?, afterEditor, Shelf.get?_insert]
  split <;> rfl

theorem shown?_afterEditor_other {id other : String} (differs : other ≠ id) (answer : Answer)
    (outcome : Editor.Outcome) :
    (workspace.afterEditor id answer outcome).workspace.shown? other = workspace.shown? other := by
  rw [shown?_afterEditor, if_neg (Ne.symm differs)]

/-! ### Editors that are known -/

theorem shown?_mount_of_found {id : String} {editor : Editor}
    (found : workspace.editors.get? id = some editor) (host : String) :
    (workspace.mount id host).workspace.shown? id =
      some ⟨workspace.surfaces + 1, editor.props.value, editor.props.disabled⟩ := by
  rw [mount_of_found found, shown?_afterEditor, if_pos rfl, Editor.shown?_mount]

theorem shown?_update_of_known {id : String} {editor : Editor} {request : PropsRequest}
    {props : Props} (found : workspace.editors.get? id = some editor)
    (known : workspace.findProps request = some props) :
    (workspace.update id request).workspace.shown? id =
      editor.shown?.map fun shown => ⟨shown.surface, props.value, props.disabled⟩ := by
  rw [update_of_known found known, shown?_afterEditor, if_pos rfl, Editor.shown?_update]

/-! ### The turn of each operation -/

/-- An operation on one editor that asks nothing of its surface. -/
theorem turn_afterEditor (untyped : workspace.typed? operation = none) (id : String)
    (answer : Answer) (outcome : Editor.Outcome)
    (shows : outcome.editor.shown? = none ∨ outcome.editor.shown? = workspace.shown? id)
    (asked : ∀ number, calls number outcome.effects = []) :
    workspace.Turn operation (workspace.afterEditor id answer outcome) := by
  refine .rests untyped (fun other => ?_) rfl asked
  rw [shown?_afterEditor]
  split
  · next same => exact same ▸ shows
  · exact .inr rfl

/-- An operation on whichever editor is known, that leaves it showing what it showed
or nothing. -/
theorem turn_onEditor (untyped : workspace.typed? operation = none) (id : String)
    {operate : Editor → Hosts → Editor.Outcome}
    (shows : ∀ editor, (operate editor workspace.hosts).editor.shown? = none ∨
      (operate editor workspace.hosts).editor.shown? = editor.shown?)
    (asked : ∀ editor number, calls number (operate editor workspace.hosts).effects = []) :
    workspace.Turn operation (workspace.onEditor id operate) := by
  unfold Workspace.onEditor
  split
  · exact .of_refused untyped _
  · next editor found =>
      apply turn_afterEditor untyped id
      · rw [shown?_of_found found]
        exact shows editor
      · exact asked editor

theorem shown?_dropEditor (workspace : Workspace) (id other : String) :
    (workspace.dropEditor id).workspace.shown? other =
      if id = other then none else workspace.shown? other := by
  unfold dropEditor
  split
  · next absent =>
      split
      · next same =>
          show workspace.shown? other = none
          rw [shown?, ← same, absent, Option.bind_none]
      · rfl
  · simp only [shown?, Shelf.get?_erase]
    split <;> rfl

theorem logged_dropEditor (workspace : Workspace) (id : String) :
    ∃ events : List Log.Event, (workspace.dropEditor id).effects = events.map .logged := by
  unfold dropEditor
  split
  · exact ⟨[], rfl⟩
  · exact ⟨_, rfl⟩

theorem surfaces_dropEditor (workspace : Workspace) (id : String) :
    (workspace.dropEditor id).workspace.surfaces = workspace.surfaces := by
  unfold dropEditor
  split <;> rfl

theorem choosePath_keeps (workspace : Workspace) (path : Option String) :
    (workspace.choosePath path).2.editors = workspace.editors ∧
      (workspace.choosePath path).2.surfaces = workspace.surfaces := by
  cases path <;> exact ⟨rfl, rfl⟩

theorem logged_dropRegistry (workspace : Workspace) (id : String) :
    (workspace.dropRegistry id).workspace.editors = workspace.editors ∧
      (workspace.dropRegistry id).workspace.surfaces = workspace.surfaces ∧
      ∃ events : List Log.Event, (workspace.dropRegistry id).effects = events.map .logged := by
  unfold dropRegistry
  split
  · exact ⟨rfl, rfl, [], rfl⟩
  · exact ⟨rfl, rfl, _, rfl⟩

theorem turn_onRegistry (untyped : workspace.typed? operation = none) (id : String)
    (operate : Registry → Hosts → Registry.Outcome) :
    workspace.Turn operation (workspace.onRegistry id operate) := by
  unfold onRegistry
  split
  · exact .of_refused untyped _
  · exact .of_sameEditors untyped rfl rfl _ rfl

theorem turn_makeEditor (workspace : Workspace) (id : String) (request : PropsRequest)
    (config : EditorConfig) (onCommit : Option String) :
    workspace.Turn (.makeEditor id request config onCommit)
      (workspace.makeEditor id request config onCommit) := by
  unfold makeEditor
  split
  · exact .of_refused rfl _
  · next props found =>
      obtain ⟨events, logged⟩ := (workspace.choosePath config.path).2.logged_dropEditor id
      have chosen := workspace.choosePath_keeps config.path
      refine .rests rfl (fun other => ?_) ?_ fun number => ?_
      · have dropped := (workspace.choosePath config.path).2.shown?_dropEditor id other
        rw [shown?_of_editors chosen.1] at dropped
        simp only [shown?, Shelf.get?_insert] at dropped ⊢
        split
        · exact .inl rfl
        · next differs => exact .inr (dropped.trans (if_neg differs))
      · simp only [surfaces_dropEditor, chosen.2]
      · simp only [logged, calls_append, calls_logged, List.append_nil]

theorem turn_mount (workspace : Workspace) (id host : String) :
    workspace.Turn (.mount id host) (workspace.mount id host) := by
  cases found : workspace.editors.get? id with
  | none =>
      simp only [mount, found]
      exact .of_refused rfl _
  | some editor =>
      have shows := shown?_mount_of_found found host
      rw [mount_of_found found] at shows ⊢
      refine .mounts id host editor rfl found shows (fun other differs => ?_) rfl fun number => ?_
      · exact shown?_afterEditor_other differs _ _
      · exact editor.calls_mount _ _ host number

theorem turn_update (workspace : Workspace) (id : String) (request : PropsRequest) :
    workspace.Turn (.update id request) (workspace.update id request) := by
  cases found : workspace.editors.get? id with
  | none =>
      simp only [update, found]
      exact .of_refused rfl _
  | some editor =>
      cases known : workspace.findProps request with
      | none =>
          simp only [update, found, known]
          exact .of_refused rfl _
      | some props =>
          have after := shown?_update_of_known found known
          have asked := editor.calls_update workspace.hosts props
          rw [update_of_known found known] at after ⊢
          cases showed : editor.shown? with
          | none =>
              rw [showed] at asked
              refine turn_afterEditor rfl id _ _ (.inl ?_) asked
              rw [Editor.shown?_update, showed, Option.map_none]
          | some before =>
              rw [showed] at after asked
              refine .updates id request props before rfl known
                ((shown?_of_found found).trans showed) after ?_ rfl asked
              exact fun other differs => shown?_afterEditor_other differs _ _

theorem turn_edit (workspace : Workspace) (id : String) (text : Option String) :
    workspace.Turn (.edit id text) (workspace.onEditor id (Editor.handleEdit text)) := by
  cases found : workspace.editors.get? id with
  | none =>
      simp only [onEditor, found]
      refine .of_refused ?_ _
      simp [typed?, shown?, found]
  | some editor =>
      rw [onEditor_of_found found]
      have after := editor.shown?_handleEdit workspace.hosts text
      cases showed : editor.shown? with
      | none =>
          rw [showed] at after
          refine turn_afterEditor ?_ id _ _ (.inl after) fun _ => rfl
          simp [typed?, shown?_of_found found, showed]
      | some before =>
          rw [showed] at after
          refine .types id text before rfl ((shown?_of_found found).trans showed) ?_ ?_ rfl
            fun _ => rfl
          · rw [shown?_afterEditor, if_pos rfl, after, Option.map_some]
          · exact fun other differs => shown?_afterEditor_other differs _ _

theorem turn_perform (workspace : Workspace) (operation : Operation) :
    workspace.Turn operation (workspace.perform operation) := by
  cases operation with
  | bindScope name scope => exact .of_sameEditors rfl rfl rfl [] rfl
  | rejectAt name rejecting => exact .of_sameEditors rfl rfl rfl [] rfl
  | addAt name path content keepAs =>
      simp only [perform, addAt]
      split <;> exact .of_sameEditors rfl rfl rfl content.events rfl
  | disposeAt name handle =>
      simp only [perform, disposeAt]
      split
      · exact .of_refused rfl _
      · exact .of_sameEditors rfl rfl rfl [] rfl
  | readAt name path => exact .of_sameEditors rfl rfl rfl [] rfl
  | settingsOf name => exact .of_sameEditors rfl rfl rfl [] rfl
  | allocatePath => exact .of_sameEditors rfl rfl rfl [] rfl
  | makeRegistry id path =>
      obtain ⟨editors, surfaces, events, logged⟩ :=
        (workspace.choosePath path).2.logged_dropRegistry id
      have chosen := workspace.choosePath_keeps path
      exact .of_sameEditors rfl (editors.trans chosen.1) (surfaces.trans chosen.2) events logged
  | attach id name =>
      simp only [perform]
      exact turn_onRegistry rfl id _
  | detach id =>
      simp only [perform]
      exact turn_onRegistry rfl id _
  | install id content =>
      simp only [perform]
      exact turn_onRegistry rfl id _
  | disposeRegistry id =>
      simp only [perform]
      exact turn_onRegistry rfl id _
  | dropRegistry id =>
      obtain ⟨editors, surfaces, events, logged⟩ := workspace.logged_dropRegistry id
      exact .of_sameEditors rfl editors surfaces events logged
  | describeRegistry id =>
      simp only [perform]
      split
      · exact .of_refused rfl _
      · exact .of_sameEditors rfl rfl rfl [] rfl
  | makeEditor id request config onCommit => exact turn_makeEditor _ id request config onCommit
  | mount id name => exact turn_mount _ id name
  | update id request => exact turn_update _ id request
  | edit id text => exact turn_edit _ id text
  | command id chord =>
      simp only [perform, command]
      split
      · exact .of_refused rfl _
      · next editor found =>
          refine turn_afterEditor rfl id _ _ (.inr ?_) fun number => ?_
          · exact (shown?_of_found found).symm
          · simp only [Editor.handleCommand]
            split
            · simp [calls, Effect.call?]
            · rfl
  | setOnCommit id label =>
      simp only [perform]
      exact turn_onEditor rfl id (fun _ => .inr rfl) fun _ _ => rfl
  | unmount id =>
      simp only [perform]
      apply turn_onEditor rfl id
      · exact fun editor => .inl (editor.shown?_unmount _)
      · exact fun editor number => editor.calls_unmount _ number
  | dropEditor id =>
      obtain ⟨events, logged⟩ := workspace.logged_dropEditor id
      refine .rests rfl (fun other => ?_) (workspace.surfaces_dropEditor id) fun number => ?_
      · have dropped := workspace.shown?_dropEditor id other
        split at dropped
        · exact .inl dropped
        · exact .inr dropped
      · simp only [perform, logged, calls_logged]
  | readDocument id =>
      simp only [perform]
      split
      · exact .of_refused rfl _
      · exact .of_sameEditors rfl rfl rfl [] rfl

end Workspace

end LiveScope
