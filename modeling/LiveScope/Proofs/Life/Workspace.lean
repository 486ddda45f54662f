/- # LiveScope.Proofs.Life.Workspace — an editor lives in a workspace

An operation on a known editor is one of the editor's calls (`call?`), unless it makes
another editor in its place or drops it. All other operations leave the editor as it is
(`editors_other_perform`); what they make of the hosts is one of its calls too. So over a
run an editor lives a life (`lived_run`): whatever is true of all lives is true of every
editor of a workspace, from its making on (`made`).
-/
import LiveScope.Proofs.Installation.Churn
import LiveScope.Proofs.Life.Run

namespace LiveScope.Workspace

set_option autoImplicit false

/-! ### Operations and calls -/

namespace Operation

/-- The editor that an operation names. -/
def editor? : Operation → Option String
  | .makeEditor id _ _ _ | .mount id _ | .update id _ | .edit id _ | .command id _
  | .setOnCommit id _ | .unmount id | .dropEditor id | .readDocument id => some id
  | _ => none

/-- Does an operation leave the editor `id` in its place? -/
def spares (id : String) : Operation → Bool
  | .makeEditor other _ _ _ | .dropEditor other => other != id
  | _ => true

end Operation

/-- The call that an operation makes on the editor `id`. -/
def call? (id : String) (workspace : Workspace) (operation : Operation) : Option Editor.Call :=
  if operation.editor? = some id then
    match operation with
    | .mount _ host => some (.mount (workspace.surfaces + 1) host)
    | .update _ request => (workspace.findProps request).map .update
    | .edit _ text => some (.edit text)
    | .command _ chord => some (.command chord)
    | .setOnCommit _ label => some (.setOnCommit label)
    | .unmount _ => some .unmount
    | _ => none
  else none

variable {workspace : Workspace} {id : String} {editor : Editor} {operation : Operation}

theorem editors_dropRegistry (workspace : Workspace) (other : String) :
    (workspace.dropRegistry other).workspace.editors = workspace.editors :=
  (workspace.logged_dropRegistry other).1

theorem editors_onRegistry (workspace : Workspace) (other : String)
    (operate : Registry → Hosts → Registry.Outcome) :
    (workspace.onRegistry other operate).workspace.editors = workspace.editors := by
  unfold onRegistry
  split <;> rfl

/-- An operation that names another editor, or none, leaves the editor as it is. -/
theorem editors_other_perform (other : operation.editor? ≠ some id) :
    (workspace.perform operation).workspace.editors.get? id = workspace.editors.get? id := by
  have differs {name : String} (named : operation.editor? = some name) : id ≠ name := by
    rintro rfl
    exact other named
  cases operation with
  | bindScope | rejectAt | readAt | settingsOf | allocatePath => rfl
  | addAt name path content keepAs =>
      simp only [perform, addAt]
      split <;> rfl
  | disposeAt name handle =>
      simp only [perform, disposeAt]
      split <;> rfl
  | makeRegistry name path =>
      simp only [perform, makeRegistry, editors_dropRegistry, editors_choosePath]
  | attach name host => rw [perform, editors_onRegistry]
  | detach name => rw [perform, editors_onRegistry]
  | install name content => rw [perform, editors_onRegistry]
  | disposeRegistry name => rw [perform, editors_onRegistry]
  | dropRegistry name => rw [perform, editors_dropRegistry]
  | describeRegistry name =>
      simp only [perform]
      split <;> rfl
  | makeEditor name request config onCommit =>
      simp only [perform, makeEditor]
      split
      · rfl
      · simp only [Shelf.get?_insert, Ne.symm (differs rfl), if_false,
          editors_dropEditor_other (differs rfl), editors_choosePath]
  | mount name host =>
      simp only [perform, mount]
      split
      · rfl
      · exact editors_onEditor_other (differs rfl) _
  | update name request =>
      simp only [perform, update]
      split
      · rfl
      · rfl
      · exact editors_onEditor_other (differs rfl) _
  | edit name text => exact editors_onEditor_other (differs rfl) _
  | command name chord =>
      simp only [perform, command]
      split
      · rfl
      · simp only [afterEditor, Shelf.get?_insert, Ne.symm (differs rfl), if_false]
  | setOnCommit name label => exact editors_onEditor_other (differs rfl) _
  | unmount name => exact editors_onEditor_other (differs rfl) _
  | dropEditor name => exact editors_dropEditor_other (differs rfl)
  | readDocument name =>
      simp only [perform]
      split <;> rfl

/-- What an operation that is a call leaves of the editor, of the hosts, and what others
see of it. -/
theorem perform_of_call {call : Editor.Call} (found : workspace.editors.get? id = some editor)
    (calls : workspace.call? id operation = some call) :
    let outcome := editor.perform call workspace.hosts
    let reply := workspace.perform operation
    reply.workspace.editors.get? id = some outcome.editor ∧
      reply.workspace.hosts = outcome.hosts ∧ reply.effects = outcome.effects := by
  have after (surfaces : Workspace) (answer : Answer) (outcome : Editor.Outcome) :
      (surfaces.afterEditor id answer outcome).workspace.editors.get? id = some outcome.editor := by
    simp only [afterEditor, Shelf.get?_insert, if_true]
  unfold call? at calls
  split at calls
  · next named =>
      cases operation with
      | mount name host =>
          cases named
          cases calls
          rw [perform, mount_of_found found]
          exact ⟨after _ _ _, rfl, rfl⟩
      | update name request =>
          cases named
          obtain ⟨props, known, rfl⟩ := Option.map_eq_some_iff.1 calls
          rw [perform, update_of_known found known]
          exact ⟨after _ _ _, rfl, rfl⟩
      | command name chord =>
          cases named
          cases calls
          simp only [perform, command, found]
          exact ⟨after _ _ _, rfl, rfl⟩
      | edit | setOnCommit | unmount =>
          cases named
          cases calls
          simp only [perform, onEditor_of_found found]
          exact ⟨after _ _ _, rfl, rfl⟩
      | _ => cases calls
  · cases calls

/-- An operation that is no call leaves the editor as it is, unless it takes it away. -/
theorem editor_of_no_call (found : workspace.editors.get? id = some editor)
    (noCall : workspace.call? id operation = none) (spares : operation.spares id = true) :
    (workspace.perform operation).workspace.editors.get? id = some editor := by
  by_cases named : operation.editor? = some id
  · unfold call? at noCall
    rw [if_pos named] at noCall
    cases operation with
    | update name request =>
        cases named
        have unknown : workspace.findProps request = none := Option.map_eq_none_iff.1 noCall
        simp only [perform, update, found, unknown, refuse]
    | readDocument name =>
        cases named
        simp only [perform, found, done]
    | makeEditor name | dropEditor name =>
        cases named
        simp [Operation.spares] at spares
    | mount | edit | command | setOnCommit | unmount => cases noCall
    | _ => cases named
  · rw [editors_other_perform named, found]

/-! ### Runs and lives -/

/-- The calls that a run makes on the editor `id`. -/
def callsOn (id : String) : Workspace → List Operation → List Editor.Call
  | _, [] => []
  | workspace, operation :: rest =>
      let next := (workspace.perform operation).workspace
      (workspace.call? id operation).getD (.meanwhile next.hosts) :: callsOn id next rest

/-- What others see of the calls that a run makes on the editor `id`. -/
def ownEffects (id : String) : Workspace → List Operation → List Effect
  | _, [] => []
  | workspace, operation :: rest =>
      let reply := workspace.perform operation
      (if (workspace.call? id operation).isSome then reply.effects else []) ++
        ownEffects id reply.workspace rest

/-- **Over a run that leaves it in its place, an editor lives the life of its calls.** -/
theorem lived_run (found : workspace.editors.get? id = some editor) {operations : List Operation}
    (spared : ∀ operation ∈ operations, operation.spares id = true) :
    let life := editor.live (callsOn id workspace operations) workspace.hosts
    (workspace.run operations).editors.get? id = some life.editor ∧
      (workspace.run operations).hosts = life.hosts ∧
      ownEffects id workspace operations = life.effects := by
  induction operations generalizing workspace editor with
  | nil => exact ⟨found, rfl, rfl⟩
  | cons operation rest ih =>
      have restSpared : ∀ operation ∈ rest, operation.spares id = true :=
        fun other member => spared other (List.mem_cons_of_mem _ member)
      rw [callsOn, ownEffects]
      simp only [Editor.live_cons]
      cases calls : workspace.call? id operation with
      | some call =>
          obtain ⟨known, hosts, effects⟩ := perform_of_call found calls
          obtain ⟨lives, leaves, shows⟩ := ih known restSpared
          rw [hosts] at lives leaves shows
          refine ⟨lives, leaves, ?_⟩
          rw [shows, effects]
          rfl
      | none =>
          have known := editor_of_no_call found calls (spared operation List.mem_cons_self)
          exact ih known restSpared

/-- An editor begins its life when it is made. -/
theorem made {request : PropsRequest} {props : Props} (known : workspace.findProps request = some props)
    (config : EditorConfig) (onCommit : Option String) :
    (workspace.perform (.makeEditor id request config onCommit)).workspace.editors.get? id =
      some (.make config.options (workspace.choosePath config.path).1 props onCommit) := by
  simp only [perform, makeEditor, known, Shelf.get?_insert, if_true]

end LiveScope.Workspace
