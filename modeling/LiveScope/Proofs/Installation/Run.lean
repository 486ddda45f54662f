/- # LiveScope.Proofs.Installation.Run — what is installed after any run

A run is any list of operations on editors, their scopes and the hosts' readiness
to accept (`Operation.isForEditors`), in which no two editors that are there at
the same time have one path (`DistinctPaths`). What the run says of an editor is
what was observed of it last (`latest`): the host of its last mount
(`hostOfMount?`), and the answer to the last attempt to install its document
(`attempt?`).

`Sound` is the invariant: every editor is current by what was observed of it, a
path that no editor has is vacant on every host, and an identity belongs to one
scope. One operation keeps it (`Sound.perform`), so a run does (`sound_run`). What
is installed where is read from it, the contents of the hosts by `Sound.libs_perm`.
-/
import LiveScope.Proofs.Installation.Editor
import LiveScope.Proofs.Observation
import Mathlib.Data.List.Infix
import Mathlib.Data.List.Nodup

namespace LiveScope

set_option autoImplicit false

namespace Workspace

/-! ### Runs of editors -/

/-- Operations on editors and scopes, on the readiness of hosts, and those that
only look. -/
def Operation.isForEditors : Operation → Bool
  | .bindScope _ _ | .rejectAt _ _ | .readAt _ _ | .settingsOf _ | .allocatePath => true
  | .makeEditor _ _ _ _ | .mount _ _ | .update _ _ | .edit _ _ | .command _ _ => true
  | .setOnCommit _ _ | .unmount _ | .dropEditor _ | .readDocument _ => true
  | .addAt _ _ _ _ | .disposeAt _ _ | .makeRegistry _ _ | .attach _ _ | .detach _ => false
  | .install _ _ | .disposeRegistry _ | .dropRegistry _ | .describeRegistry _ => false

/-- No two editors have one path. -/
def DistinctPaths (workspace : Workspace) : Prop :=
  (workspace.editors.values.map (·.registry.path)).Nodup

instance (workspace : Workspace) : Decidable workspace.DistinctPaths :=
  inferInstanceAs (Decidable (List.Nodup _))

theorem DistinctPaths.unique {workspace : Workspace} (distinct : workspace.DistinctPaths)
    {id other : String} {editor rival : Editor} (found : workspace.editors.get? id = some editor)
    (rivalFound : workspace.editors.get? other = some rival)
    (samePath : editor.registry.path = rival.registry.path) : id = other :=
  Shelf.name_eq_of_key distinct found rivalFound samePath

/-! ### Observations -/

/-- The host that an operation mounts the editor `id` on. -/
def hostOfMount? (id : String) (workspace : Workspace) : Operation → Option String
  | .mount name host =>
      if name = id ∧ workspace.editors.contains id = true then some host else none
  | _ => none

/-- Whether the host accepts, where an operation attempts to install the document
of the editor `id`: by a mount, or by an update that redeclares. -/
def attempt? (id : String) (workspace : Workspace) : Operation → Option Bool
  | .mount name host =>
      if name = id ∧ workspace.editors.contains id = true then some (workspace.hosts.accepts host)
      else none
  | .update name request =>
      if name = id then
        match workspace.editors.get? id, workspace.findProps request with
        | some editor, some props => editor.attempt? props workspace.hosts
        | _, _ => none
      else none
  | _ => none

/-! ### The editors and scopes that are left -/

theorem editors_choosePath (workspace : Workspace) (path : Option String) :
    (workspace.choosePath path).2.editors = workspace.editors := by
  cases path <;> rfl

theorem scopes_choosePath (workspace : Workspace) (path : Option String) :
    (workspace.choosePath path).2.scopes = workspace.scopes := by
  cases path <;> rfl

theorem absent_dropEditor (workspace : Workspace) (id : String) :
    (workspace.dropEditor id).workspace.editors.get? id = none := by
  unfold dropEditor
  split
  · next absent => exact absent
  · exact Shelf.get?_erase_self _ _

theorem scopes_dropEditor (workspace : Workspace) (id : String) :
    (workspace.dropEditor id).workspace.scopes = workspace.scopes := by
  unfold dropEditor
  split <;> rfl

/-! ### The invariant -/

/-- A shared scope is known if it is bound to a name or an editor holds it. -/
def Knows (workspace : Workspace) (shared : SharedScope) : Prop :=
  (∃ name, workspace.scopes.get? name = some shared) ∨
    ∃ id editor, workspace.editors.get? id = some editor ∧ editor.props.scope = shared

/-- Every identity in use stands for one scope. -/
def Identifies (workspace : Workspace) (meaning : Nat → Scope) : Prop :=
  ∀ shared, workspace.Knows shared →
    shared.identity < workspace.nextScope ∧ shared.scope = meaning shared.identity

/-- The state of a workspace in which the editor `id` was mounted on `host id`
last, and `attempt id` was the answer to its last attempt to install. -/
structure Sound (workspace : Workspace) (host : String → Option String)
    (attempt : String → Option Bool) : Prop where
  editors : ∀ id editor, workspace.editors.get? id = some editor →
    editor.Current (host id) (attempt id) workspace.hosts
  vacant : ∀ path, (∀ id editor, workspace.editors.get? id = some editor →
    editor.registry.path ≠ path) → ∀ name, workspace.hosts.lib? name path = none
  scopes : ∃ meaning, workspace.Identifies meaning

theorem sound_start (firstPath : Nat) (host : String → Option String)
    (attempt : String → Option Bool) : (start firstPath).Sound host attempt where
  editors := by
    intro id editor found
    cases found
  vacant := fun _ _ _ => rfl
  scopes := by
    refine ⟨fun _ => .empty, ?_⟩
    rintro shared (⟨name, found⟩ | ⟨id, editor, found, -⟩) <;> cases found

namespace Sound

variable {workspace next : Workspace} {host host' : String → Option String}
  {attempt attempt' : String → Option Bool}

/-! ### Operations on hosts and scopes -/

/-- Only what hosts keep matters of them. -/
theorem of_sameLibs (sound : workspace.Sound host attempt) {hosts : Hosts}
    (same : ∀ name path, hosts.lib? name path = workspace.hosts.lib? name path) :
    Sound { workspace with hosts } host attempt where
  editors := fun id editor found =>
    let current := sound.editors id editor found
    ⟨current.document, current.hasHost, current.host, current.installed,
      current.owns.handle, fun name => (same name _).trans (current.owns.libs name)⟩
  vacant := fun path unused name => (same name path).trans (sound.vacant path unused name)
  scopes := sound.scopes

theorem touch (sound : workspace.Sound host attempt) (name : String) :
    (workspace.touch name).Sound host attempt := by
  refine sound.of_sameLibs fun here path => ?_
  simp only [Hosts.lib?, Hosts.host_touch]

theorem rejectAt (sound : workspace.Sound host attempt) (name : String) (rejecting : Bool) :
    Sound { workspace with
      hosts := workspace.hosts.set name ((workspace.hosts.host name).setRejecting rejecting) }
      host attempt := by
  refine sound.of_sameLibs fun here path => ?_
  simp only [Hosts.lib?, Hosts.host_set]
  split
  · next same => rw [← same]; rfl
  · rfl

/-- A scope that is bound gets an identity that none has. -/
theorem bindScope (sound : workspace.Sound host attempt) (name : String) (scope : Scope) :
    (workspace.bindScope name scope).Sound host attempt where
  editors := sound.editors
  vacant := sound.vacant
  scopes := by
    obtain ⟨meaning, identifies⟩ := sound.scopes
    refine ⟨Function.update meaning workspace.nextScope scope, fun shared known => ?_⟩
    have old (knownBefore : workspace.Knows shared) :
        shared.identity < workspace.nextScope + 1 ∧ shared.scope =
          Function.update meaning workspace.nextScope scope shared.identity := by
      obtain ⟨below, same⟩ := identifies shared knownBefore
      exact ⟨by omega, by rw [Function.update_of_ne (Nat.ne_of_lt below), same]⟩
    rcases known with ⟨other, found⟩ | held
    · simp only [Workspace.bindScope, Shelf.get?_insert] at found
      split at found
      · cases found
        exact ⟨Nat.lt_succ_self workspace.nextScope, by rw [Function.update_self]⟩
      · exact old (.inl ⟨other, found⟩)
    · exact old (.inr held)

/-! ### Operations on one editor -/

/-- A change to the editor `id` and under its path alone. -/
theorem change (sound : workspace.Sound host attempt) (id path : String)
    (was : ∀ editor, workspace.editors.get? id = some editor → editor.registry.path = path)
    (apart : ∀ other rival, other ≠ id → workspace.editors.get? other = some rival →
      rival.registry.path ≠ path)
    (others : ∀ other, other ≠ id → next.editors.get? other = workspace.editors.get? other ∧
      host' other = host other ∧ attempt' other = attempt other)
    (sameBut : workspace.hosts.SameBut path next.hosts)
    (sameScopes : next.scopes = workspace.scopes ∧ next.nextScope = workspace.nextScope)
    (here : ∀ editor, next.editors.get? id = some editor → editor.registry.path = path ∧
      editor.Current (host' id) (attempt' id) next.hosts ∧ workspace.Knows editor.props.scope)
    (gone : next.editors.get? id = none → ∀ name, next.hosts.lib? name path = none) :
    next.Sound host' attempt' where
  editors := by
    intro other editor found
    by_cases same : other = id
    · subst same
      exact (here editor found).2.1
    · obtain ⟨sameEditor, sameHost, sameAttempt⟩ := others other same
      rw [sameEditor] at found
      have current := sound.editors other editor found
      rw [sameHost, sameAttempt]
      exact ⟨current.document, current.hasHost, current.host, current.installed,
        current.owns.handle, fun name =>
          (sameBut.lib? name _ (apart other editor same found)).trans (current.owns.libs name)⟩
  vacant := by
    intro free unused name
    by_cases own : free = path
    · subst own
      cases found : next.editors.get? id with
      | none => exact gone found name
      | some editor => exact absurd (here editor found).1 (unused id editor found)
    · refine (sameBut.lib? name free own).trans (sound.vacant free ?_ name)
      intro other rival found
      by_cases same : other = id
      · subst same
        rw [was rival found]
        exact Ne.symm own
      · exact unused other rival ((others other same).1.trans found)
  scopes := by
    obtain ⟨meaning, identifies⟩ := sound.scopes
    refine ⟨meaning, fun shared known => ?_⟩
    rw [sameScopes.2]
    refine identifies shared ?_
    rcases known with ⟨name, found⟩ | ⟨other, editor, found, holds⟩
    · exact .inl ⟨name, sameScopes.1 ▸ found⟩
    · by_cases same : other = id
      · subst same
        exact holds ▸ (here editor found).2.2
      · exact .inr ⟨other, editor, (others other same).1 ▸ found, holds⟩

theorem path_of_found {id : String} {editor : Editor}
    (found : workspace.editors.get? id = some editor) (same : Editor)
    (sameFound : workspace.editors.get? id = some same) :
    same.registry.path = editor.registry.path := by
  rw [found, Option.some.injEq] at sameFound
  rw [sameFound]

/-- The others have other paths. -/
theorem apart_of_distinct (distinct : workspace.DistinctPaths) {id : String} {editor : Editor}
    (found : workspace.editors.get? id = some editor) (other : String) (rival : Editor)
    (differs : other ≠ id) (rivalFound : workspace.editors.get? other = some rival) :
    rival.registry.path ≠ editor.registry.path :=
  fun samePath => differs (distinct.unique rivalFound found samePath)

/-- An operation that keeps an editor current. -/
theorem afterEditor (sound : workspace.Sound host attempt) (distinct : workspace.DistinctPaths)
    {id : String} {editor : Editor} (found : workspace.editors.get? id = some editor)
    {outcome : Editor.Outcome} (answer : Answer)
    (keeps : outcome.Keeps editor workspace.hosts (host' id) (attempt' id))
    (others : ∀ other, other ≠ id → host' other = host other ∧ attempt' other = attempt other)
    (knows : workspace.Knows outcome.editor.props.scope) :
    (workspace.afterEditor id answer outcome).workspace.Sound host' attempt' := by
  refine sound.change id editor.registry.path (path_of_found found)
    (apart_of_distinct distinct found) ?_ keeps.sameBut ⟨rfl, rfl⟩ ?_ ?_
  · intro other differs
    refine ⟨?_, others other differs⟩
    simp only [Workspace.afterEditor, Shelf.get?_insert, Ne.symm differs, if_false]
  · intro after afterFound
    simp only [Workspace.afterEditor, Shelf.get?_insert_self, Option.some.injEq] at afterFound
    subst afterFound
    exact ⟨keeps.samePath, keeps.current, knows⟩
  · intro absent
    simp only [Workspace.afterEditor, Shelf.get?_insert_self, reduceCtorEq] at absent

/-- An operation that keeps the props of an editor and is no attempt to install. -/
theorem onEditor (sound : workspace.Sound host attempt) (distinct : workspace.DistinctPaths)
    (id : String) {operate : Editor → Hosts → Editor.Outcome}
    (keeps : ∀ editor, editor.Current (host id) (attempt id) workspace.hosts →
      (operate editor workspace.hosts).Keeps editor workspace.hosts (host id) (attempt id))
    (props : ∀ editor, (operate editor workspace.hosts).editor.props = editor.props) :
    (workspace.onEditor id operate).workspace.Sound host attempt := by
  unfold Workspace.onEditor
  split
  · exact sound
  · next editor found =>
      have current := sound.editors id editor found
      exact sound.afterEditor distinct found .nothing (keeps editor current)
        (fun _ _ => ⟨rfl, rfl⟩) (.inr ⟨id, editor, found, congrArg Props.scope (props editor).symm⟩)

/-- A dropped editor is gone and so is what it installed. -/
theorem dropEditor (sound : workspace.Sound host attempt) (distinct : workspace.DistinctPaths)
    (id : String) : (workspace.dropEditor id).workspace.Sound host attempt := by
  unfold Workspace.dropEditor
  split
  · exact sound
  · next editor found =>
      have current := sound.editors id editor found
      refine sound.change id editor.registry.path (path_of_found found)
        (apart_of_distinct distinct found) ?_ (Editor.sameBut_drop current) ⟨rfl, rfl⟩ ?_
        (fun _ => Editor.vacant_drop current)
      · intro other differs
        simp only [Shelf.get?_erase, Ne.symm differs, if_false, and_self]
      · intro after afterFound
        simp only [Shelf.get?_erase_self, reduceCtorEq] at afterFound

/-- A new editor under a path of its own. -/
theorem insertEditor (sound : workspace.Sound host attempt) {id path : String}
    (absent : workspace.editors.get? id = none) (options : Options) {props : Props}
    (onCommit : Option String)
    (distinct : DistinctPaths { workspace with
      editors := workspace.editors.insert id (.make options path props onCommit) })
    (knows : workspace.Knows props.scope) :
    Sound { workspace with
      editors := workspace.editors.insert id (.make options path props onCommit) }
      host attempt := by
  have apart : ∀ other rival, other ≠ id → workspace.editors.get? other = some rival →
      rival.registry.path ≠ path := by
    intro other rival differs found samePath
    refine apart_of_distinct distinct (Shelf.get?_insert_self _ _ _) other rival differs ?_ samePath
    simp only [Shelf.get?_insert, Ne.symm differs, if_false]
    exact found
  have vacant : ∀ name, workspace.hosts.lib? name path = none := by
    refine sound.vacant path fun other rival found => apart other rival ?_ found
    rintro rfl
    rw [absent] at found
    cases found
  refine sound.change id path ?_ apart ?_ (.refl path _) ⟨rfl, rfl⟩ ?_ (fun _ => vacant)
  · intro editor found
    rw [absent] at found
    cases found
  · intro other differs
    simp only [Shelf.get?_insert, Ne.symm differs, if_false, and_self]
  · intro editor found
    simp only [Shelf.get?_insert_self, Option.some.injEq] at found
    subst found
    exact ⟨rfl, Editor.make_current options props onCommit vacant, knows⟩

/-! ### Operations of a run -/

theorem choosePath (sound : workspace.Sound host attempt) (path : Option String) :
    (workspace.choosePath path).2.Sound host attempt := by
  cases path with
  | none => exact ⟨sound.editors, sound.vacant, sound.scopes⟩
  | some path => exact sound

/-- An editor that is made takes the place of one of the same name. -/
theorem makeEditor (sound : workspace.Sound host attempt) (distinct : workspace.DistinctPaths)
    (id : String) (request : PropsRequest) (config : EditorConfig) (onCommit : Option String)
    (after : (workspace.makeEditor id request config onCommit).workspace.DistinctPaths) :
    (workspace.makeEditor id request config onCommit).workspace.Sound host attempt := by
  unfold Workspace.makeEditor at after ⊢
  cases found : workspace.findProps request with
  | none => exact sound
  | some props =>
      simp only [found] at after ⊢
      have allocated := sound.choosePath config.path
      have allocatedDistinct : (workspace.choosePath config.path).2.DistinctPaths := by
        rw [DistinctPaths, editors_choosePath]
        exact distinct
      have dropped := allocated.dropEditor allocatedDistinct id
      refine dropped.insertEditor (absent_dropEditor _ id) config.options onCommit after ?_
      simp only [findProps, Option.map_eq_some_iff] at found
      obtain ⟨shared, bound, rfl⟩ := found
      refine .inl ⟨request.scope, ?_⟩
      rw [scopes_dropEditor, scopes_choosePath]
      exact bound

/-- A mount is observed of the editor that is mounted. -/
theorem mount (sound : workspace.Sound host attempt) (distinct : workspace.DistinctPaths)
    (id name : String) :
    (workspace.mount id name).workspace.Sound
      (fun other => (hostOfMount? other workspace (.mount id name)).or (host other))
      (fun other => (attempt? other workspace (.mount id name)).or (attempt other)) := by
  unfold Workspace.mount
  cases found : workspace.editors.get? id with
  | none =>
      have unknown (other : String) : ¬(id = other ∧ workspace.editors.contains other = true) := by
        rintro ⟨rfl, known⟩
        simp [Shelf.contains, found] at known
      simp only [hostOfMount?, attempt?, unknown, if_false, Option.none_or]
      exact sound
  | some editor =>
      have known : workspace.editors.contains id = true := by simp [Shelf.contains, found]
      simp only [Workspace.onEditor, found]
      have counted : Sound { workspace with surfaces := workspace.surfaces + 1 } host attempt :=
        ⟨sound.editors, sound.vacant, sound.scopes⟩
      refine counted.afterEditor distinct found .nothing ?_ ?_ ?_
      · simp only [hostOfMount?, attempt?, known, and_self, if_true, Option.some_or]
        exact (sound.editors id editor found).mount _ name
      · intro other differs
        have apart : ¬(id = other ∧ workspace.editors.contains other = true) :=
          fun both => differs both.1.symm
        simp only [hostOfMount?, attempt?, apart, if_false, Option.none_or, and_self]
      · rw [Editor.props_mount]
        exact .inr ⟨id, editor, found, rfl⟩

/-- An update may be an attempt to install. -/
theorem update (sound : workspace.Sound host attempt) (distinct : workspace.DistinctPaths)
    (id : String) (request : PropsRequest) :
    (workspace.update id request).workspace.Sound host
      (fun other => (attempt? other workspace (.update id request)).or (attempt other)) := by
  have unobserved (refused : attempt? id workspace (.update id request) = none) (other : String) :
      attempt? other workspace (.update id request) = none := by
    by_cases same : id = other
    · exact same ▸ refused
    · simp only [attempt?, same, if_false]
  unfold Workspace.update
  split
  · next absent =>
      have refused : attempt? id workspace (.update id request) = none := by
        simp only [attempt?, absent, if_true]
      simp only [unobserved refused, Option.none_or]
      exact sound
  · next editor found unknown =>
      have refused : attempt? id workspace (.update id request) = none := by
        simp only [attempt?, found, unknown, if_true]
      simp only [unobserved refused, Option.none_or]
      exact sound
  · next editor props found known =>
      simp only [Workspace.onEditor, found]
      have known' := known
      simp only [findProps, Option.map_eq_some_iff] at known
      obtain ⟨shared, bound, same⟩ := known
      have sharedIs : props.scope = shared := by rw [← same]
      refine sound.afterEditor distinct found .nothing ?_ ?_ ?_
      · simp only [attempt?, found, known', if_true]
        refine (sound.editors id editor found).update props fun sameIdentity => ?_
        obtain ⟨meaning, identifies⟩ := sound.scopes
        rw [(identifies props.scope (.inl ⟨request.scope, sharedIs ▸ bound⟩)).2, sameIdentity,
          (identifies editor.props.scope (.inr ⟨id, editor, found, rfl⟩)).2]
      · intro other differs
        simp only [attempt?, Ne.symm differs, if_false, Option.none_or, and_self]
      · rw [Editor.props_update, sharedIs]
        exact .inl ⟨request.scope, bound⟩

/-- One operation keeps what is known of every editor and adds what it observes. -/
theorem perform (sound : workspace.Sound host attempt) (distinct : workspace.DistinctPaths)
    (operation : Operation) (forEditors : operation.isForEditors = true)
    (after : (workspace.perform operation).workspace.DistinctPaths) :
    (workspace.perform operation).workspace.Sound
      (fun id => (hostOfMount? id workspace operation).or (host id))
      (fun id => (attempt? id workspace operation).or (attempt id)) := by
  cases operation with
  | bindScope name scope => exact sound.bindScope name scope
  | rejectAt name rejecting => exact sound.rejectAt name rejecting
  | readAt name path => exact sound.touch name
  | settingsOf name => exact sound.touch name
  | allocatePath => exact ⟨sound.editors, sound.vacant, sound.scopes⟩
  | makeEditor id request config onCommit =>
      exact sound.makeEditor distinct id request config onCommit after
  | mount id name => exact sound.mount distinct id name
  | update id request => exact sound.update distinct id request
  | edit id text =>
      exact sound.onEditor distinct id (fun _ current => current.handleEdit text) fun _ => rfl
  | command id chord =>
      simp only [Workspace.perform, Workspace.command]
      split
      · exact sound
      · next editor found =>
          have kept := (sound.editors id editor found).keeps_of_same editor
            (editor.handleCommand chord workspace.hosts).effects rfl rfl rfl rfl rfl
          exact sound.afterEditor distinct found _ kept (fun _ _ => ⟨rfl, rfl⟩)
            (.inr ⟨id, editor, found, rfl⟩)
  | setOnCommit id label =>
      exact sound.onEditor distinct id
        (fun _ current => current.keeps_of_same _ _ rfl rfl rfl rfl rfl) fun _ => rfl
  | unmount id =>
      exact sound.onEditor distinct id (fun _ current => current.unmount _ _)
        fun editor => editor.props_unmount _
  | dropEditor id => exact sound.dropEditor distinct id
  | readDocument id =>
      simp only [Workspace.perform]
      split <;> exact sound
  | addAt host path content keepAs => cases forEditors
  | disposeAt host handle => cases forEditors
  | makeRegistry id path => cases forEditors
  | attach id host => cases forEditors
  | detach id => cases forEditors
  | install id content => cases forEditors
  | disposeRegistry id => cases forEditors
  | dropRegistry id => cases forEditors
  | describeRegistry id => cases forEditors

end Sound

namespace Sound

variable {workspace : Workspace} {host : String → Option String} {attempt : String → Option Bool}

/-- What lies under a path on a host is what an editor keeps there. -/
theorem lib?_eq_some_iff (sound : workspace.Sound host attempt) {name path : String} {lib : Lib} :
    workspace.hosts.lib? name path = some lib ↔
      ∃ editor ∈ workspace.editors.values, editor.kept? name = some (path, lib) := by
  simp only [Editor.kept?, Option.map_eq_some_iff, Prod.mk.injEq]
  constructor
  · intro lies
    by_cases used : ∃ id editor, workspace.editors.get? id = some editor ∧
        editor.registry.path = path
    · obtain ⟨id, editor, found, rfl⟩ := used
      rw [(sound.editors id editor found).owns.libs name] at lies
      exact ⟨editor, List.mem_map_of_mem (Shelf.get?_eq_some_iff.1 found), lib, lies, rfl, rfl⟩
    · have vacant := sound.vacant path
        (fun id editor found samePath => used ⟨id, editor, found, samePath⟩) name
      rw [vacant] at lies
      cases lies
  · rintro ⟨editor, member, _, keeps, rfl, rfl⟩
    obtain ⟨⟨id, _⟩, entry, rfl⟩ := List.mem_map.1 member
    rw [(sound.editors id _ (Shelf.get?_eq_some_iff.2 entry)).owns.libs name]
    exact keeps

/-- A host keeps one document for each editor that installed one there. -/
theorem libs_perm (sound : workspace.Sound host attempt) (distinct : workspace.DistinctPaths)
    (name : String) :
    (workspace.hosts.host name).libs.entries.Perm
      (workspace.editors.values.filterMap (·.kept? name)) := by
  have nodupEntries : (workspace.hosts.host name).libs.entries.Nodup :=
    (Shelf.nodup_names _).of_map _
  have nodupKept : (workspace.editors.values.filterMap (·.kept? name)).Nodup := by
    refine List.pairwise_filterMap.2 ((List.pairwise_map.1 distinct).imp ?_)
    rintro editor rival apart entry keeps _ rivalKeeps rfl
    simp only [Editor.kept?, Option.map_eq_some_iff] at keeps rivalKeeps
    obtain ⟨_, _, rfl⟩ := keeps
    obtain ⟨_, _, same⟩ := rivalKeeps
    exact apart (congrArg Prod.fst same).symm
  refine (List.perm_ext_iff_of_nodup nodupEntries nodupKept).2 ?_
  rintro ⟨path, lib⟩
  rw [← Shelf.get?_eq_some_iff, List.mem_filterMap]
  exact sound.lib?_eq_some_iff

end Sound

/-! ### Runs -/

/-- A run keeps every editor current by what was observed of it last. -/
theorem sound_run (firstPath : Nat) (operations : List Operation)
    (forEditors : ∀ operation ∈ operations, operation.isForEditors = true)
    (distinct : ∀ done, done <+: operations → ((start firstPath).run done).DistinctPaths) :
    ((start firstPath).run operations).Sound
      (fun id => latest (hostOfMount? id) (start firstPath) operations)
      (fun id => latest (attempt? id) (start firstPath) operations) := by
  -- from the end: what the last operation observes comes before what was observed
  induction operations using List.reverseRecOn with
  | nil => exact sound_start firstPath _ _
  | append_singleton operations operation ih =>
      have sound := ih (fun other member => forEditors other (List.mem_append_left _ member))
        fun done before => distinct done (before.trans (List.prefix_append _ _))
      have after := distinct _ (List.prefix_refl _)
      rw [run_concat] at after
      simp only [run_concat, latest_concat]
      exact sound.perform (distinct operations (List.prefix_append _ _)) operation
        (forEditors operation (List.mem_append_right _ List.mem_cons_self)) after

/-- **Hosts keep what editors declare.** After any run of editors with paths of
their own, in which hosts may begin or cease to accept at any time, every editor
has the document of its scope; it has a host, that of its last mount, exactly while
it is mounted, and its document is installed exactly if it is mounted and the host
accepted at the last attempt. Each host keeps one document for each editor
installed there and no other. -/
theorem declarations_run (firstPath : Nat) (operations : List Operation)
    (forEditors : ∀ operation ∈ operations, operation.isForEditors = true)
    (distinct : ∀ done, done <+: operations → ((start firstPath).run done).DistinctPaths) :
    let workspace := (start firstPath).run operations
    (∀ id editor, workspace.editors.get? id = some editor →
      editor.document = Document.ofScope editor.options editor.props.scope.scope ∧
      editor.registry.hasHost = editor.isMounted ∧
      (editor.isMounted = true →
        editor.registry.host = latest (hostOfMount? id) (start firstPath) operations) ∧
      (editor.registry.installed.isSome = true ↔ editor.isMounted = true ∧
        latest (attempt? id) (start firstPath) operations = some true)) ∧
    ∀ name, (workspace.hosts.host name).libs.entries.Perm
      (workspace.editors.values.filterMap (·.kept? name)) := by
  have sound := sound_run firstPath operations forEditors distinct
  refine ⟨?_, sound.libs_perm (distinct operations (List.prefix_refl _))⟩
  intro id editor found
  have current := sound.editors id editor found
  exact ⟨current.document, current.hasHost, current.host, current.installed⟩

/-- Two editors on one host, which accepts both mounts and then rejects what an
update of the first editor redeclares. -/
def twoEditors : List Operation :=
  [.bindScope "first" ⟨[("a", .boolean true)]⟩, .bindScope "second" ⟨[("b", .null)]⟩,
    .makeEditor "left" ⟨"a", "first", false, false⟩ {} none,
    .makeEditor "right" ⟨"b", "second", false, false⟩ {} none,
    .mount "left" "host", .mount "right" "host", .rejectAt "host" true,
    .update "left" ⟨"a", "second", false, false⟩]

theorem declarations_twoEditors :
    (∀ operation ∈ twoEditors, operation.isForEditors = true) ∧
    (∀ done, done <+: twoEditors → ((start 0).run done).DistinctPaths) ∧
    (∃ left, ((start 0).run twoEditors).editors.get? "left" = some left ∧
      left.isMounted = true ∧ left.registry.installed.isSome = false) ∧
    ∃ right, ((start 0).run twoEditors).editors.get? "right" = some right ∧
      right.isMounted = true ∧ right.registry.installed.isSome = true := by
  have forEditors : ∀ operation ∈ twoEditors, operation.isForEditors = true := by decide
  have distinct : ∀ done, done <+: twoEditors → ((start 0).run done).DistinctPaths := by
    have inits : ∀ done ∈ twoEditors.inits, ((start 0).run done).DistinctPaths := by decide
    exact fun done before => inits done ((List.mem_inits done twoEditors).2 before)
  have editors := (declarations_run 0 twoEditors forEditors distinct).1
  have mounted : ∀ id ∈ ["left", "right"], ∃ editor,
      ((start 0).run twoEditors).editors.get? id = some editor ∧ editor.isMounted = true := by
    simp only [← Option.any_eq_true]
    decide
  obtain ⟨left, found, leftMounted⟩ := mounted "left" (by decide)
  obtain ⟨right, rightFound, rightMounted⟩ := mounted "right" (by decide)
  have rejected : latest (attempt? "left") (start 0) twoEditors = some false := by decide
  have accepted : latest (attempt? "right") (start 0) twoEditors = some true := by decide
  refine ⟨forEditors, distinct, ⟨left, found, leftMounted, ?_⟩, right, rightFound, rightMounted, ?_⟩
  · simpa [rejected] using (editors "left" left found).2.2.2
  · exact (editors "right" right rightFound).2.2.2.2 ⟨rightMounted, accepted⟩

end Workspace

end LiveScope
