/- # LiveScope.Proofs.Installation.Editor — what one editor has installed

An editor that is the only one to use its path is `Current` if its document is
that of its scope, its registry has a host exactly while it is mounted, that is
the host of the last mount, and its document is installed exactly while it is
mounted and the last attempt to install one was accepted. An attempt is a mount,
or an update that redeclares (`Editor.redeclares`).

Every operation of an editor leaves it current and nothing changed but what lies
under its path (`Outcome.Keeps`). An update may rely on a scope's identity: props
that share the identity share the scope.
-/
import LiveScope.Editor.Basic
import LiveScope.Proofs.Ownership

namespace LiveScope

set_option autoImplicit false

namespace Editor

/-- Do new props make a mounted editor install another document? -/
def redeclares (editor : Editor) (props : Props) : Bool :=
  editor.isMounted && props.scope.identity != editor.props.scope.identity &&
    Document.ofScope editor.options props.scope.scope !=
      Document.ofScope editor.options editor.props.scope.scope

/-- Does an update with new props attempt to install a document, and does the host
accept it? -/
def attempt? (editor : Editor) (props : Props) (hosts : Hosts) : Option Bool :=
  if editor.redeclares props then editor.registry.host.map hosts.accepts else none

/-- What an editor keeps on a host, with the path it lies under. -/
def kept? (editor : Editor) (name : String) : Option (String × Lib) :=
  (editor.registry.lib? editor.document name).map (editor.registry.path, ·)

/-- An editor after its last mount was on `host`, and the last attempt to install
its document was answered by `attempt`. -/
structure Current (editor : Editor) (host : Option String) (attempt : Option Bool)
    (hosts : Hosts) : Prop where
  document : editor.document = Document.ofScope editor.options editor.props.scope.scope
  hasHost : editor.registry.hasHost = editor.isMounted
  host : editor.isMounted = true → editor.registry.host = host
  installed : editor.registry.installed.isSome = true ↔
    editor.isMounted = true ∧ attempt = some true
  owns : editor.registry.Owns editor.document hosts

/-- An operation leaves the editor current under its path, and nothing changed
under other paths. -/
structure Outcome.Keeps (outcome : Outcome) (before : Editor) (hosts : Hosts)
    (host : Option String) (attempt : Option Bool) : Prop where
  samePath : outcome.editor.registry.path = before.registry.path
  current : outcome.editor.Current host attempt outcome.hosts
  sameBut : hosts.SameBut before.registry.path outcome.hosts

variable {editor : Editor} {host : Option String} {attempt : Option Bool} {hosts : Hosts}

/-- What an editor that is not mounted was mounted on last does not matter. -/
theorem Current.of_unmounted (current : editor.Current host attempt hosts)
    (unmounted : editor.isMounted = false) (host' : Option String) (attempt' : Option Bool) :
    editor.Current host' attempt' hosts where
  document := current.document
  hasHost := current.hasHost
  host := by simp [unmounted]
  installed := by simpa [unmounted] using current.installed
  owns := current.owns

/-- An editor that has just been made under a path where nothing lies is current. -/
theorem make_current {path : String} (options : Options) (props : Props)
    (onCommit : Option String) (vacant : ∀ name, hosts.lib? name path = none) :
    (make options path props onCommit).Current host attempt hosts where
  document := rfl
  hasHost := rfl
  host := by simp [make, isMounted]
  installed := by simp [make, isMounted]
  owns := Registry.owns_of_vacant _ rfl vacant

theorem props_unmount (editor : Editor) (hosts : Hosts) :
    (editor.unmount hosts).editor.props = editor.props := by
  unfold unmount
  split <;> rfl

theorem props_mount (surface : Nat) (name : String) (editor : Editor) (hosts : Hosts) :
    (editor.mount surface name hosts).editor.props = editor.props := by
  simp only [mount, Outcome.andThen, mountFresh, props_unmount]

theorem editor_adopt (props : Props) (editor : Editor) (hosts : Hosts) :
    (adopt props editor hosts).editor =
      { editor with
        props
        mounted := editor.mounted.map fun mounted => { mounted with content := props.value } } := by
  unfold adopt
  split
  · next absent => simp [absent]
  · next mounted present => simp [present]

theorem editor_declareScope (scope : SharedScope) (editor : Editor) (hosts : Hosts) :
    ∃ document registry,
      (declareScope scope editor hosts).editor = { editor with document, registry } := by
  unfold declareScope
  split
  · exact ⟨_, _, rfl⟩
  · simp only
    split
    · exact ⟨_, _, rfl⟩
    · exact ⟨_, _, rfl⟩

theorem props_update (props : Props) (editor : Editor) (hosts : Hosts) :
    (editor.update props hosts).editor.props = props := by
  simp only [update, Outcome.andThen, editor_adopt]

theorem hosts_adopt (props : Props) (editor : Editor) (hosts : Hosts) :
    (adopt props editor hosts).hosts = hosts := by
  unfold adopt
  split <;> rfl

namespace Current

/-- An operation that leaves the registry, the document and the scope alone. -/
theorem keeps_of_same (current : editor.Current host attempt hosts) (after : Editor)
    (effects : List Effect) (registry : after.registry = editor.registry)
    (document : after.document = editor.document) (options : after.options = editor.options)
    (props : after.props = editor.props) (mounted : after.isMounted = editor.isMounted) :
    Outcome.Keeps ⟨after, hosts, effects⟩ editor hosts host attempt where
  samePath := congrArg Registry.path registry
  current :=
    { document := by rw [document, options, props, current.document]
      hasHost := by rw [registry, mounted, current.hasHost]
      host := by rw [registry, mounted]; exact current.host
      installed := by rw [registry, mounted]; exact current.installed
      owns := by rw [registry, document]; exact current.owns }
  sameBut := .refl _ _

/-- An edit is kept in the surface's text alone. -/
theorem handleEdit (current : editor.Current host attempt hosts) (text : Option String) :
    (editor.handleEdit text hosts).Keeps editor hosts host attempt :=
  current.keeps_of_same _ _ rfl rfl rfl rfl (by simp [isMounted])

theorem unmount (current : editor.Current host attempt hosts) (host' : Option String)
    (attempt' : Option Bool) : (editor.unmount hosts).Keeps editor hosts host' attempt' := by
  unfold Editor.unmount
  split
  · next absent =>
      have unmounted : editor.isMounted = false := by simp [isMounted, absent]
      exact ⟨rfl, current.of_unmounted unmounted host' attempt', .refl _ _⟩
  · have left := current.owns.detach editor.document
    refine ⟨left.samePath, ⟨current.document, ?_, ?_, ?_, left.owns⟩, left.sameBut⟩
    · simp [ofRegistry, Registry.registry_detach, Registry.hasHost, isMounted]
    · simp [ofRegistry, isMounted]
    · simp [ofRegistry, Registry.registry_detach, isMounted]

/-- A mount is an attempt to install on the host that is given. -/
theorem mountFresh (current : editor.Current host attempt hosts) (surface : Nat) (name : String) :
    (editor.mountFresh surface name hosts).Keeps editor hosts (some name)
      (some (hosts.accepts name)) := by
  let configured := hosts.set name (hosts.host name).configure
  have sameConfigured : hosts.SameBut editor.registry.path configured :=
    .set (fun _ _ => rfl) rfl
  have configuredOwns : editor.registry.Owns editor.document configured := by
    refine ⟨current.owns.handle, fun here => ?_⟩
    rw [← current.owns.libs here]
    simp only [configured, Hosts.lib?, Hosts.host_set]
    split
    · next same => rw [← same]; rfl
    · rfl
  have attached := configuredOwns.attach name editor.document
  obtain ⟨installed, isSome⟩ := attached.owns.install editor.document
  have same : hosts.SameBut editor.registry.path (editor.mountFresh surface name hosts).hosts :=
    sameConfigured.trans (attached.sameBut.trans (attached.samePath ▸ installed.sameBut))
  have onHost : (editor.mountFresh surface name hosts).editor.registry.host = some name := by
    simp only [Editor.mountFresh, Registry.host_install, Registry.registry_attach]
  refine ⟨installed.samePath.trans attached.samePath,
    ⟨current.document, ?_, fun _ => onHost, ?_, installed.owns⟩, same⟩
  · rw [Registry.hasHost, onHost]
    rfl
  · have accepts : (Registry.attach editor.registry name configured).hosts.accepts name =
        hosts.accepts name :=
      (attached.sameBut.accepts name).trans (sameConfigured.accepts name)
    have onAttached : (Registry.attach editor.registry name configured).registry.host =
        some name := by rw [Registry.registry_attach]
    rw [onAttached, Option.any_some, accepts] at isSome
    simp only [Editor.mountFresh, isMounted, Option.isSome_some, true_and, Option.some.injEq]
    exact iff_of_eq (congrArg (· = true) isSome)

theorem mount (current : editor.Current host attempt hosts) (surface : Nat) (name : String) :
    (editor.mount surface name hosts).Keeps editor hosts (some name)
      (some (hosts.accepts name)) := by
  have left := current.unmount host attempt
  have fresh := left.current.mountFresh surface name
  rw [left.sameBut.accepts name] at fresh
  exact ⟨fresh.samePath.trans left.samePath, fresh.current,
    left.sameBut.trans (left.samePath ▸ fresh.sameBut)⟩

/-- The surface and the props follow what was declared. -/
theorem adopt {first : Outcome} (props : Props)
    (current : Current { first.editor with props } host attempt first.hosts)
    (samePath : first.editor.registry.path = editor.registry.path)
    (sameBut : hosts.SameBut editor.registry.path first.hosts) :
    (first.andThen (Editor.adopt props)).Keeps editor hosts host attempt := by
  let after : Editor :=
    { first.editor with
      props
      mounted := first.editor.mounted.map fun mounted => { mounted with content := props.value } }
  have kept := current.keeps_of_same after [] rfl rfl rfl rfl (by simp [after, isMounted])
  constructor
  · simpa only [Outcome.andThen, editor_adopt] using samePath
  · simpa only [Outcome.andThen, editor_adopt, hosts_adopt] using kept.current
  · simpa only [Outcome.andThen, hosts_adopt] using sameBut

/-- An update declares the scope of the new props. It is an attempt to install
their document if the editor is mounted and the document another one. -/
theorem update (current : editor.Current host attempt hosts) (props : Props)
    (sameScope : props.scope.identity = editor.props.scope.identity →
      props.scope.scope = editor.props.scope.scope) :
    (editor.update props hosts).Keeps editor hosts host
      ((editor.attempt? props hosts).or attempt) := by
  -- what holds as long as the document stays
  have unchanged (document : editor.document = Document.ofScope editor.options props.scope.scope) :
      Current { editor with props } host attempt hosts :=
    ⟨document, current.hasHost, current.host, current.installed, current.owns⟩
  unfold Editor.update declareScope
  split
  · next same =>
      have noAttempt : editor.attempt? props hosts = none := by simp [attempt?, redeclares, same]
      rw [noAttempt, Option.none_or]
      have document : editor.document = Document.ofScope editor.options props.scope.scope := by
        rw [sameScope same, current.document]
      exact adopt props (unchanged document) rfl (.refl _ _)
  · next other =>
      simp only
      split
      · next equal =>
          have noAttempt : editor.attempt? props hosts = none := by
            simp [attempt?, redeclares, ← current.document, equal]
          rw [noAttempt, Option.none_or]
          exact adopt props (unchanged equal.symm) rfl (.refl _ _)
      · next differs =>
          obtain ⟨kept, isSome⟩ :=
            current.owns.install (Document.ofScope editor.options props.scope.scope)
          refine adopt props ⟨rfl, ?_, ?_, ?_, kept.owns⟩ kept.samePath kept.sameBut
          · simp only [ofRegistry, Registry.hasHost, Registry.host_install]
            exact current.hasHost
          · simp only [ofRegistry, Registry.host_install]
            exact current.host
          · change (Registry.install editor.registry _ hosts).registry.installed.isSome = true ↔
              editor.isMounted = true ∧ _
            rw [isSome]
            cases mounted : editor.isMounted with
            | false =>
                have absent : editor.registry.host = none := by
                  simpa [mounted, Registry.hasHost] using current.hasHost
                simp [absent]
            | true =>
                obtain ⟨name, attached⟩ : ∃ name, editor.registry.host = some name :=
                  Option.isSome_iff_exists.1 (current.hasHost.trans mounted)
                have redeclared : editor.redeclares props = true := by
                  rw [current.document] at differs
                  simp [redeclares, mounted, other, differs]
                simp [attached, attempt?, redeclared]

end Current

/-- A dropped editor leaves nothing under its path. -/
theorem vacant_drop (current : editor.Current host attempt hosts) (name : String) :
    (editor.drop hosts).hosts.lib? name editor.registry.path = none :=
  current.owns.vacant_dispose name

theorem sameBut_drop (current : editor.Current host attempt hosts) :
    hosts.SameBut editor.registry.path (editor.drop hosts).hosts :=
  current.owns.sameBut_dispose

end Editor

end LiveScope
