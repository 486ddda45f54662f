/- # LiveScope.Proofs.Installation.Counting — what an editor costs its host

What a host counts between two states is `Counted`: so many documents added, so many
disposed, none replaced; counts add up (`Counted.trans`). A registry that owns what it
installed disposes one document where it has a handle, and adds one when it installs. So
an editor that is current on a host that accepts adds one document when it mounts or
redeclares, and disposes the one it had if it was mounted. An update that does not
redeclare and a drop without a mount ask no host for anything.
-/
import LiveScope.Proofs.Installation.Run
import LiveScope.Proofs.Registration.Holding

namespace LiveScope

set_option autoImplicit false

/-! ### Counting on a host -/

namespace Host

/-- A host after it added and disposed so many documents, and replaced none. -/
structure Counted (before after : Host) (adds disposals : Nat) : Prop where
  added : after.added = before.added + adds
  disposed : after.disposed = before.disposed + disposals
  replaced : after.replaced = before.replaced
  rejecting : after.rejecting = before.rejecting

theorem Counted.refl (host : Host) : Counted host host 0 0 := ⟨rfl, rfl, rfl, rfl⟩

theorem Counted.trans {first second third : Host} {adds disposals more moreDisposals : Nat}
    (here : Counted first second adds disposals)
    (there : Counted second third more moreDisposals) :
    Counted first third (adds + more) (disposals + moreDisposals) where
  added := by rw [there.added, here.added, Nat.add_assoc]
  disposed := by rw [there.disposed, here.disposed, Nat.add_assoc]
  replaced := there.replaced.trans here.replaced
  rejecting := there.rejecting.trans here.rejecting

variable {host : Host}

theorem counted_dispose {handle : Handle} (live : host.isLive handle = true) :
    Counted host (host.dispose handle) 0 1 := by
  rw [dispose_of_live live]
  exact ⟨rfl, rfl, rfl, rfl⟩

theorem counted_stored {path : String} (vacant : host.libs.get? path = none)
    (document : Document) : Counted host (host.stored document path) 1 0 where
  added := rfl
  disposed := rfl
  replaced := by
    rw [replaced_stored, Shelf.contains, vacant]
    rfl
  rejecting := rfl

end Host

/-! ### What the log tells of hosts -/

/-- Does the log tell that a host was asked to add or to dispose a document? -/
def Effect.isHostRequest : Effect → Bool
  | .logged (.installed _ _ _) | .logged (.rejected _ _) | .logged (.disposed _ _) => true
  | _ => false

def hostRequests (effects : List Effect) : List Effect := effects.filter Effect.isHostRequest

@[simp] theorem hostRequests_append (first second : List Effect) :
    hostRequests (first ++ second) = hostRequests first ++ hostRequests second :=
  List.filter_append _ _

/-- Writing a document is no matter of hosts. -/
@[simp] theorem hostRequests_scopeLog (options : Options) (scope : Scope) :
    hostRequests ((Document.scopeLog options scope).map .logged) = [] := by
  rw [hostRequests, List.filter_eq_nil_iff]
  intro effect member
  obtain ⟨event, told, rfl⟩ := List.mem_map.1 member
  simp only [Document.scopeLog, Catalog.scopeLog, Document.catalogLog, Document.keyLog,
    List.mem_append, List.mem_singleton, List.mem_flatMap] at told
  rcases told with rfl | ⟨key, -, misnamed | unknown⟩ | rfl
  · exact Bool.false_ne_true
  · split at misnamed
    · split at misnamed
      · rw [List.mem_singleton.1 misnamed]
        exact Bool.false_ne_true
      · cases misnamed
    · rw [List.mem_singleton.1 misnamed]
      exact Bool.false_ne_true
  · split at unknown
    · rw [List.mem_singleton.1 unknown]
      exact Bool.false_ne_true
    · cases unknown
  · exact Bool.false_ne_true

/-! ### Registries -/

namespace Registry

variable {registry : Registry} {document : Document} {hosts : Hosts} {name : String}

/-- Without a handle there is nothing to give up. -/
theorem dispose_of_uninstalled (uninstalled : registry.installed = none) (hosts : Hosts) :
    registry.dispose hosts = ⟨registry, hosts, []⟩ := by
  obtain ⟨path, host, installed⟩ := registry
  cases uninstalled
  rfl

/-- An owner that gives up disposes one document where it has a handle. -/
theorem Owns.counted_dispose (owns : registry.Owns document hosts) (name : String) :
    Host.Counted (hosts.host name) ((registry.dispose hosts).hosts.host name) 0
      (registry.handleOn? name).isSome.toNat := by
  rw [host_dispose]
  cases holds : registry.handleOn? name with
  | none => exact .refl _
  | some handle =>
      obtain ⟨attached, installed⟩ := handleOn?_eq_some_iff.1 holds
      exact Host.counted_dispose (owns.isLive installed attached)

/-- An owner that installs adds one document, and disposes the one it has a handle of. -/
theorem Owns.counted_install (owns : registry.Owns document hosts)
    (attached : registry.host = some name) (accepts : hosts.accepts name = true)
    (next : Document) :
    Host.Counted (hosts.host name) ((registry.install next hosts).hosts.host name) 1
      (registry.handleOn? name).isSome.toNat := by
  obtain ⟨-, stored⟩ := install_of_accepted attached accepts next
  have left := owns.counted_dispose name
  have added := left.trans (Host.counted_stored (owns.vacant_dispose name) next)
  rw [stored, Hosts.host_set, if_pos rfl]
  simpa only [Nat.zero_add, Nat.add_zero] using added

end Registry

/-! ### Editors -/

namespace Editor

variable {editor : Editor} {host : String} {hosts : Hosts}

theorem isMounted_unmount (editor : Editor) (hosts : Hosts) :
    (editor.unmount hosts).editor.isMounted = false := by
  unfold unmount
  split
  · next absent => simp [isMounted, absent]
  · rfl

theorem isMounted_update (props : Props) (editor : Editor) (hosts : Hosts) :
    (editor.update props hosts).editor.isMounted = editor.isMounted := by
  obtain ⟨document, registry, after⟩ := editor_declareScope props.scope editor hosts
  simp only [isMounted, update, Outcome.andThen, editor_adopt, after, Option.isSome_map]

/-- The surface and the props are brought in line without a host. -/
theorem hostRequests_adopt (props : Props) (editor : Editor) (hosts : Hosts) :
    hostRequests (adopt props editor hosts).effects = [] := by
  unfold adopt
  split
  · rfl
  · rw [hostRequests_append]
    refine List.append_eq_nil_iff.2 ⟨?_, ?_⟩ <;> split <;> rfl

namespace Current

/-- An editor that is not mounted has nothing installed. -/
theorem uninstalled (current : editor.Current (some host) (some true) hosts)
    (unmounted : editor.isMounted = false) : editor.registry.installed = none := by
  rw [← Option.not_isSome_iff_eq_none, current.installed, unmounted]
  exact fun both => Bool.false_ne_true both.1

/-- An editor has a handle from its host exactly while it is mounted. -/
theorem isSome_handleOn? (current : editor.Current (some host) (some true) hosts) :
    (editor.registry.handleOn? host).isSome = editor.isMounted := by
  cases mounted : editor.isMounted with
  | false =>
      rw [Registry.handleOn?_of_uninstalled (current.uninstalled mounted), Option.isSome_none]
  | true =>
      rw [Registry.handleOn?, if_pos (current.host mounted)]
      exact current.installed.2 ⟨mounted, rfl⟩

theorem counted_dispose (current : editor.Current (some host) (some true) hosts) :
    Host.Counted (hosts.host host) ((editor.registry.dispose hosts).hosts.host host) 0
      editor.isMounted.toNat :=
  current.isSome_handleOn? ▸ current.owns.counted_dispose host

/-- A mounted editor that unmounts gives up its document. -/
theorem counted_unmount (current : editor.Current (some host) (some true) hosts) :
    Host.Counted (hosts.host host) ((editor.unmount hosts).hosts.host host) 0
      editor.isMounted.toNat := by
  unfold Editor.unmount
  split
  · next absent =>
      rw [isMounted, absent]
      exact .refl _
  · exact current.counted_dispose

/-- A mount of an editor that is not mounted adds its document. -/
theorem counted_mountFresh (current : editor.Current (some host) (some true) hosts)
    (unmounted : editor.isMounted = false) (accepts : hosts.accepts host = true)
    (surface : Nat) :
    Host.Counted (hosts.host host) ((editor.mountFresh surface host hosts).hosts.host host)
      1 0 := by
  let configured := hosts.set host (hosts.host host).configure
  let attached : Registry := { editor.registry with host := some host }
  have uninstalled : attached.installed = none := current.uninstalled unmounted
  have onHost : configured.host host = (hosts.host host).configure := by
    rw [Hosts.host_set, if_pos rfl]
  have vacant (name : String) : configured.lib? name attached.path = none := by
    have nothing : hosts.lib? name attached.path = none := by
      rw [current.owns.libs name, Registry.lib?, current.uninstalled unmounted,
        Option.map_none, ite_self]
    rw [← nothing, Hosts.lib?, Hosts.host_set]
    split
    · next same => rw [← same]; rfl
    · rfl
  have owns : attached.Owns editor.document configured :=
    Registry.owns_of_vacant _ uninstalled vacant
  have configuredAccepts : configured.accepts host = true := by
    rw [Hosts.accepts, onHost]
    exact accepts
  have installed := owns.counted_install rfl configuredAccepts editor.document
  rw [onHost, Registry.handleOn?_of_uninstalled uninstalled] at installed
  have hosts_eq : (editor.mountFresh surface host hosts).hosts =
      (attached.install editor.document configured).hosts := by
    have left := Registry.dispose_of_uninstalled (current.uninstalled unmounted) configured
    show (Registry.install { (editor.registry.dispose configured).registry with host := some host }
      editor.document (editor.registry.dispose configured).hosts).hosts = _
    rw [left]
  rw [hosts_eq]
  exact ⟨installed.added, installed.disposed, installed.replaced, installed.rejecting⟩

/-- A mount adds the document, and disposes it first where the editor was mounted. -/
theorem counted_mount (current : editor.Current (some host) (some true) hosts)
    (accepts : hosts.accepts host = true) (surface : Nat) :
    Host.Counted (hosts.host host) ((editor.mount surface host hosts).hosts.host host) 1
      editor.isMounted.toNat := by
  have left := current.unmount (some host) (some true)
  have fresh := left.current.counted_mountFresh (editor.isMounted_unmount hosts)
    ((left.sameBut.accepts host).trans accepts) surface
  have both := current.counted_unmount.trans fresh
  rwa [Nat.zero_add, Nat.add_zero] at both

/-- An update that redeclares puts one document in the place of another. -/
theorem counted_update (current : editor.Current (some host) (some true) hosts)
    (accepts : hosts.accepts host = true) {props : Props}
    (redeclares : editor.redeclares props = true) :
    Host.Counted (hosts.host host) ((editor.update props hosts).hosts.host host) 1 1 := by
  simp only [Editor.redeclares, Bool.and_eq_true, bne_iff_ne, ne_eq, ← current.document]
    at redeclares
  obtain ⟨⟨mounted, other⟩, differs⟩ := redeclares
  have installed := current.owns.counted_install (current.host mounted) accepts
    (Document.ofScope editor.options props.scope.scope)
  rw [current.isSome_handleOn?, mounted, Bool.toNat_true] at installed
  simpa only [Editor.update, Outcome.andThen, hosts_adopt, declareScope, if_neg other,
    if_neg differs, ofRegistry] using installed

/-- An update that does not redeclare asks no host for anything. -/
theorem quiet_update (current : editor.Current (some host) (some true) hosts) {props : Props}
    (keeps : editor.redeclares props = false) :
    (editor.update props hosts).hosts = hosts ∧
      hostRequests (editor.update props hosts).effects = [] := by
  have declared : (declareScope props.scope editor hosts).hosts = hosts ∧
      hostRequests (declareScope props.scope editor hosts).effects = [] := by
    unfold declareScope
    split
    · exact ⟨rfl, rfl⟩
    · next other =>
        simp only
        split
        · exact ⟨rfl, hostRequests_scopeLog _ _⟩
        · next differs =>
            -- the document is another one, so it is the mount that is missing
            have unmounted : editor.isMounted = false := by
              rw [current.document] at differs
              simpa [Editor.redeclares, other, differs] using keeps
            have detached : editor.registry.host = none := by
              simpa [unmounted, Registry.hasHost] using current.hasHost
            have left := Registry.dispose_of_uninstalled (current.uninstalled unmounted) hosts
            simp only [ofRegistry, Registry.install, left, detached, hostRequests_append,
              hostRequests_scopeLog]
            exact ⟨trivial, rfl⟩
  simp only [Editor.update, Outcome.andThen, hosts_adopt, hostRequests_append,
    hostRequests_adopt, declared, List.append_nil, and_self]

/-- An editor that is not mounted is dropped without a host. -/
theorem quiet_drop (current : editor.Current (some host) (some true) hosts)
    (unmounted : editor.isMounted = false) :
    (editor.drop hosts).hosts = hosts ∧ (editor.drop hosts).effects = [] := by
  simp only [Editor.drop, ofRegistry,
    Registry.dispose_of_uninstalled (current.uninstalled unmounted), List.map_nil, and_self]

end Current

end Editor

end LiveScope
