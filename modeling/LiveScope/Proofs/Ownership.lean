/- # LiveScope.Proofs.Ownership — a registry and its path

A registry whose path nobody else uses owns that path: what the hosts keep there
is exactly what the registry has installed (`Registry.Owns`). Attaching, detaching
and installing keep this so and change nothing under other paths
(`Outcome.Keeps`); what is installed afterwards is said for each of them by itself
(`registry_attach` to `install_of_accepted`).
-/
import LiveScope.Proofs.Host.Balance
import LiveScope.Registry

namespace LiveScope

set_option autoImplicit false

/-! ### Hosts -/

namespace Hosts

@[simp] theorem host_set (hosts : Hosts) (name other : String) (host : Host) :
    (hosts.set name host).host other = if name = other then host else hosts.host other := by
  simp only [Hosts.host, Hosts.set, Shelf.get?_insert]
  split <;> rfl

@[simp] theorem host_touch (hosts : Hosts) (name other : String) :
    (hosts.touch name).host other = hosts.host other := by
  by_cases known : hosts.contains name = true
  · rw [touch, if_pos known]
  · have missing : hosts.get? name = none := by simpa [Shelf.contains] using known
    rw [touch, if_neg known, host, host, Shelf.get?_insert]
    split
    · next same => rw [← same, missing, Option.getD_none, Option.getD_some]
    · rfl

/-- What a host keeps under a path. -/
def lib? (hosts : Hosts) (name path : String) : Option Lib := (hosts.host name).libs.get? path

def accepts (hosts : Hosts) (name : String) : Bool := !(hosts.host name).rejecting

/-- Nothing differs but what lies under one path. -/
structure SameBut (path : String) (before after : Hosts) : Prop where
  lib? : ∀ name other, other ≠ path → after.lib? name other = before.lib? name other
  accepts : ∀ name, after.accepts name = before.accepts name

namespace SameBut

variable {path : String} {first second third : Hosts}

theorem refl (path : String) (hosts : Hosts) : SameBut path hosts hosts :=
  ⟨fun _ _ _ => rfl, fun _ => rfl⟩

theorem trans (here : SameBut path first second) (there : SameBut path second third) :
    SameBut path first third :=
  ⟨fun name other differs =>
      (there.lib? name other differs).trans (here.lib? name other differs),
    fun name => (there.accepts name).trans (here.accepts name)⟩

/-- A host may be replaced by one that differs under the path alone. -/
theorem set {hosts : Hosts} {name : String} {host : Host}
    (libs : ∀ other, other ≠ path → host.libs.get? other = hosts.lib? name other)
    (rejecting : host.rejecting = (hosts.host name).rejecting) :
    SameBut path hosts (hosts.set name host) := by
  constructor
  · intro here other differs
    rw [Hosts.lib?, host_set]
    split
    · next same => rw [libs other differs, same]
    · rfl
  · intro here
    rw [Hosts.accepts, host_set]
    split
    · next same => rw [rejecting, same, Hosts.accepts]
    · rfl

end SameBut

end Hosts

/-! ### Registries -/

namespace Registry

/-- What a registry has put on a host, if `document` is what it installed. -/
def lib? (registry : Registry) (document : Document) (name : String) : Option Lib :=
  if registry.host = some name then registry.installed.map fun handle => ⟨handle.id, document⟩
  else none

/-- What the hosts keep under the registry's path is what the registry installed. -/
structure Owns (registry : Registry) (document : Document) (hosts : Hosts) : Prop where
  handle : ∀ handle, registry.installed = some handle →
    handle.path = registry.path ∧ registry.hasHost = true
  libs : ∀ name, hosts.lib? name registry.path = registry.lib? document name

/-- After an operation the registry owns its path, and what lies under other
paths is as before. -/
structure Outcome.Keeps (outcome : Outcome) (path : String) (document : Document)
    (before : Hosts) : Prop where
  samePath : outcome.registry.path = path
  owns : outcome.registry.Owns document outcome.hosts
  sameBut : before.SameBut path outcome.hosts

/-! ### What an operation leaves installed -/

theorem registry_dispose (registry : Registry) (hosts : Hosts) :
    (registry.dispose hosts).registry = { registry with installed := none } := by
  unfold dispose
  split <;> rfl

theorem registry_attach (registry : Registry) (name : String) (hosts : Hosts) :
    (registry.attach name hosts).registry =
      { registry with host := some name, installed := none } := by
  simp only [attach, registry_dispose]

theorem registry_detach (registry : Registry) (hosts : Hosts) :
    (registry.detach hosts).registry = { registry with host := none, installed := none } := by
  simp only [detach, registry_dispose]

theorem accepts_dispose (registry : Registry) (hosts : Hosts) (name : String) :
    (registry.dispose hosts).hosts.accepts name = hosts.accepts name := by
  unfold dispose
  split
  · simp only [Hosts.accepts, Hosts.host_set]
    split
    · next same => rw [Host.rejecting_dispose, same]
    · rfl
  · rfl

/-- Where no host accepts, an install only gives up. -/
theorem install_of_refused {registry : Registry} {hosts : Hosts}
    (refused : registry.host.any hosts.accepts = false) (document : Document) :
    (registry.install document hosts).registry = { registry with installed := none } ∧
      (registry.install document hosts).hosts = (registry.dispose hosts).hosts := by
  simp only [install, registry_dispose]
  cases attached : registry.host with
  | none => exact ⟨rfl, rfl⟩
  | some name =>
      have rejecting : ((registry.dispose hosts).hosts.host name).rejecting = true := by
        rw [attached, Option.any_some, ← accepts_dispose registry] at refused
        simpa [Hosts.accepts] using refused
      simp only [Host.add_of_rejecting rejecting, and_self]

/-- Where the host accepts, an install gives up and then puts the document there. -/
theorem install_of_accepted {registry : Registry} {name : String} {hosts : Hosts}
    (attached : registry.host = some name) (accepts : hosts.accepts name = true)
    (document : Document) :
    let left := (registry.dispose hosts).hosts
    (registry.install document hosts).registry =
        { registry with installed := some ⟨(left.host name).lastId + 1, registry.path⟩ } ∧
      (registry.install document hosts).hosts =
        left.set name ((left.host name).stored document registry.path) := by
  have accepting : ((registry.dispose hosts).hosts.host name).rejecting = false := by
    rw [← accepts_dispose registry] at accepts
    simpa [Hosts.accepts] using accepts
  simp only [install, registry_dispose, attached, Host.add_of_accepting accepting, and_self]

theorem host_install (registry : Registry) (document : Document) (hosts : Hosts) :
    (registry.install document hosts).registry.host = registry.host := by
  simp only [install]
  split
  · simp only [registry_dispose]
  · split <;> simp only [registry_dispose]

/-! ### Ownership is kept -/

/-- A registry that has nothing installed owns a path under which nothing lies. -/
theorem owns_of_vacant {registry : Registry} {hosts : Hosts} (document : Document)
    (uninstalled : registry.installed = none)
    (vacant : ∀ name, hosts.lib? name registry.path = none) : registry.Owns document hosts := by
  constructor
  · intro handle installed
    rw [uninstalled] at installed
    cases installed
  · intro name
    rw [vacant, lib?, uninstalled]
    split <;> rfl

namespace Owns

variable {registry : Registry} {document : Document} {hosts : Hosts}

/-- The handle of an owner is live on its host. -/
theorem isLive (owns : registry.Owns document hosts) {handle : Handle} {name : String}
    (installed : registry.installed = some handle) (attached : registry.host = some name) :
    (hosts.host name).isLive handle = true := by
  have kept := owns.libs name
  simp only [lib?, attached, installed, if_true, Option.map_some, Hosts.lib?] at kept
  simp only [Host.isLive, (owns.handle handle installed).1, kept, beq_self_eq_true]

/-- After disposal nothing lies under the path any more. -/
theorem vacant_dispose (owns : registry.Owns document hosts) (name : String) :
    (registry.dispose hosts).hosts.lib? name registry.path = none := by
  have kept := owns.libs name
  unfold dispose
  split
  · next handle here installed attached =>
      simp only [Hosts.lib?, Hosts.host_set]
      split
      · next same =>
          subst same
          rw [Host.get?_dispose, if_pos ⟨owns.isLive installed attached,
            (owns.handle handle installed).1⟩]
      · next other =>
          simp only [lib?, attached, Option.some.injEq, other, if_false] at kept
          exact kept
  · next absent =>
      simp only
      rw [kept, lib?]
      split
      · next attached =>
          cases installed : registry.installed with
          | none => rfl
          | some handle => exact absurd attached (absent handle name installed)
      · rfl

theorem sameBut_dispose (owns : registry.Owns document hosts) :
    hosts.SameBut registry.path (registry.dispose hosts).hosts := by
  unfold dispose
  split
  · next handle name installed attached =>
      refine .set ?_ (Host.rejecting_dispose _ _)
      intro other differs
      have elsewhere : handle.path ≠ other :=
        fun same => differs (same.symm.trans (owns.handle handle installed).1)
      rw [Host.get?_dispose, if_neg fun both => elsewhere both.2, Hosts.lib?]
  · exact .refl _ _

/-- An operation that disposes, and changes nothing else of the hosts. -/
theorem keeps_of_disposed (owns : registry.Owns document hosts) (next : Document)
    {outcome : Outcome} (hosts_eq : outcome.hosts = (registry.dispose hosts).hosts)
    (samePath : outcome.registry.path = registry.path)
    (uninstalled : outcome.registry.installed = none) :
    outcome.Keeps registry.path next hosts where
  samePath := samePath
  owns := by
    refine owns_of_vacant next uninstalled fun name => ?_
    rw [hosts_eq, samePath]
    exact owns.vacant_dispose name
  sameBut := by
    rw [hosts_eq]
    exact owns.sameBut_dispose

theorem attach (owns : registry.Owns document hosts) (name : String) (next : Document) :
    (registry.attach name hosts).Keeps registry.path next hosts :=
  owns.keeps_of_disposed next rfl (by rw [registry_attach]) (by rw [registry_attach])

theorem detach (owns : registry.Owns document hosts) (next : Document) :
    (registry.detach hosts).Keeps registry.path next hosts :=
  owns.keeps_of_disposed next rfl (by rw [registry_detach]) (by rw [registry_detach])

/-- An install leaves the new document under the path if there is a host and the
host accepts it, and nothing otherwise. -/
theorem install (owns : registry.Owns document hosts) (next : Document) :
    (registry.install next hosts).Keeps registry.path next hosts ∧
      (registry.install next hosts).registry.installed.isSome =
        registry.host.any hosts.accepts := by
  cases accepts : registry.host.any hosts.accepts with
  | false =>
      obtain ⟨after, left⟩ := install_of_refused accepts next
      exact ⟨owns.keeps_of_disposed next left (by rw [after]) (by rw [after]), by rw [after]; rfl⟩
  | true =>
      obtain ⟨name, attached, accepted⟩ := (Option.any_eq_true _ _).1 accepts
      obtain ⟨after, left⟩ := install_of_accepted attached accepted next
      refine ⟨⟨by rw [after], ⟨?_, ?_⟩, ?_⟩, by rw [after]; rfl⟩
      · intro handle installed
        rw [after] at installed ⊢
        cases installed
        exact ⟨rfl, by simp only [hasHost, attached, Option.isSome_some]⟩
      · intro here
        rw [left, after]
        simp only [Hosts.lib?, Hosts.host_set, lib?, attached, Option.some.injEq, Option.map_some]
        split
        · rw [Host.get?_stored, if_pos rfl]
        · exact owns.vacant_dispose here
      · rw [left]
        refine owns.sameBut_dispose.trans (.set ?_ rfl)
        intro other differs
        rw [Host.get?_stored, if_neg (Ne.symm differs), Hosts.lib?]

end Owns

end Registry

end LiveScope
