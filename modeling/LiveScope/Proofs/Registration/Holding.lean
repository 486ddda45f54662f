/- # LiveScope.Proofs.Registration.Holding — what a registry holds

A registry has a handle from the host that it is attached to (`handleOn?`). With
the handle it gives up one document at most: the one that was added under it and
has not been replaced since, which it owns (`Workspace.Owns`). All else stays where
it is (`lib?_vacated`).
-/
import LiveScope.Proofs.Ownership
import LiveScope.Workspace.Operation

namespace LiveScope

set_option autoImplicit false

/-! ### Hosts -/

theorem Hosts.lib?_set_stored (hosts : Hosts) (name path other under : String)
    (document : Document) :
    (hosts.set name ((hosts.host name).stored document path)).lib? other under =
      if name = other ∧ path = under then some ⟨(hosts.host name).lastId + 1, document⟩
      else hosts.lib? other under := by
  simp only [lib?, host_set]
  by_cases here : name = other
  · subst here
    simp only [if_true, true_and, Host.get?_stored]
  · simp only [here, if_false, false_and]

/-! ### Registries -/

namespace Registry

/-- The handle that a registry has from a host. -/
def handleOn? (registry : Registry) (name : String) : Option Handle :=
  if registry.host = some name then registry.installed else none

theorem handleOn?_eq_some_iff {registry : Registry} {name : String} {handle : Handle} :
    registry.handleOn? name = some handle ↔
      registry.host = some name ∧ registry.installed = some handle := by
  unfold handleOn?
  split
  · next attached => simp only [attached, true_and]
  · next elsewhere => simp only [elsewhere, false_and, reduceCtorEq]

theorem handleOn?_of_uninstalled {registry : Registry} (uninstalled : registry.installed = none)
    (name : String) : registry.handleOn? name = none := by
  rw [handleOn?, uninstalled, ite_self]

/-- Giving up disposes on each host the handle from there. -/
theorem host_dispose (registry : Registry) (hosts : Hosts) (name : String) :
    (registry.dispose hosts).hosts.host name =
      ((registry.handleOn? name).map (hosts.host name).dispose).getD (hosts.host name) := by
  unfold Registry.dispose handleOn?
  split
  · next handle here installed attached =>
      simp only [Hosts.host_set, installed, attached, Option.some.injEq]
      split
      · next same => rw [same, Option.map_some, Option.getD_some]
      · rfl
  · next absent =>
      split
      · next attached =>
          cases installed : registry.installed with
          | none => rfl
          | some handle => exact absurd attached (absent handle name installed)
      · rfl

end Registry

namespace Workspace

variable {workspace next : Workspace}

/-- The handle that the registry `id` has from a host. -/
def handleOn? (workspace : Workspace) (id name : String) : Option Handle :=
  (workspace.registries.get? id).bind (·.handleOn? name)

theorem handleOn?_eq_some_iff {id name : String} {handle : Handle} :
    workspace.handleOn? id name = some handle ↔
      ∃ registry, workspace.registries.get? id = some registry ∧
        registry.host = some name ∧ registry.installed = some handle := by
  simp only [handleOn?, Option.bind_eq_some_iff, Registry.handleOn?_eq_some_iff]

theorem handleOn?_congr {id : String} (same : next.registries.get? id = workspace.registries.get? id)
    (name : String) : next.handleOn? id name = workspace.handleOn? id name := by
  rw [handleOn?, same, handleOn?]

/-- What lies under a path on a host is what the registry `id` installed there. -/
def Owns (workspace : Workspace) (id name path : String) (lib : Lib) : Prop :=
  workspace.hosts.lib? name path = some lib ∧
    ∃ registry, workspace.registries.get? id = some registry ∧
      registry.host = some name ∧ registry.installed = some ⟨lib.id, path⟩

theorem owns_iff {id name path : String} {lib : Lib} :
    workspace.Owns id name path lib ↔ workspace.hosts.lib? name path = some lib ∧
      workspace.handleOn? id name = some ⟨lib.id, path⟩ := by
  rw [Owns, handleOn?_eq_some_iff]

/-! ### Giving up -/

/-- The hosts after the registry `id`, if it is known, gave up what it installed. -/
def vacated (workspace : Workspace) (id : String) : Hosts :=
  match workspace.registries.get? id with
  | some registry => (registry.dispose workspace.hosts).hosts
  | none => workspace.hosts

theorem vacated_of_known {id : String} {registry : Registry}
    (found : workspace.registries.get? id = some registry) :
    workspace.vacated id = (registry.dispose workspace.hosts).hosts := by
  rw [vacated, found]

theorem vacated_of_unknown {id : String} (absent : workspace.registries.get? id = none) :
    workspace.vacated id = workspace.hosts := by
  rw [vacated, absent]

theorem host_vacated (workspace : Workspace) (id name : String) :
    (workspace.vacated id).host name =
      ((workspace.handleOn? id name).map (workspace.hosts.host name).dispose).getD
        (workspace.hosts.host name) := by
  cases found : workspace.registries.get? id with
  | none => rw [vacated_of_unknown found, handleOn?, found]; rfl
  | some registry => rw [vacated_of_known found, handleOn?, found, registry.host_dispose]; rfl

/-- What disposing keeps of a host, giving up keeps. -/
theorem keeps_vacated {P : Host → Prop} (dispose : ∀ host handle, P host → P (host.dispose handle))
    (id name : String) (before : P (workspace.hosts.host name)) :
    P ((workspace.vacated id).host name) := by
  rw [host_vacated]
  cases workspace.handleOn? id name with
  | none => exact before
  | some handle => exact dispose _ handle before

@[simp] theorem lastId_vacated (workspace : Workspace) (id name : String) :
    ((workspace.vacated id).host name).lastId = (workspace.hosts.host name).lastId :=
  keeps_vacated (P := fun host => host.lastId = (workspace.hosts.host name).lastId)
    (fun _ _ same => by rwa [Host.lastId_dispose]) id name rfl

@[simp] theorem replaced_vacated (workspace : Workspace) (id name : String) :
    ((workspace.vacated id).host name).replaced = (workspace.hosts.host name).replaced :=
  keeps_vacated (P := fun host => host.replaced = (workspace.hosts.host name).replaced)
    (fun _ _ same => by rwa [Host.replaced_dispose]) id name rfl

@[simp] theorem added_vacated (workspace : Workspace) (id name : String) :
    ((workspace.vacated id).host name).added = (workspace.hosts.host name).added :=
  keeps_vacated (P := fun host => host.added = (workspace.hosts.host name).added)
    (fun _ _ same => by rwa [Host.added_dispose]) id name rfl

/-- What is left after giving up is what was added by other handles. -/
theorem lib?_vacated {id name path : String} {lib : Lib} :
    (workspace.vacated id).lib? name path = some lib ↔
      workspace.hosts.lib? name path = some lib ∧
        workspace.handleOn? id name ≠ some ⟨lib.id, path⟩ := by
  rw [Hosts.lib?, host_vacated]
  cases workspace.handleOn? id name with
  | none => simp only [Option.map_none, Option.getD_none, Hosts.lib?, ne_eq, reduceCtorEq,
      not_false_eq_true, and_true]
  | some handle =>
      simp only [Option.map_some, Option.getD_some, Host.get?_dispose_eq_some_iff, Hosts.lib?,
        ne_eq, Option.some.injEq]

end Workspace

end LiveScope
