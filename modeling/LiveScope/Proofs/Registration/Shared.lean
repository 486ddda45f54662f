/- # LiveScope.Proofs.Registration.Shared — registries that may share paths

A run is any list of operations on registries, any of which may have the path of
another, in which hosts may begin or cease to accept at any time.

`Accounted` is the invariant: a host has given out every handle that a registry has
from it, no two registries have one with the same id, and what lies on a host is
there by the handle of a registry. Handles that were replaced stay with their
registries; by their ids they hold nothing. One step keeps the invariant
(`Accounted.step`), so a run does (`Accounted.run`).

Every document has therefore one owner (`Owns`). An operation on one registry
leaves what the others own in place, but for an install that the host accepts and
counts as a replacement (`Step.spares`).
-/
import LiveScope.Proofs.Registration.Step
import Mathlib.Logic.ExistsUnique

namespace LiveScope.Workspace

set_option autoImplicit false

variable {workspace next : Workspace} {operation : Operation}

/-- The operation installs a document in place of what lies under the path. -/
def Operation.Replaces (operation : Operation) (workspace next : Workspace)
    (name path : String) : Prop :=
  ∃ id content registry, operation = .install id content ∧
    workspace.registries.get? id = some registry ∧
    registry.host = some name ∧ registry.path = path ∧
    (∃ new, next.Owns id name path ⟨new, content.document⟩) ∧
    (next.hosts.host name).replaced = (workspace.hosts.host name).replaced + 1

/-! ### The invariant -/

structure Accounted (workspace : Workspace) : Prop where
  issued : ∀ id name handle, workspace.handleOn? id name = some handle →
    handle.id ≤ (workspace.hosts.host name).lastId
  apart : ∀ id other name handle rival, workspace.handleOn? id name = some handle →
    workspace.handleOn? other name = some rival → handle.id = rival.id → id = other
  held : ∀ name path lib, workspace.hosts.lib? name path = some lib →
    ∃ id, workspace.handleOn? id name = some ⟨lib.id, path⟩

theorem accounted_start (firstPath : Nat) : (start firstPath).Accounted where
  issued := nofun
  apart := nofun
  held := nofun

namespace Accounted

/-- What lies on a host has one owner. -/
theorem existsUnique_owner (accounted : workspace.Accounted) {name path : String} {lib : Lib}
    (found : workspace.hosts.lib? name path = some lib) :
    ∃! id, workspace.Owns id name path lib := by
  obtain ⟨id, holds⟩ := accounted.held name path lib found
  refine ⟨id, owns_iff.2 ⟨found, holds⟩, fun other owns => ?_⟩
  exact accounted.apart other id name _ _ (owns_iff.1 owns).2 holds rfl

theorem step (accounted : workspace.Accounted) (step : workspace.Step operation next) :
    next.Accounted where
  issued := by
    intro id name handle has
    rcases step.handleOn?_cases has with old | ⟨-, -, given⟩
    · exact Nat.le_trans (accounted.issued id name handle old) (step.lastId_le name)
    · exact given
  apart := by
    intro id other name handle rival has rivalHas sameId
    rcases step.handleOn?_cases has with old | ⟨own, new, -⟩ <;>
      rcases step.handleOn?_cases rivalHas with rivalOld | ⟨rivalOwn, rivalNew, -⟩
    · exact accounted.apart id other name handle rival old rivalOld sameId
    · have before := accounted.issued id name handle old
      omega
    · have before := accounted.issued other name rival rivalOld
      omega
    · exact Option.some.inj (own.symm.trans rivalOwn)
  held := by
    intro name path lib found
    rcases step.lib?_cases found with held | ⟨lay, still⟩
    · exact held
    · obtain ⟨id, holds⟩ := accounted.held name path lib lay
      exact ⟨id, still id holds⟩

theorem run (accounted : workspace.Accounted) {operations : List Operation}
    (forRegistries : ∀ operation ∈ operations, operation.isForRegistries = true) :
    (workspace.run operations).Accounted := by
  induction operations generalizing workspace with
  | nil => exact accounted
  | cons operation rest ih =>
      have step := workspace.step_perform operation (forRegistries operation List.mem_cons_self)
      exact ih (accounted.step step) fun other member =>
        forRegistries other (List.mem_cons_of_mem _ member)

end Accounted

/-! ### Frames -/

/-- A step on one registry leaves in place what that registry does not own, or
replaces it. -/
theorem Step.spares (step : workspace.Step operation next) {name path : String} {lib : Lib}
    (found : workspace.hosts.lib? name path = some lib)
    (unheld : ∀ id, operation.registry? = some id →
      workspace.handleOn? id name ≠ some ⟨lib.id, path⟩) :
    next.hosts.lib? name path = some lib ∨ operation.Replaces workspace next name path := by
  cases step with
  | rests registries unknown hosts =>
      obtain ⟨rejecting, same⟩ := hosts name
      rw [Hosts.lib?, same]
      exact .inl found
  | leaves id own others uninstalled hosts =>
      rw [Hosts.lib?, hosts]
      exact .inl (lib?_vacated.2 ⟨found, unheld id own⟩)
  | installs id here content registry own known attached accepts registries hosts =>
      have left : (workspace.vacated id).lib? name path = some lib :=
        lib?_vacated.2 ⟨found, unheld id (by rw [own]; rfl)⟩
      by_cases same : here = name ∧ registry.path = path
      · obtain ⟨rfl, rfl⟩ := same
        have occupied : ((workspace.vacated id).host here).libs.contains registry.path = true := by
          rw [Hosts.lib?] at left
          rw [Shelf.contains, left, Option.isSome_some]
        refine .inr ⟨id, content, registry, own, known, attached, rfl,
          ⟨_, owns_of_installs attached registries hosts⟩, ?_⟩
        rw [hosts, Hosts.host_set, if_pos rfl, Host.replaced_stored, if_pos occupied,
          replaced_vacated]
      · rw [hosts, Hosts.lib?_set_stored, if_neg same]
        exact .inl left

/-- Of a step on another registry an owner notices a replacement only. -/
theorem Owns.step {id name path : String} {lib : Lib} (owns : workspace.Owns id name path lib)
    (accounted : workspace.Accounted) (step : workspace.Step operation next)
    (differs : operation.registry? ≠ some id) :
    next.Owns id name path lib ∨ operation.Replaces workspace next name path := by
  obtain ⟨found, holds⟩ := owns_iff.1 owns
  have unheld : ∀ other, operation.registry? = some other →
      workspace.handleOn? other name ≠ some ⟨lib.id, path⟩ := by
    intro other own clash
    exact differs (own.trans (congrArg some (accounted.apart other id name _ _ clash holds rfl)))
  refine (step.spares found unheld).imp_left fun lies => owns_iff.2 ⟨lies, ?_⟩
  rw [handleOn?_congr (step.registries_other differs), holds]

/-! ### Giving up for good -/

/-- The registry that an operation disposes or drops. -/
def Operation.givesUp? : Operation → Option String
  | .disposeRegistry id | .dropRegistry id => some id
  | _ => none

theorem Operation.isForRegistries_of_givesUp {operation : Operation} {id : String}
    (givesUp : operation.givesUp? = some id) : operation.isForRegistries = true :=
  match operation, givesUp with
  | .disposeRegistry _, _ => rfl
  | .dropRegistry _, _ => rfl

theorem Operation.registry?_of_givesUp {operation : Operation} {id : String}
    (givesUp : operation.givesUp? = some id) : operation.registry? = some id :=
  match operation, givesUp with
  | .disposeRegistry _, givesUp => givesUp
  | .dropRegistry _, givesUp => givesUp

theorem handleOn?_of_givesUp {id : String} (givesUp : operation.givesUp? = some id)
    (name : String) : (workspace.perform operation).workspace.handleOn? id name = none := by
  match operation, givesUp with
  | .disposeRegistry _, rfl =>
      simp only [perform, onRegistry]
      split
      · next absent =>
          rw [handleOn?, refuse, absent]
          rfl
      · next registry found =>
          simp only [handleOn?, afterRegistry, Shelf.get?_insert_self, Option.bind_some]
          exact Registry.handleOn?_of_uninstalled (by rw [Registry.registry_dispose]) name
  | .dropRegistry _, rfl =>
      rw [handleOn?, perform, registries_dropRegistry, if_pos rfl]
      rfl

/-- Registries that are disposed or dropped get no handle any more. -/
theorem handleOn?_run_of_givesUp {leaving : List Operation}
    (givesUp : ∀ operation ∈ leaving, operation.givesUp?.isSome = true)
    {id name : String} {handle : Handle}
    (has : (workspace.run leaving).handleOn? id name = some handle) :
    workspace.handleOn? id name = some handle ∧ some id ∉ leaving.map (·.givesUp?) := by
  induction leaving generalizing workspace with
  | nil => exact ⟨has, List.not_mem_nil⟩
  | cons operation rest ih =>
      obtain ⟨after, unmentioned⟩ :=
        ih (fun other member => givesUp other (List.mem_cons_of_mem _ member)) has
      obtain ⟨given, gives⟩ := Option.isSome_iff_exists.1 (givesUp operation List.mem_cons_self)
      have differs : given ≠ id := by
        rintro rfl
        rw [handleOn?_of_givesUp gives] at after
        cases after
      have step := workspace.step_perform operation (Operation.isForRegistries_of_givesUp gives)
      have elsewhere : operation.registry? ≠ some id := by
        rw [Operation.registry?_of_givesUp gives]
        exact fun same => differs (Option.some.inj same)
      refine ⟨by rwa [handleOn?_congr (step.registries_other elsewhere)] at after, ?_⟩
      rw [List.map_cons, List.mem_cons, gives, not_or]
      exact ⟨fun same => differs (Option.some.inj same).symm, unmentioned⟩

/-- When every registry has been disposed or dropped, the hosts are empty. -/
theorem Accounted.liveCount_of_givesUp (accounted : workspace.Accounted)
    (leaving : List Operation)
    (givesUp : ∀ operation ∈ leaving, operation.givesUp?.isSome = true)
    (all : ∀ id, workspace.registries.contains id = true →
      some id ∈ leaving.map (·.givesUp?)) (name : String) :
    ((workspace.run leaving).hosts.host name).liveCount = 0 := by
  have after : (workspace.run leaving).Accounted := by
    refine accounted.run fun operation member => ?_
    obtain ⟨id, gives⟩ := Option.isSome_iff_exists.1 (givesUp operation member)
    exact Operation.isForRegistries_of_givesUp gives
  rw [Host.liveCount, Shelf.size, List.length_eq_zero_iff, List.eq_nil_iff_forall_not_mem]
  rintro ⟨path, lib⟩ member
  obtain ⟨id, holds⟩ := after.held name path lib (Shelf.get?_eq_some_iff.2 member)
  obtain ⟨before, unmentioned⟩ := handleOn?_run_of_givesUp givesUp holds
  obtain ⟨registry, found, -⟩ := handleOn?_eq_some_iff.1 before
  exact unmentioned (all id (by rw [Shelf.contains, found, Option.isSome_some]))

/-! ### Runs -/

/-- **Shared paths neither leak nor steal.** After any run of registries, whatever
paths they have, every document on a host has exactly one owner: the registry that
is attached there and installed it under its id. When all registries have been
disposed or dropped, in any order, no document is left. An operation on one
registry leaves every document that another one owns in place and in its hands,
but for an install that puts its own document under the same path on the same
host, which the host counts. -/
theorem sharing_run (firstPath : Nat) (operations : List Operation)
    (forRegistries : ∀ operation ∈ operations, operation.isForRegistries = true) :
    let workspace := (start firstPath).run operations
    (∀ name path lib, workspace.hosts.lib? name path = some lib →
      ∃! id, workspace.Owns id name path lib) ∧
    (∀ leaving : List Operation, (∀ operation ∈ leaving, operation.givesUp?.isSome = true) →
      (∀ id, workspace.registries.contains id = true → some id ∈ leaving.map (·.givesUp?)) →
      ∀ name, ((workspace.run leaving).hosts.host name).liveCount = 0) ∧
    ∀ operation : Operation, operation.isForRegistries = true →
      ∀ id name path lib, operation.registry? ≠ some id → workspace.Owns id name path lib →
        let next := (workspace.perform operation).workspace
        next.Owns id name path lib ∨ operation.Replaces workspace next name path := by
  have accounted := (accounted_start firstPath).run forRegistries
  refine ⟨fun name path lib => accounted.existsUnique_owner,
    accounted.liveCount_of_givesUp, ?_⟩
  intro operation forRegistry id name path lib differs owns
  exact owns.step accounted (step_perform _ operation forRegistry) differs

/-- Two registries with one path on one host; the second replaces what the first
installed. -/
def sharedPath : List Operation :=
  [.makeRegistry "first" (some "shared"), .makeRegistry "second" (some "shared"),
    .attach "first" "host", .attach "second" "host",
    .install "first" .nothing, .install "second" .nothing]

/-- The first registry gives up by a handle that is stale: the second one keeps its
document until it gives up as well. -/
theorem sharing_sharedPath :
    let workspace := (start 0).run sharedPath
    (∀ operation ∈ sharedPath, operation.isForRegistries = true) ∧
    (∃! id, workspace.Owns id "host" "shared" ⟨2, .empty⟩) ∧
    (workspace.perform (.disposeRegistry "first")).workspace.Owns "second" "host" "shared"
      ⟨2, .empty⟩ ∧
    ((workspace.run [.disposeRegistry "second", .dropRegistry "first"]).hosts.host
      "host").liveCount = 0 := by
  have forRegistries : ∀ operation ∈ sharedPath, operation.isForRegistries = true := by decide
  obtain ⟨owned, emptied, framed⟩ := sharing_run 0 sharedPath forRegistries
  have lies : ((start 0).run sharedPath).hosts.lib? "host" "shared" = some ⟨2, .empty⟩ := by
    decide
  have owns : ((start 0).run sharedPath).Owns "second" "host" "shared" ⟨2, .empty⟩ :=
    ⟨lies, ⟨"shared", some "host", some ⟨2, "shared"⟩⟩, by decide, rfl, rfl⟩
  refine ⟨forRegistries, owned _ _ _ lies, ?_, ?_⟩
  · refine (framed (.disposeRegistry "first") rfl "second" _ _ _ (by decide) owns).resolve_right ?_
    rintro ⟨id, content, registry, install, -⟩
    cases install
  · refine emptied _ (by decide) (fun id known => ?_) "host"
    have among : id ∈ ((start 0).run sharedPath).registries.names := by
      obtain ⟨registry, found⟩ := Option.isSome_iff_exists.1 known
      exact List.mem_map_of_mem (Shelf.get?_eq_some_iff.1 found)
    have names : ((start 0).run sharedPath).registries.names = ["first", "second"] := by decide
    rw [names] at among
    simpa [Operation.givesUp?, or_comm] using among

end LiveScope.Workspace
