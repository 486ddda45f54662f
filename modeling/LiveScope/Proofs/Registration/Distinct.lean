/- # LiveScope.Proofs.Registration.Distinct — registries with paths of their own

A run is any list of operations on registries in which no two registries that are
there at the same time have one path (`DistinctRegistryPaths`); those that are made
without a path get distinct ones (`nodup_newPaths`). Hosts may begin or cease to
accept at any time.

`Settled` is the invariant: the run is accounted for, a registry that has a handle
owns the document that was installed last for it (`installed?`), under its own path,
and a host has replaced nothing and balances. One step keeps it (`Settled.step`), so
a run does (`settled_run`). What lies on the hosts, and how much, is read from it.
-/
import LiveScope.Proofs.Naming
import LiveScope.Proofs.Observation
import LiveScope.Proofs.Registration.Shared
import Mathlib.Data.List.Infix

namespace LiveScope.Workspace

set_option autoImplicit false

variable {workspace next : Workspace} {operation : Operation}

/-! ### Paths of registries -/

/-- No two registries have one path. -/
def DistinctRegistryPaths (workspace : Workspace) : Prop :=
  (workspace.registries.values.map (·.path)).Nodup

instance (workspace : Workspace) : Decidable workspace.DistinctRegistryPaths :=
  inferInstanceAs (Decidable (List.Nodup _))

theorem numberedPath_inj {m n : Nat} : numberedPath m = numberedPath n ↔ m = n := by
  unfold numberedPath
  rw [String.append_left_inj, String.append_right_inj, Naming.toString_inj]

/-- The path that an operation allocates: by itself, or for the registry that it
makes. -/
def newPath? (workspace : Workspace) : Operation → Option String
  | .allocatePath => some workspace.allocatePath.1
  | .makeRegistry id none =>
      ((workspace.makeRegistry id none).workspace.registries.get? id).map (·.path)
  | _ => none

theorem nextPath_dropRegistry (workspace : Workspace) (id : String) :
    (workspace.dropRegistry id).workspace.nextPath = workspace.nextPath := by
  unfold dropRegistry
  split <;> rfl

theorem nextPath_onRegistry (workspace : Workspace) (id : String)
    (operate : Registry → Hosts → Registry.Outcome) :
    (workspace.onRegistry id operate).workspace.nextPath = workspace.nextPath := by
  unfold onRegistry
  split <;> rfl

/-- An allocated path has the next number. -/
theorem newPath?_cases (workspace : Workspace) (operation : Operation)
    (forRegistries : operation.isForRegistries = true) :
    let next := (workspace.perform operation).workspace
    (newPath? workspace operation = none ∧ next.nextPath = workspace.nextPath) ∨
      (newPath? workspace operation = some (numberedPath workspace.nextPath) ∧
        next.nextPath = workspace.nextPath + 1) := by
  cases operation with
  | bindScope name scope => exact .inl ⟨rfl, rfl⟩
  | rejectAt name rejecting => exact .inl ⟨rfl, rfl⟩
  | readAt name path => exact .inl ⟨rfl, rfl⟩
  | settingsOf name => exact .inl ⟨rfl, rfl⟩
  | allocatePath => exact .inr ⟨rfl, rfl⟩
  | makeRegistry id path =>
      cases path with
      | some path => exact .inl ⟨rfl, nextPath_dropRegistry workspace id⟩
      | none =>
          refine .inr ⟨?_, nextPath_dropRegistry _ id⟩
          simp only [newPath?, makeRegistry, Shelf.get?_insert_self, Option.map_some]
          rfl
  | attach id name => exact .inl ⟨rfl, nextPath_onRegistry workspace id _⟩
  | detach id => exact .inl ⟨rfl, nextPath_onRegistry workspace id _⟩
  | install id content => exact .inl ⟨rfl, nextPath_onRegistry workspace id _⟩
  | disposeRegistry id => exact .inl ⟨rfl, nextPath_onRegistry workspace id _⟩
  | dropRegistry id => exact .inl ⟨rfl, nextPath_dropRegistry workspace id⟩
  | describeRegistry id => exact .inl ⟨rfl, by rw [perform_describeRegistry]⟩
  | addAt host path content keepAs => cases forRegistries
  | disposeAt host handle => cases forRegistries
  | makeEditor id props config onCommit => cases forRegistries
  | mount id host => cases forRegistries
  | update id props => cases forRegistries
  | edit id text => cases forRegistries
  | command id chord => cases forRegistries
  | setOnCommit id label => cases forRegistries
  | unmount id => cases forRegistries
  | dropEditor id => cases forRegistries
  | readDocument id => cases forRegistries

/-- Allocated paths are numbered one after the other. -/
theorem newPaths_eq (workspace : Workspace) {operations : List Operation}
    (forRegistries : ∀ operation ∈ operations, operation.isForRegistries = true) :
    ∃ count, observations newPath? workspace operations =
      (List.range' workspace.nextPath count).map numberedPath := by
  induction operations generalizing workspace with
  | nil => exact ⟨0, rfl⟩
  | cons operation rest ih =>
      obtain ⟨count, later⟩ := ih (workspace.perform operation).workspace
        fun other member => forRegistries other (List.mem_cons_of_mem _ member)
      rw [observations, later]
      rcases newPath?_cases workspace operation (forRegistries operation List.mem_cons_self) with
        ⟨nothing, same⟩ | ⟨new, following⟩
      · exact ⟨count, by rw [nothing, same, Option.toList_none, List.nil_append]⟩
      · refine ⟨count + 1, ?_⟩
        rw [new, following, Option.toList_some, List.range'_succ, List.map_cons,
          List.singleton_append]

theorem nodup_newPaths {operations : List Operation}
    (forRegistries : ∀ operation ∈ operations, operation.isForRegistries = true) :
    (observations newPath? workspace operations).Nodup := by
  obtain ⟨count, numbered⟩ := newPaths_eq workspace forRegistries
  rw [numbered]
  exact (List.nodup_range' 1).map fun _ _ same => numberedPath_inj.1 same

/-! ### The invariant -/

/-- The document that an operation is to install for the registry `id`. -/
def installed? (id : String) (workspace : Workspace) : Operation → Option Document
  | .install name content =>
      if name = id ∧ workspace.registries.contains id = true then some content.document else none
  | _ => none

theorem installed?_install {id : String} {registry : Registry} (content : Content)
    (found : workspace.registries.get? id = some registry) :
    installed? id workspace (.install id content) = some content.document := by
  rw [installed?, if_pos ⟨rfl, by rw [Shelf.contains, found, Option.isSome_some]⟩]

/-- Only an install of a known registry is observed of it. -/
theorem installed?_eq_none {id : String}
    (other : ∀ content, operation = .install id content →
      workspace.registries.get? id = none) : installed? id workspace operation = none := by
  unfold installed?
  split
  · next name content =>
      refine if_neg ?_
      rintro ⟨rfl, known⟩
      rw [Shelf.contains, other content rfl] at known
      cases known
  · rfl

/-- The state of a workspace in which `document id` was installed last for the
registry `id`. -/
structure Settled (workspace : Workspace) (document : String → Option Document) : Prop
    extends workspace.Accounted where
  installed : ∀ id registry, workspace.registries.get? id = some registry →
    registry.installed.isSome = true → ∃ name lib,
      workspace.Owns id name registry.path lib ∧ document id = some lib.document
  hosts : ∀ name, (workspace.hosts.host name).replaced = 0 ∧ (workspace.hosts.host name).Balanced

theorem settled_start (firstPath : Nat) (document : String → Option Document) :
    (start firstPath).Settled document where
  toAccounted := accounted_start firstPath
  installed := nofun
  hosts := fun _ => ⟨rfl, rfl⟩

namespace Settled

variable {document : String → Option Document} {id : String} {registry : Registry}

/-- A handle has the path of its registry, and is live on the host it is from. -/
theorem owns_of_installed (settled : workspace.Settled document)
    (found : workspace.registries.get? id = some registry) {handle : Handle}
    (installed : registry.installed = some handle) :
    handle.path = registry.path ∧ ∃ name new, registry.host = some name ∧
      document id = some new ∧ workspace.Owns id name registry.path ⟨handle.id, new⟩ := by
  obtain ⟨name, lib, owns, last⟩ := settled.installed id registry found (by rw [installed]; rfl)
  obtain ⟨same, sameFound, attached, sameInstalled⟩ := owns.2
  cases found.symm.trans sameFound
  cases installed.symm.trans sameInstalled
  exact ⟨rfl, name, lib.document, attached, last, owns⟩

/-- What lies under the path of a registry is its own. -/
theorem handleOn?_of_lies (settled : workspace.Settled document)
    (distinct : workspace.DistinctRegistryPaths)
    (found : workspace.registries.get? id = some registry) {name : String} {lib : Lib}
    (lies : workspace.hosts.lib? name registry.path = some lib) :
    workspace.handleOn? id name = some ⟨lib.id, registry.path⟩ := by
  obtain ⟨other, holds⟩ := settled.held name registry.path lib lies
  obtain ⟨rival, rivalFound, -, rivalInstalled⟩ := handleOn?_eq_some_iff.1 holds
  have samePath := (settled.owns_of_installed rivalFound rivalInstalled).1
  have same : id = other := Shelf.name_eq_of_key distinct found rivalFound samePath
  exact same ▸ holds

/-- After giving up, nothing lies under the path of a registry. -/
theorem vacant (settled : workspace.Settled document) (distinct : workspace.DistinctRegistryPaths)
    (found : workspace.registries.get? id = some registry) (name : String) :
    (workspace.vacated id).lib? name registry.path = none := by
  refine Option.eq_none_iff_forall_ne_some.2 fun lib left => ?_
  obtain ⟨lies, unheld⟩ := lib?_vacated.1 left
  exact unheld (settled.handleOn?_of_lies distinct found lies)

/-- A step on another registry leaves a registry what it owns. -/
theorem installed_other (settled : workspace.Settled document)
    (distinct : workspace.DistinctRegistryPaths) (step : workspace.Step operation next)
    (differs : operation.registry? ≠ some id)
    (found : next.registries.get? id = some registry)
    (isInstalled : registry.installed.isSome = true) :
    ∃ name lib, next.Owns id name registry.path lib ∧
      (installed? id workspace operation).or (document id) = some lib.document := by
  have notInstall (content : Content) : operation ≠ .install id content := by
    rintro rfl
    exact differs rfl
  rw [step.registries_other differs] at found
  obtain ⟨name, lib, owns, last⟩ := settled.installed id registry found isInstalled
  refine ⟨name, lib, ?_, ?_⟩
  · rcases owns.step settled.toAccounted step differs with still | replaced
    · exact still
    · obtain ⟨rival, content, rivalRegistry, isInstall, rivalFound, -, samePath, -⟩ := replaced
      have same : rival = id := Shelf.name_eq_of_key distinct rivalFound found samePath
      exact absurd (same ▸ isInstall) (notInstall content)
  · rw [installed?_eq_none fun content isInstall => absurd isInstall (notInstall content),
      Option.none_or, last]

/-- A step that leaves a registry with a handle left it its document or installed one. -/
theorem installed_own (settled : workspace.Settled document) (step : workspace.Step operation next)
    (own : operation.registry? = some id) (found : next.registries.get? id = some registry)
    (isInstalled : registry.installed.isSome = true) :
    ∃ name lib, next.Owns id name registry.path lib ∧
      (installed? id workspace operation).or (document id) = some lib.document := by
  cases step with
  | rests registries unknown hosts =>
      rw [registries] at found
      obtain ⟨name, lib, ⟨lies, holds⟩, last⟩ := settled.installed id registry found isInstalled
      obtain ⟨rejecting, same⟩ := hosts name
      refine ⟨name, lib, ⟨?_, registries ▸ holds⟩, ?_⟩
      · rw [Hosts.lib?, same]
        exact lies
      · rw [installed?_eq_none (unknown id), Option.none_or, last]
  | leaves other otherOwn others uninstalled hosts =>
      cases otherOwn.symm.trans own
      rw [uninstalled registry found] at isInstalled
      cases isInstalled
  | installs other name content before isInstall beforeFound attached accepts registries hosts =>
      subst isInstall
      cases own
      rw [registries, Shelf.get?_insert_self, Option.some.injEq] at found
      subst found
      refine ⟨name, _, Step.owns_of_installs attached registries hosts, ?_⟩
      rw [installed?_install content beforeFound, Option.some_or]

/-- Where nothing lies under the path that is stored to, nothing is replaced. -/
theorem replaced_step (settled : workspace.Settled document)
    (distinct : workspace.DistinctRegistryPaths) (step : workspace.Step operation next)
    (name : String) : (next.hosts.host name).replaced = 0 := by
  have before (name : String) : (workspace.hosts.host name).replaced = 0 := (settled.hosts name).1
  cases step with
  | rests registries unknown hosts =>
      obtain ⟨rejecting, same⟩ := hosts name
      rw [same]
      exact before name
  | leaves id own others uninstalled hosts => rw [hosts, replaced_vacated, before]
  | installs id here content registry own found attached accepts registries hosts =>
      rw [hosts, Hosts.host_set]
      split
      · have vacant := settled.vacant distinct found here
        rw [Hosts.lib?] at vacant
        rw [Host.replaced_stored, Shelf.contains, vacant, Option.isSome_none, replaced_vacated,
          before]
        rfl
      · rw [replaced_vacated, before]

/-- What an operation is to install comes before what was installed. -/
theorem step (settled : workspace.Settled document) (distinct : workspace.DistinctRegistryPaths)
    (step : workspace.Step operation next) :
    next.Settled fun id => (installed? id workspace operation).or (document id) where
  toAccounted := settled.toAccounted.step step
  installed := by
    intro id registry found isInstalled
    by_cases own : operation.registry? = some id
    · exact settled.installed_own step own found isInstalled
    · exact settled.installed_other distinct step own found isInstalled
  hosts := by
    have balanced := step.keeps (P := fun _ host => host.Balanced) (fun _ _ _ before => before)
      (fun _ _ handle before => before.dispose handle)
      (fun _ _ new path before => before.stored new path) (fun name => (settled.hosts name).2)
    exact fun name => ⟨settled.replaced_step distinct step name, balanced name⟩

/-! ### What lies on the hosts -/

theorem lib?_eq_some_iff (settled : workspace.Settled document) {name path : String} {lib : Lib} :
    workspace.hosts.lib? name path = some lib ↔
      ∃ id registry, workspace.registries.get? id = some registry ∧ registry.path = path ∧
        registry.host = some name ∧ registry.installed = some ⟨lib.id, path⟩ ∧
        document id = some lib.document := by
  constructor
  · intro lies
    obtain ⟨id, holds⟩ := settled.held name path lib lies
    obtain ⟨registry, found, attached, installed⟩ := handleOn?_eq_some_iff.1 holds
    obtain ⟨samePath, host, new, sameHost, last, owns⟩ := settled.owns_of_installed found installed
    cases attached.symm.trans sameHost
    have same := owns.1
    rw [← samePath, lies, Option.some.injEq] at same
    exact ⟨id, registry, found, samePath.symm, attached, installed, by rw [last, same]⟩
  · rintro ⟨id, registry, found, rfl, attached, installed, last⟩
    obtain ⟨-, host, new, sameHost, sameLast, owns⟩ := settled.owns_of_installed found installed
    cases attached.symm.trans sameHost
    cases last.symm.trans sameLast
    exact owns.1

/-- The paths on a host are those of the registries that installed a document there. -/
theorem names_perm (settled : workspace.Settled document)
    (distinct : workspace.DistinctRegistryPaths) (name : String) :
    (workspace.hosts.host name).libs.names.Perm ((workspace.registries.values.filter
      fun registry => registry.host == some name && registry.installed.isSome).map (·.path)) := by
  refine (List.perm_ext_iff_of_nodup (Shelf.nodup_names _)
    ((List.filter_sublist.map _).nodup distinct)).2 fun path => ?_
  simp only [Shelf.names, Shelf.values, List.mem_map, List.mem_filter, Bool.and_eq_true,
    beq_iff_eq, Prod.exists, exists_and_right, exists_eq_right]
  constructor
  · rintro ⟨lib, entry⟩
    obtain ⟨id, registry, found, samePath, attached, installed, -⟩ :=
      settled.lib?_eq_some_iff.1 (Shelf.get?_eq_some_iff.2 entry)
    exact ⟨registry, ⟨⟨id, Shelf.get?_eq_some_iff.1 found⟩, attached, by rw [installed]; rfl⟩,
      samePath⟩
  · rintro ⟨registry, ⟨⟨id, entry⟩, attached, isInstalled⟩, rfl⟩
    have found := Shelf.get?_eq_some_iff.2 entry
    obtain ⟨handle, installed⟩ := Option.isSome_iff_exists.1 isInstalled
    obtain ⟨-, host, new, sameHost, -, owns⟩ := settled.owns_of_installed found installed
    cases attached.symm.trans sameHost
    exact ⟨_, Shelf.get?_eq_some_iff.1 owns.1⟩

theorem liveCount_eq (settled : workspace.Settled document)
    (distinct : workspace.DistinctRegistryPaths) (name : String) :
    (workspace.hosts.host name).liveCount = workspace.registries.values.countP
      fun registry => registry.host == some name && registry.installed.isSome := by
  have same := (settled.names_perm distinct name).length_eq
  rwa [Shelf.names, List.length_map, List.length_map, ← List.countP_eq_length_filter] at same

/-- The handle of a registry is live. -/
theorem isLive (settled : workspace.Settled document)
    (found : workspace.registries.get? id = some registry) {handle : Handle}
    (installed : registry.installed = some handle) :
    ∃ name, registry.host = some name ∧ (workspace.hosts.host name).isLive handle = true := by
  obtain ⟨samePath, name, new, attached, -, owns⟩ := settled.owns_of_installed found installed
  exact ⟨name, attached, Host.isLive_iff.2 ⟨new, samePath ▸ owns.1⟩⟩

/-- Under the path of a registry that has nothing installed, nothing lies. -/
theorem vacant_of_uninstalled (settled : workspace.Settled document)
    (distinct : workspace.DistinctRegistryPaths)
    (found : workspace.registries.get? id = some registry) (uninstalled : registry.installed = none)
    (name : String) : workspace.hosts.lib? name registry.path = none := by
  refine Option.eq_none_iff_forall_ne_some.2 fun lib lies => ?_
  obtain ⟨same, sameFound, -, installed⟩ :=
    handleOn?_eq_some_iff.1 (settled.handleOn?_of_lies distinct found lies)
  cases found.symm.trans sameFound
  rw [uninstalled] at installed
  cases installed

/-- An install that is refused only takes away what the registry had installed. -/
theorem install_of_refused (settled : workspace.Settled document)
    (distinct : workspace.DistinctRegistryPaths)
    (found : workspace.registries.get? id = some registry)
    (refused : registry.host.any workspace.hosts.accepts = false) (content : Content) :
    let next := (workspace.perform (.install id content)).workspace
    next.registries.get? id = some { registry with installed := none } ∧
      (∀ name, (next.hosts.host name).added = (workspace.hosts.host name).added) ∧
      ∀ name path, next.hosts.lib? name path =
        if path = registry.path then none else workspace.hosts.lib? name path := by
  obtain ⟨after, left⟩ := Registry.install_of_refused refused content.document
  simp only [perform, onRegistry, found, afterRegistry, Shelf.get?_insert_self, after, left,
    ← vacated_of_known found, added_vacated, implies_true, true_and]
  intro name path
  split
  · next own => exact own ▸ settled.vacant distinct found name
  · next other =>
      ext lib
      rw [lib?_vacated, and_iff_left_iff_imp]
      intro _ holds
      obtain ⟨same, sameFound, -, installed⟩ := handleOn?_eq_some_iff.1 holds
      cases found.symm.trans sameFound
      exact other (settled.owns_of_installed found installed).1

end Settled

/-! ### Runs -/

/-- A run leaves every registry with the document that was installed for it last. -/
theorem settled_run (firstPath : Nat) (operations : List Operation)
    (forRegistries : ∀ operation ∈ operations, operation.isForRegistries = true)
    (distinct : ∀ done, done <+: operations →
      ((start firstPath).run done).DistinctRegistryPaths) :
    ((start firstPath).run operations).Settled
      fun id => latest (installed? id) (start firstPath) operations := by
  -- from the end: what the last operation installs comes before what was installed
  induction operations using List.reverseRecOn with
  | nil => exact settled_start firstPath _
  | append_singleton operations operation ih =>
      have settled := ih (fun other member => forRegistries other (List.mem_append_left _ member))
        fun done before => distinct done (before.trans (List.prefix_append _ _))
      simp only [run_concat, latest_concat]
      exact settled.step (distinct operations (List.prefix_append _ _)) (step_perform _ operation
        (forRegistries operation (List.mem_append_right _ List.mem_cons_self)))

/-- **Hosts keep what registries installed.** After any run of registries with paths
of their own, in which hosts may begin or cease to accept at any time: the paths
that were allocated are distinct. What lies on a host is, for each registry that is
attached there and has a handle, the document that was installed last for it, under
its path and the id of its handle, and nothing else. A registry that has a handle
is attached to a host where that handle is live; under the path of one that has
none, nothing lies anywhere. A host has replaced nothing, and what it added and has
not disposed are as many documents as registries have installed there. An install
that no host accepts adds nothing: it leaves the registry with nothing under its
path, and all other documents where they were. -/
theorem registrations_run (firstPath : Nat) (operations : List Operation)
    (forRegistries : ∀ operation ∈ operations, operation.isForRegistries = true)
    (distinct : ∀ done, done <+: operations →
      ((start firstPath).run done).DistinctRegistryPaths) :
    let workspace := (start firstPath).run operations
    (observations newPath? (start firstPath) operations).Nodup ∧
    (∀ name path lib, workspace.hosts.lib? name path = some lib ↔
      ∃ id registry, workspace.registries.get? id = some registry ∧ registry.path = path ∧
        registry.host = some name ∧ registry.installed = some ⟨lib.id, path⟩ ∧
        latest (installed? id) (start firstPath) operations = some lib.document) ∧
    (∀ id registry, workspace.registries.get? id = some registry →
      (∀ handle, registry.installed = some handle → ∃ name, registry.host = some name ∧
        (workspace.hosts.host name).isLive handle = true) ∧
      (registry.installed = none → ∀ name, workspace.hosts.lib? name registry.path = none)) ∧
    (∀ name, (workspace.hosts.host name).replaced = 0 ∧
      (workspace.hosts.host name).added =
        (workspace.hosts.host name).liveCount + (workspace.hosts.host name).disposed ∧
      (workspace.hosts.host name).liveCount = workspace.registries.values.countP
        fun registry => registry.host == some name && registry.installed.isSome) ∧
    ∀ id registry content, workspace.registries.get? id = some registry →
      registry.host.any workspace.hosts.accepts = false →
      let next := (workspace.perform (.install id content)).workspace
      next.registries.get? id = some { registry with installed := none } ∧
        (∀ name, (next.hosts.host name).added = (workspace.hosts.host name).added) ∧
        ∀ name path, next.hosts.lib? name path =
          if path = registry.path then none else workspace.hosts.lib? name path := by
  have settled := settled_run firstPath operations forRegistries distinct
  have apart := distinct operations (List.prefix_refl _)
  refine ⟨nodup_newPaths forRegistries, fun name path lib => settled.lib?_eq_some_iff, ?_, ?_, ?_⟩
  · intro id registry found
    exact ⟨fun handle => settled.isLive found, settled.vacant_of_uninstalled apart found⟩
  · intro name
    obtain ⟨unreplaced, balanced⟩ := settled.hosts name
    refine ⟨unreplaced, ?_, settled.liveCount_eq apart name⟩
    rw [balanced, unreplaced, Nat.add_zero]
  · intro id registry content found refused
    exact settled.install_of_refused apart found refused content

/-- Two registries on one host; one moves to another host, and the other one is
rejected when it installs once more. -/
def ownPaths : List Operation :=
  [.makeRegistry "first" none, .makeRegistry "second" (some "pinned"),
    .attach "first" "host", .attach "second" "host",
    .install "first" .nothing, .install "second" .nothing,
    .attach "second" "other", .install "second" .nothing,
    .rejectAt "host" true, .install "first" .nothing]

theorem registrations_ownPaths :
    let workspace := (start 1).run ownPaths
    (∀ operation ∈ ownPaths, operation.isForRegistries = true) ∧
    (∀ done, done <+: ownPaths → ((start 1).run done).DistinctRegistryPaths) ∧
    (∀ name, workspace.hosts.lib? name (numberedPath 1) = none) ∧
    workspace.hosts.lib? "other" "pinned" = some ⟨1, .empty⟩ ∧
    (workspace.hosts.host "host").added = 2 ∧ (workspace.hosts.host "host").disposed = 2 ∧
    (workspace.hosts.host "host").liveCount = 0 := by
  have forRegistries : ∀ operation ∈ ownPaths, operation.isForRegistries = true := by decide
  have distinct : ∀ done, done <+: ownPaths → ((start 1).run done).DistinctRegistryPaths := by
    have inits : ∀ done ∈ ownPaths.inits, ((start 1).run done).DistinctRegistryPaths := by decide
    exact fun done before => inits done ((List.mem_inits done ownPaths).2 before)
  obtain ⟨-, lies, registries, hosts, -⟩ := registrations_run 1 ownPaths forRegistries distinct
  have first : ((start 1).run ownPaths).registries.get? "first" =
      some ⟨numberedPath 1, some "host", none⟩ := by decide
  have second : ((start 1).run ownPaths).registries.get? "second" =
      some ⟨"pinned", some "other", some ⟨1, "pinned"⟩⟩ := by decide
  have counts : ((start 1).run ownPaths).registries.values.countP
      (fun registry => registry.host == some "host" && registry.installed.isSome) = 0 := by decide
  have added : (((start 1).run ownPaths).hosts.host "host").added = 2 := by decide
  have live := (hosts "host").2.2.trans counts
  refine ⟨forRegistries, distinct, (registries "first" _ first).2 rfl, ?_, added, ?_, live⟩
  · exact (lies "other" "pinned" _).2 ⟨"second", _, second, rfl, rfl, rfl, by decide⟩
  · have balance := (hosts "host").2.1
    omega

end LiveScope.Workspace
