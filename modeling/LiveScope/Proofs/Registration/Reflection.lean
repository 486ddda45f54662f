/- # LiveScope.Proofs.Registration.Reflection — a ledger told from the workspace

A ledger of shares reflects a workspace that began as `base` if it says what each
registry of `base` is by now, what lies under its path and what the hosts have counted,
but for ids (`Ledger.Reflects`); what lies under other paths is as it was. The registries
have paths of their own, and their handles have these paths (`OwnHandles`), which is so
after any run. All else that is on the hosts may be anything.

An operation of one registry changes nothing but the registry and what lies under its
path, so it changes one share (`Reflects.enter`). It gives up first (`Reflects.leave`),
and if a host accepts its document, puts it there (`Reflects.store`). Thus a step of the
workspace is an entry in the ledger (`Reflects.perform`), and a run is a posted ledger
(`Reflects.run`).
-/
import LiveScope.Proofs.Registration.Distinct
import LiveScope.Proofs.Registration.Ledger

namespace LiveScope

set_option autoImplicit false

/-! ### Hosts -/

def Hosts.document? (hosts : Hosts) (name path : String) : Option Document :=
  (hosts.lib? name path).map (·.document)

theorem Hosts.SameBut.document? {path other : String} {before after : Hosts}
    (sameBut : before.SameBut path after) (differs : other ≠ path) (name : String) :
    after.document? name other = before.document? name other := by
  rw [Hosts.document?, sameBut.lib? name other differs, Hosts.document?]

namespace Host

def counts (host : Host) : Workspace.Counts := ⟨host.added, host.disposed, host.replaced⟩

/-- The host when a live document was taken away. -/
def without (host : Host) (path : String) : Host :=
  { host with libs := host.libs.erase path, disposed := host.disposed + 1 }

end Host

/-! ### Registries -/

namespace Registry

def standing (registry : Registry) (hosts : Hosts) : Workspace.Standing where
  host := registry.host
  installed := registry.installed.isSome
  live := registry.host.any fun name => registry.installed.any (hosts.host name).isLive

theorem isLiveOn_standing_iff {registry : Registry} {hosts : Hosts} {name : String} :
    (registry.standing hosts).isLiveOn name = true ↔ ∃ handle,
      registry.handleOn? name = some handle ∧ (hosts.host name).isLive handle = true := by
  simp only [Workspace.Standing.isLiveOn, standing, Bool.and_eq_true, beq_iff_eq,
    Option.any_eq_true, handleOn?_eq_some_iff]
  constructor
  · rintro ⟨⟨here, attached, handle, installed, live⟩, sameHost⟩
    cases attached.symm.trans sameHost
    exact ⟨handle, ⟨attached, installed⟩, live⟩
  · rintro ⟨handle, ⟨attached, installed⟩, live⟩
    exact ⟨⟨name, attached, handle, installed, live⟩, attached⟩

/-- A registry stands as before where nothing changed under its path. -/
theorem standing_congr {registry : Registry} {before after : Hosts}
    (own : ∀ handle, registry.installed = some handle → handle.path = registry.path)
    (same : ∀ name, after.lib? name registry.path = before.lib? name registry.path) :
    registry.standing after = registry.standing before := by
  have live (name : String) : registry.installed.any (after.host name).isLive =
      registry.installed.any (before.host name).isLive := by
    cases installed : registry.installed with
    | none => rfl
    | some handle =>
        have samePath := own handle installed
        have unchanged := same name
        rw [← samePath, Hosts.lib?, Hosts.lib?] at unchanged
        rw [Option.any_some, Option.any_some, Host.isLive, Host.isLive, unchanged]
  simp only [standing, live]

end Registry

namespace Workspace

variable {workspace next base : Workspace} {operation : Operation}

/-! ### Handles -/

/-- Other operations have nothing to do with registries. -/
theorem registries_perform (workspace : Workspace)
    (notForRegistries : operation.isForRegistries = false) :
    (workspace.perform operation).workspace.registries = workspace.registries := by
  have dropped (workspace : Workspace) (id : String) :
      (workspace.dropEditor id).workspace.registries = workspace.registries := by
    unfold dropEditor
    split <;> rfl
  have onEditor (workspace : Workspace) (id : String) (operate : Editor → Hosts → Editor.Outcome) :
      (workspace.onEditor id operate).workspace.registries = workspace.registries := by
    unfold onEditor
    split <;> rfl
  cases operation with
  | addAt host path content keepAs =>
      simp only [perform, addAt]
      split <;> rfl
  | disposeAt host handle =>
      simp only [perform, disposeAt]
      split <;> rfl
  | makeEditor id props config onCommit =>
      simp only [perform, makeEditor]
      split
      · rfl
      · simp only [dropped]
        cases config.path <;> rfl
  | mount id host =>
      simp only [perform, mount]
      split
      · rfl
      · exact onEditor _ id _
  | update id props =>
      simp only [perform, update]
      split
      · rfl
      · rfl
      · exact onEditor _ id _
  | edit id text => exact onEditor _ id _
  | command id chord =>
      simp only [perform, command]
      split <;> rfl
  | setOnCommit id label => exact onEditor _ id _
  | unmount id => exact onEditor _ id _
  | dropEditor id => exact dropped _ id
  | readDocument id =>
      simp only [perform]
      split <;> rfl
  | bindScope name scope => cases notForRegistries
  | rejectAt name rejecting => cases notForRegistries
  | readAt name path => cases notForRegistries
  | settingsOf name => cases notForRegistries
  | allocatePath => cases notForRegistries
  | makeRegistry id path => cases notForRegistries
  | attach id name => cases notForRegistries
  | detach id => cases notForRegistries
  | install id content => cases notForRegistries
  | disposeRegistry id => cases notForRegistries
  | dropRegistry id => cases notForRegistries
  | describeRegistry id => cases notForRegistries

/-- The handle of a registry has the path of the registry. -/
def OwnHandles (workspace : Workspace) : Prop :=
  ∀ id registry, workspace.registries.get? id = some registry →
    ∀ handle, registry.installed = some handle → handle.path = registry.path

namespace OwnHandles

theorem step (own : workspace.OwnHandles) (step : workspace.Step operation next) :
    next.OwnHandles := by
  intro id registry found handle installed
  cases step with
  | rests registries unknown hosts => exact own id registry (registries ▸ found) handle installed
  | leaves other isOwn others uninstalled hosts =>
      by_cases same : id = other
      · rw [uninstalled registry (same ▸ found)] at installed
        cases installed
      · exact own id registry (others id same ▸ found) handle installed
  | installs other name content before isInstall beforeFound attached accepts registries hosts =>
      rw [registries, Shelf.get?_insert] at found
      split at found
      · cases found
        cases installed
        rfl
      · exact own id registry found handle installed

theorem run (firstPath : Nat) (operations : List Operation) :
    ((start firstPath).run operations).OwnHandles := by
  induction operations using List.reverseRecOn with
  | nil => exact fun id registry found => nomatch found
  | append_singleton operations operation ih =>
      rw [run_concat]
      cases forRegistries : operation.isForRegistries with
      | true => exact ih.step (step_perform _ operation forRegistries)
      | false =>
          intro id registry found
          rw [registries_perform _ forRegistries] at found
          exact ih id registry found

end OwnHandles

/-! ### Giving up and storing -/

section Own

variable {id : String} {registry : Registry}
  (found : workspace.registries.get? id = some registry)
  (own : ∀ handle, registry.installed = some handle → handle.path = registry.path)

include found own in
theorem host_vacated_of_own (name : String) : (workspace.vacated id).host name =
    if (registry.standing workspace.hosts).isLiveOn name then
      (workspace.hosts.host name).without registry.path
    else workspace.hosts.host name := by
  rw [host_vacated, handleOn?, found, Option.bind_some]
  split
  · next live =>
      obtain ⟨handle, holds, isLive⟩ := Registry.isLiveOn_standing_iff.1 live
      have samePath := own handle (Registry.handleOn?_eq_some_iff.1 holds).2
      rw [holds, Option.map_some, Option.getD_some, Host.dispose_of_live isLive, samePath]
      rfl
  · next stale =>
      cases holds : registry.handleOn? name with
      | none => rfl
      | some handle =>
          rw [Option.map_some, Option.getD_some, Host.dispose_of_stale]
          exact fun live => stale (Registry.isLiveOn_standing_iff.2 ⟨handle, holds, live⟩)

include found own in
theorem sameBut_of_vacated
    (hosts : ∀ name, next.hosts.host name = (workspace.vacated id).host name) :
    workspace.hosts.SameBut registry.path next.hosts := by
  constructor
  · intro name other differs
    rw [Hosts.lib?, hosts, host_vacated_of_own found own, Hosts.lib?]
    split
    · exact (Shelf.get?_erase _ _ _).trans (if_neg differs.symm)
    · rfl
  · intro name
    rw [Hosts.accepts, hosts, host_vacated_of_own found own, Hosts.accepts]
    split <;> rfl

end Own

theorem sameBut_of_stored {name path : String} {document : Document}
    (hosts : next.hosts =
      workspace.hosts.set name ((workspace.hosts.host name).stored document path)) :
    workspace.hosts.SameBut path next.hosts := by
  rw [hosts]
  refine .set (fun other differs => ?_) rfl
  rw [Host.get?_stored, if_neg differs.symm, Hosts.lib?]

/-! ### The workspace and the ledger -/

def path? (workspace : Workspace) (id : String) : Option String :=
  (workspace.registries.get? id).map (·.path)

theorem path?_inj (distinct : workspace.DistinctRegistryPaths) {id other path : String}
    (known : workspace.path? id = some path) (rival : workspace.path? other = some path) :
    id = other := by
  obtain ⟨registry, found, rfl⟩ := Option.map_eq_some_iff.1 known
  obtain ⟨kept, keptFound, samePath⟩ := Option.map_eq_some_iff.1 rival
  exact Shelf.name_eq_of_key distinct found keptFound samePath.symm

/-- What a ledger says of a workspace, which began as `base`. -/
structure Ledger.Reflects (ledger : Ledger) (base workspace : Workspace) : Prop where
  path : ∀ id registry, workspace.registries.get? id = some registry →
    base.path? id = some registry.path
  handles : workspace.OwnHandles
  standing : ∀ id, (workspace.registries.get? id).map (·.standing workspace.hosts) =
    (ledger.shares id).standing
  lies : ∀ id path, base.path? id = some path → ∀ name,
    workspace.hosts.document? name path = (ledger.shares id).lies name
  elsewhere : ∀ path, (∀ id, base.path? id ≠ some path) → ∀ name,
    workspace.hosts.document? name path = base.hosts.document? name path
  counts : ∀ name, (workspace.hosts.host name).counts = ledger.counts name
  accepts : ∀ name, workspace.hosts.accepts name = base.hosts.accepts name

def ledger (workspace : Workspace) : Ledger where
  shares id :=
    { standing := (workspace.registries.get? id).map (·.standing workspace.hosts)
      lies := fun name => (workspace.path? id).bind (workspace.hosts.document? name) }
  counts name := (workspace.hosts.host name).counts

namespace Ledger.Reflects

theorem start (own : base.OwnHandles) : base.ledger.Reflects base base where
  path id registry found := by rw [path?, found, Option.map_some]
  handles := own
  standing _ := rfl
  lies id path known name := by simp only [ledger, known, Option.bind_some]
  elsewhere _ _ _ := rfl
  counts _ := rfl
  accepts _ := rfl

variable {ledger : Ledger} (reflects : ledger.Reflects base workspace)
  (distinct : base.DistinctRegistryPaths) {id : String} {registry : Registry}
  (found : workspace.registries.get? id = some registry)

include reflects found in
theorem isLiveOn_eq (name : String) :
    (ledger.shares id).isLiveOn name = (registry.standing workspace.hosts).isLiveOn name := by
  rw [Share.isLiveOn, ← reflects.standing, found, Option.map_some, Option.any_some]

include reflects distinct found

/-- Where nothing changes but one registry and what lies under its path, one share
changes. -/
theorem enter {entry : Entry} {after : Option Registry}
    (sameBut : workspace.hosts.SameBut registry.path next.hosts)
    (registries : ∀ other, next.registries.get? other =
      if id = other then after else workspace.registries.get? other)
    (kept : ∀ left, after = some left → left.path = registry.path ∧
      ∀ handle, left.installed = some handle → handle.path = registry.path)
    (standing : after.map (·.standing next.hosts) = entry.share.standing)
    (lies : ∀ name, next.hosts.document? name registry.path = entry.share.lies name)
    (counts : ∀ name, (next.hosts.host name).counts =
      (workspace.hosts.host name).counts.plus (entry.counts name)) :
    (ledger.enter id entry).Reflects base next := by
  have known := reflects.path id registry found
  have apart {other path : String} (differs : id ≠ other) (rival : base.path? other = some path) :
      path ≠ registry.path := fun same => differs (path?_inj distinct known (same ▸ rival))
  constructor
  case path =>
    intro other left leftFound
    rw [registries] at leftFound
    split at leftFound
    · next same => rw [← same, (kept left leftFound).1, known]
    · exact reflects.path other left leftFound
  case handles =>
    intro other left leftFound handle installed
    rw [registries] at leftFound
    split at leftFound
    · obtain ⟨samePath, own⟩ := kept left leftFound
      rw [own handle installed, samePath]
    · exact reflects.handles other left leftFound handle installed
  case standing =>
    intro other
    rw [registries]
    split
    · next same => rw [← same, shares_enter_self, standing]
    · next differs =>
        rw [shares_enter_other _ (Ne.symm differs), ← reflects.standing]
        cases rivalFound : workspace.registries.get? other with
        | none => rfl
        | some rival =>
            have elsewhere := apart differs (reflects.path other rival rivalFound)
            rw [Option.map_some, Option.map_some, Registry.standing_congr
              (reflects.handles other rival rivalFound)
              fun name => sameBut.lib? name rival.path elsewhere]
  case lies =>
    intro other path rival name
    by_cases same : id = other
    · rw [← same] at rival ⊢
      cases known.symm.trans rival
      rw [lies, shares_enter_self]
    · rw [sameBut.document? (apart same rival), reflects.lies other path rival,
        shares_enter_other _ (Ne.symm same)]
  case elsewhere =>
    intro path free name
    have differs : path ≠ registry.path := fun same => free id (same ▸ known)
    rw [sameBut.document? differs, reflects.elsewhere path free]
  case counts =>
    intro name
    rw [counts, reflects.counts]
    rfl
  case accepts => exact fun name => (sameBut.accepts name).trans (reflects.accepts name)

/-- The registry gives up. -/
theorem leave {attachment : Option (Option String)}
    (registries : ∀ other, next.registries.get? other =
      if id = other then attachment.map fun host => { registry with host, installed := none }
      else workspace.registries.get? other)
    (hosts : ∀ name, next.hosts.host name = (workspace.vacated id).host name) :
    (ledger.enter id ((ledger.shares id).leave attachment)).Reflects base next := by
  have own := reflects.handles id registry found
  have host (name : String) : next.hosts.host name =
      if (ledger.shares id).isLiveOn name then (workspace.hosts.host name).without registry.path
      else workspace.hosts.host name := by
    rw [hosts, host_vacated_of_own found own, reflects.isLiveOn_eq found]
  refine reflects.enter distinct found (sameBut_of_vacated found own hosts) registries ?_ ?_ ?_ ?_
  · intro left isLeft
    obtain ⟨host, -, rfl⟩ := Option.map_eq_some_iff.1 isLeft
    exact ⟨rfl, nofun⟩
  · rw [Option.map_map]
    refine congrArg (attachment.map ·) (funext fun host => ?_)
    cases host <;> rfl
  · intro name
    simp only [Share.leave, Hosts.document?, Hosts.lib?, host]
    split
    · rw [Host.without, Shelf.get?_erase_self, Option.map_none]
    · exact reflects.lies id _ (reflects.path id registry found) name
  · intro name
    simp only [Share.leave, host]
    split <;> rfl

/-- The registry puts a document on its host. -/
theorem store {name : String} (attached : registry.host = some name) (document : Document)
    (registries : ∀ other, next.registries.get? other =
      if id = other then
        some { registry with
          installed := some ⟨(workspace.hosts.host name).lastId + 1, registry.path⟩ }
      else workspace.registries.get? other)
    (hosts : next.hosts =
      workspace.hosts.set name ((workspace.hosts.host name).stored document registry.path)) :
    (ledger.enter id ((ledger.shares id).store name document)).Reflects base next := by
  have lay (other : String) := reflects.lies id _ (reflects.path id registry found) other
  refine reflects.enter distinct found (sameBut_of_stored hosts) registries ?_ ?_ ?_ ?_
  · rintro left ⟨⟩
    exact ⟨rfl, by rintro handle ⟨⟩; rfl⟩
  · simp only [Option.map_some, Share.store, Registry.standing, attached, Option.isSome_some,
      Option.any_some, Host.isLive, hosts, Hosts.host_set, if_true, Host.get?_stored,
      beq_self_eq_true]
  · intro other
    simp only [Share.store, Hosts.document?, hosts, Hosts.lib?_set_stored, and_true]
    split
    · rfl
    · exact lay other
  · intro other
    simp only [Share.store, hosts, Hosts.host_set]
    split
    · next same =>
        have occupied : ((workspace.hosts.host name).libs.contains registry.path) =
            ((ledger.shares id).lies other).isSome := by
          rw [← lay, Hosts.document?, Option.isSome_map, Hosts.lib?, ← same, Shelf.contains]
        rw [← same] at occupied ⊢
        simp only [Host.counts, Host.stored, Counts.plus, occupied, Nat.add_zero]
        split <;> rfl
    · rfl

end Ledger.Reflects

/-! ### Operations of a registry -/

section Known

variable {id : String} {registry : Registry}

theorem onRegistry_of_unknown (absent : workspace.registries.get? id = none)
    (operate : Registry → Hosts → Registry.Outcome) :
    (workspace.onRegistry id operate).workspace = workspace := by
  simp only [onRegistry, absent, refuse]

theorem perform_of_unknown (own : operation.isOwn = true) (isOf : operation.registry? = some id)
    (absent : workspace.registries.get? id = none) :
    (workspace.perform operation).workspace = workspace := by
  cases operation with
  | attach other name => cases isOf; exact onRegistry_of_unknown absent _
  | detach other => cases isOf; exact onRegistry_of_unknown absent _
  | install other content => cases isOf; exact onRegistry_of_unknown absent _
  | disposeRegistry other => cases isOf; exact onRegistry_of_unknown absent _
  | dropRegistry other => cases isOf; simp only [perform, dropRegistry, absent, done]
  | _ => cases own

variable (found : workspace.registries.get? id = some registry)

include found

theorem onRegistry_of_left {operate : Registry → Hosts → Registry.Outcome} {host : Option String}
    (left : (operate registry workspace.hosts).registry = { registry with host, installed := none })
    (hosts : ∀ name, (operate registry workspace.hosts).hosts.host name =
      (registry.dispose workspace.hosts).hosts.host name) :
    let next := (workspace.onRegistry id operate).workspace
    (∀ other, next.registries.get? other =
      if id = other then some { registry with host, installed := none }
      else workspace.registries.get? other) ∧
    ∀ name, next.hosts.host name = (workspace.vacated id).host name := by
  simp only [onRegistry, found, afterRegistry, left, Shelf.get?_insert, implies_true, true_and]
  exact fun name => vacated_of_known found ▸ hosts name

/-- An operation that stores nothing gives up, and says where the registry is then. -/
theorem perform_of_unstored (own : operation.isOwn = true) (isOf : operation.registry? = some id)
    (stores : operation.stored? workspace.hosts.accepts registry.host = none) :
    let next := (workspace.perform operation).workspace
    (∀ other, next.registries.get? other =
      if id = other then
        (operation.attachment? registry.host).map fun host =>
          { registry with host, installed := none }
      else workspace.registries.get? other) ∧
    ∀ name, next.hosts.host name = (workspace.vacated id).host name := by
  cases operation with
  | attach other name =>
      cases isOf
      refine onRegistry_of_left found (Registry.registry_attach _ _ _) fun here => ?_
      simp only [Registry.attach, Registry.host_dispose, Hosts.host_touch]
  | detach other =>
      cases isOf
      exact onRegistry_of_left found (Registry.registry_detach _ _) fun _ => rfl
  | install other content =>
      cases isOf
      have refused : registry.host.any workspace.hosts.accepts = false := by
        cases attached : registry.host with
        | none => rfl
        | some name => simpa [Operation.stored?, attached] using stores
      obtain ⟨after, left⟩ := Registry.install_of_refused refused content.document
      exact onRegistry_of_left found after fun _ => by rw [left]
  | disposeRegistry other =>
      cases isOf
      exact onRegistry_of_left found (Registry.registry_dispose _ _) fun _ => rfl
  | dropRegistry other =>
      cases isOf
      exact ⟨registries_dropRegistry workspace id, fun _ => by
        simp only [perform, hosts_dropRegistry]⟩
  | _ => cases own

/-- An install that is accepted is a disposal, and then the document is put there. -/
theorem perform_of_stored {name : String} (content : Content)
    (attached : registry.host = some name) (accepted : workspace.hosts.accepts name = true) :
    let left := (workspace.perform (.disposeRegistry id)).workspace
    let next := (workspace.perform (.install id content)).workspace
    (∀ other, next.registries.get? other =
      if id = other then
        some { registry with installed := some ⟨(left.hosts.host name).lastId + 1, registry.path⟩ }
      else left.registries.get? other) ∧
    next.hosts =
      left.hosts.set name ((left.hosts.host name).stored content.document registry.path) := by
  obtain ⟨after, put⟩ := Registry.install_of_accepted attached accepted content.document
  simp only [perform, onRegistry, found, afterRegistry, Shelf.get?_insert, after, put, and_true]
  intro other
  split <;> rfl

end Known

theorem install_of_stored {accepts : String → Bool} {host : Option String} {name : String}
    {document : Document} (stores : operation.stored? accepts host = some (name, document)) :
    ∃ id content, operation = .install id content ∧ host = some name ∧ accepts name = true ∧
      content.document = document := by
  unfold Operation.stored? at stores
  split at stores
  · next id content here =>
      split at stores
      · next accepted =>
          cases stores
          exact ⟨id, content, rfl, rfl, accepted, rfl⟩
      · cases stores
  · cases stores

namespace Ledger.Reflects

variable {ledger : Ledger}

/-- A step of the workspace is an entry in the ledger. -/
theorem perform (reflects : ledger.Reflects base workspace) (distinct : base.DistinctRegistryPaths)
    (own : operation.isOwn = true) : (ledger.post base.hosts.accepts operation).Reflects base
      (workspace.perform operation).workspace := by
  obtain ⟨id, isOf⟩ := Operation.registry?_of_isOwn own
  have accepts : base.hosts.accepts = workspace.hosts.accepts :=
    funext fun name => (reflects.accepts name).symm
  rw [post_of_registry _ _ isOf, Share.act, ← reflects.standing, accepts]
  cases found : workspace.registries.get? id with
  | none =>
      rw [perform_of_unknown own isOf found]
      exact (ledger.enter_nothing id).symm ▸ reflects
  | some registry =>
      simp only [Option.map_some, Registry.standing]
      cases stores : operation.stored? workspace.hosts.accepts registry.host with
      | none =>
          obtain ⟨registries, hosts⟩ := perform_of_unstored found own isOf stores
          exact reflects.leave distinct found registries hosts
      | some stored =>
          obtain ⟨name, document⟩ := stored
          obtain ⟨_, content, rfl, attached, accepted, rfl⟩ := install_of_stored stores
          cases isOf
          -- the registry gives up first, as if it were told to dispose
          have disposes : (Operation.disposeRegistry id).isOwn = true := rfl
          obtain ⟨registries, hosts⟩ := perform_of_unstored found disposes rfl rfl
          have left := reflects.leave distinct found registries hosts
          obtain ⟨put, putHosts⟩ := perform_of_stored found content attached accepted
          have uninstalled : (workspace.perform (.disposeRegistry id)).workspace.registries.get?
              id = some { registry with installed := none } := by
            rw [registries, if_pos rfl]
            rfl
          have stored := left.store distinct uninstalled attached content.document put putHosts
          rw [shares_enter_self] at stored
          exact (ledger.enter_andThen id _ _).symm ▸ stored

theorem run (reflects : ledger.Reflects base workspace) (distinct : base.DistinctRegistryPaths)
    {operations : List Operation} (own : ∀ operation ∈ operations, operation.isOwn = true) :
    (ledger.posted base.hosts.accepts operations).Reflects base (workspace.run operations) := by
  induction operations generalizing ledger workspace with
  | nil => exact reflects
  | cons operation rest ih =>
      exact ih (reflects.perform distinct (own operation List.mem_cons_self))
        fun other member => own other (List.mem_cons_of_mem _ member)

end Ledger.Reflects

end Workspace

end LiveScope
