/- # LiveScope.Proofs.Registration.Step — what one operation on registries does

An operation on registries takes one of three kinds of step (`Step`): it leaves
registries and documents alone; or one registry gives up and is left without a
handle; or it gives up and then puts a document on its host, under a new handle.
`step_perform` is the one place where the operations are gone through.

Of any step it is said which registries stay as they are (`registries_other`), what
stays true of the hosts (`keeps`), where a handle comes from (`handleOn?_cases`)
and where a document comes from (`lib?_cases`).
-/
import LiveScope.Proofs.Registration.Holding

namespace LiveScope.Workspace

set_option autoImplicit false

variable {workspace next : Workspace} {operation : Operation}

/-! ### Steps -/

/-- Operations on registries and on the readiness of hosts, and those that only
look. -/
def Operation.isForRegistries : Operation → Bool
  | .bindScope _ _ | .rejectAt _ _ | .readAt _ _ | .settingsOf _ | .allocatePath => true
  | .makeRegistry _ _ | .attach _ _ | .detach _ | .install _ _ => true
  | .disposeRegistry _ | .dropRegistry _ | .describeRegistry _ => true
  | .addAt _ _ _ _ | .disposeAt _ _ | .makeEditor _ _ _ _ | .mount _ _ | .update _ _ => false
  | .edit _ _ | .command _ _ | .setOnCommit _ _ | .unmount _ | .dropEditor _ => false
  | .readDocument _ => false

/-- The registry that an operation is carried out on. -/
def Operation.registry? : Operation → Option String
  | .makeRegistry id _ | .attach id _ | .detach id | .install id _ => some id
  | .disposeRegistry id | .dropRegistry id | .describeRegistry id => some id
  | _ => none

/-- What an operation makes of the registries and the hosts. -/
inductive Step (workspace : Workspace) (operation : Operation) (next : Workspace) : Prop where
  /-- Registries and documents stay as they are. -/
  | rests
      (registries : next.registries = workspace.registries)
      (unknown : ∀ id content, operation = .install id content →
        workspace.registries.get? id = none)
      (hosts : ∀ name, ∃ rejecting,
        next.hosts.host name = (workspace.hosts.host name).setRejecting rejecting)
  /-- The registry `id` gives up, and is left without a handle or not at all. -/
  | leaves (id : String)
      (own : operation.registry? = some id)
      (others : ∀ other, other ≠ id →
        next.registries.get? other = workspace.registries.get? other)
      (uninstalled : ∀ registry, next.registries.get? id = some registry →
        registry.installed = none)
      (hosts : ∀ name, next.hosts.host name = (workspace.vacated id).host name)
  /-- The registry `id` gives up, and its host accepts a document. -/
  | installs (id name : String) (content : Content) (registry : Registry)
      (own : operation = .install id content)
      (found : workspace.registries.get? id = some registry)
      (attached : registry.host = some name)
      (accepts : workspace.hosts.accepts name = true)
      (registries : next.registries = workspace.registries.insert id
        { registry with
          installed := some ⟨(workspace.hosts.host name).lastId + 1, registry.path⟩ })
      (hosts : next.hosts = (workspace.vacated id).set name
        (((workspace.vacated id).host name).stored content.document registry.path))

/-- An operation that leaves a registry without a handle. -/
theorem step_onRegistry {id : String} (own : operation.registry? = some id)
    {operate : Registry → Hosts → Registry.Outcome}
    (uninstalled : ∀ registry hosts, (operate registry hosts).registry.installed = none)
    (hosts : ∀ registry name, (operate registry workspace.hosts).hosts.host name =
      (registry.dispose workspace.hosts).hosts.host name) :
    workspace.Step operation (workspace.onRegistry id operate).workspace := by
  unfold onRegistry
  split
  · next absent =>
      refine .rests rfl (fun other content isInstall => ?_) fun name => ⟨_, rfl⟩
      have same : other = id := Option.some.inj (by rw [isInstall] at own; exact own)
      exact same ▸ absent
  · next registry found =>
      refine .leaves id own ?_ ?_ ?_
      · intro other differs
        simp only [afterRegistry, Shelf.get?_insert, Ne.symm differs, if_false]
      · intro after afterFound
        simp only [afterRegistry, Shelf.get?_insert_self, Option.some.injEq] at afterFound
        rw [← afterFound, uninstalled]
      · intro name
        rw [vacated_of_known found]
        exact hosts registry name

theorem hosts_dropRegistry (workspace : Workspace) (id : String) :
    (workspace.dropRegistry id).workspace.hosts = workspace.vacated id := by
  unfold dropRegistry
  split
  · next absent => exact (vacated_of_unknown absent).symm
  · next registry found => exact (vacated_of_known found).symm

theorem registries_dropRegistry (workspace : Workspace) (id other : String) :
    (workspace.dropRegistry id).workspace.registries.get? other =
      if id = other then none else workspace.registries.get? other := by
  unfold dropRegistry
  split
  · next absent =>
      split
      · next same => exact same ▸ absent
      · rfl
  · exact Shelf.get?_erase _ _ _

theorem step_dropRegistry (workspace : Workspace) (id : String) :
    workspace.Step (.dropRegistry id) (workspace.dropRegistry id).workspace := by
  refine .leaves id rfl ?_ ?_ fun name => by rw [hosts_dropRegistry]
  · intro other differs
    rw [registries_dropRegistry, if_neg (Ne.symm differs)]
  · intro registry found
    rw [registries_dropRegistry, if_pos rfl] at found
    cases found

/-- A registry that is made takes the place of one of the same name. -/
theorem step_makeRegistry (workspace : Workspace) (id : String) (path : Option String) :
    workspace.Step (.makeRegistry id path) (workspace.makeRegistry id path).workspace := by
  have registries : (workspace.choosePath path).2.registries = workspace.registries := by
    cases path <;> rfl
  have hosts : (workspace.choosePath path).2.vacated id = workspace.vacated id := by
    cases path <;> rfl
  refine .leaves id rfl ?_ ?_ ?_
  · intro other differs
    simp only [makeRegistry, Shelf.get?_insert, registries_dropRegistry, Ne.symm differs,
      if_false, registries]
  · intro registry found
    simp only [makeRegistry, Shelf.get?_insert_self, Option.some.injEq] at found
    rw [← found]
  · intro name
    simp only [makeRegistry, hosts_dropRegistry, hosts]

theorem step_install (workspace : Workspace) (id : String) (content : Content) :
    workspace.Step (.install id content) (workspace.perform (.install id content)).workspace := by
  simp only [perform, onRegistry]
  split
  · next absent =>
      refine .rests rfl (fun other content isInstall => ?_) fun name => ⟨_, rfl⟩
      cases isInstall
      exact absent
  · next registry found =>
      cases accepts : registry.host.any workspace.hosts.accepts with
      | false =>
          obtain ⟨after, left⟩ := Registry.install_of_refused accepts content.document
          refine .leaves id rfl ?_ ?_ ?_
          · intro other differs
            simp only [afterRegistry, Shelf.get?_insert, Ne.symm differs, if_false]
          · intro kept keptFound
            simp only [afterRegistry, Shelf.get?_insert_self, Option.some.injEq] at keptFound
            rw [← keptFound, after]
          · intro name
            simp only [afterRegistry, left, vacated_of_known found]
      | true =>
          obtain ⟨name, attached, accepted⟩ := (Option.any_eq_true _ _).1 accepts
          obtain ⟨after, left⟩ := Registry.install_of_accepted attached accepted content.document
          refine .installs id name content registry rfl found attached accepted ?_ ?_
          · simp only [afterRegistry, after, ← vacated_of_known found, lastId_vacated]
          · simp only [afterRegistry, left, vacated_of_known found]

theorem perform_describeRegistry (workspace : Workspace) (id : String) :
    (workspace.perform (.describeRegistry id)).workspace = workspace := by
  simp only [perform]
  split <;> rfl

theorem step_perform (workspace : Workspace) (operation : Operation)
    (forRegistries : operation.isForRegistries = true) :
    workspace.Step operation (workspace.perform operation).workspace := by
  have rests (notInstall : ∀ id content, operation ≠ .install id content)
      (registries : (workspace.perform operation).workspace.registries = workspace.registries)
      (hosts : ∀ name, ∃ rejecting, (workspace.perform operation).workspace.hosts.host name =
        (workspace.hosts.host name).setRejecting rejecting) :
      workspace.Step operation (workspace.perform operation).workspace :=
    .rests registries (fun id content install => absurd install (notInstall id content)) hosts
  cases operation with
  | bindScope name scope => exact rests (by simp) rfl fun _ => ⟨_, rfl⟩
  | rejectAt name rejecting =>
      refine rests (by simp) rfl fun other => ?_
      simp only [perform, done, Hosts.host_set]
      split
      · next same => exact ⟨rejecting, by rw [same]⟩
      · exact ⟨_, rfl⟩
  | readAt name path => exact rests (by simp) rfl fun other => ⟨_, Hosts.host_touch _ name other⟩
  | settingsOf name => exact rests (by simp) rfl fun other => ⟨_, Hosts.host_touch _ name other⟩
  | allocatePath => exact rests (by simp) rfl fun _ => ⟨_, rfl⟩
  | makeRegistry id path => exact workspace.step_makeRegistry id path
  | attach id name =>
      refine step_onRegistry rfl (fun registry hosts => by rw [Registry.registry_attach]) ?_
      intro registry other
      simp only [Registry.attach, Registry.host_dispose, Hosts.host_touch]
  | detach id =>
      exact step_onRegistry rfl (fun registry hosts => by rw [Registry.registry_detach])
        fun _ _ => rfl
  | install id content => exact workspace.step_install id content
  | disposeRegistry id =>
      exact step_onRegistry rfl (fun registry hosts => by rw [Registry.registry_dispose])
        fun _ _ => rfl
  | dropRegistry id => exact workspace.step_dropRegistry id
  | describeRegistry id =>
      have same := workspace.perform_describeRegistry id
      exact rests (by simp) (by rw [same]) fun _ => ⟨_, by rw [same]; rfl⟩
  | addAt host path content keepAs => cases forRegistries
  | disposeAt host handle => cases forRegistries
  | makeEditor id props config onCommit => cases forRegistries
  | mount id host => cases forRegistries
  | update id props => cases forRegistries
  | edit id text => cases forRegistries
  | command id chord => cases forRegistries
  | setOnCommit id label => cases forRegistries
  | unmount id => cases forRegistries
  | dropEditor id => cases forRegistries
  | readDocument id => cases forRegistries

/-! ### What a step keeps -/

namespace Step

variable {name path : String}

/-- A step on one registry leaves the others alone. -/
theorem registries_other (step : workspace.Step operation next) {other : String}
    (differs : operation.registry? ≠ some other) :
    next.registries.get? other = workspace.registries.get? other := by
  cases step with
  | rests registries unknown hosts => rw [registries]
  | leaves id own others uninstalled hosts =>
      exact others other fun same => differs (same ▸ own)
  | installs id name content registry own found attached accepts registries hosts =>
      have apart : id ≠ other := fun same => differs (by rw [own, same]; rfl)
      rw [registries, Shelf.get?_insert, if_neg apart]

/-- What disposing, storing and the readiness to accept keep of every host, a step
keeps. -/
theorem keeps (step : workspace.Step operation next) {P : String → Host → Prop}
    (setRejecting : ∀ name host rejecting, P name host → P name (host.setRejecting rejecting))
    (dispose : ∀ name host handle, P name host → P name (host.dispose handle))
    (stored : ∀ name host document path, P name host → P name (host.stored document path))
    (before : ∀ name, P name (workspace.hosts.host name)) (name : String) :
    P name (next.hosts.host name) := by
  have left (id here : String) : P here ((workspace.vacated id).host here) :=
    keeps_vacated (dispose here) id here (before here)
  cases step with
  | rests registries unknown hosts =>
      obtain ⟨rejecting, same⟩ := hosts name
      exact same ▸ setRejecting name _ rejecting (before name)
  | leaves id own others uninstalled hosts => exact hosts name ▸ left id name
  | installs id here content registry own found attached accepts registries hosts =>
      rw [hosts, Hosts.host_set]
      split
      · next same => exact same ▸ stored here _ _ _ (left id here)
      · exact left id name

theorem lastId_le (step : workspace.Step operation next) (name : String) :
    (workspace.hosts.host name).lastId ≤ (next.hosts.host name).lastId :=
  step.keeps (P := fun name host => (workspace.hosts.host name).lastId ≤ host.lastId)
    (fun _ _ _ below => below) (fun _ _ _ below => by rwa [Host.lastId_dispose])
    (fun _ _ _ _ below => Nat.le_succ_of_le below) (fun _ => Nat.le_refl _) name

/-- A handle that a registry has after a step is an old one, or newer than all
that the host had given out. -/
theorem handleOn?_cases (step : workspace.Step operation next) {id : String} {handle : Handle}
    (has : next.handleOn? id name = some handle) :
    workspace.handleOn? id name = some handle ∨
      (operation.registry? = some id ∧ (workspace.hosts.host name).lastId < handle.id ∧
        handle.id ≤ (next.hosts.host name).lastId) := by
  by_cases own : operation.registry? = some id
  · obtain ⟨kept, keptFound, keptAttached, keptInstalled⟩ := handleOn?_eq_some_iff.1 has
    cases step with
    | rests registries unknown hosts => exact .inl (by rwa [← handleOn?_congr (by rw [registries])])
    | leaves other otherOwn others uninstalled hosts =>
        have same : other = id := Option.some.inj (otherOwn.symm.trans own)
        subst same
        rw [uninstalled kept keptFound] at keptInstalled
        cases keptInstalled
    | installs other here content registry isInstall found attached accepts registries hosts =>
        have same : other = id := Option.some.inj (by rw [isInstall] at own; exact own)
        subst same
        rw [registries, Shelf.get?_insert_self, Option.some.injEq] at keptFound
        subst keptFound
        have sameHost : here = name := Option.some.inj (attached.symm.trans keptAttached)
        subst sameHost
        cases keptInstalled
        refine .inr ⟨own, Nat.lt_succ_self _, Nat.le_of_eq ?_⟩
        rw [hosts, Hosts.host_set, if_pos rfl, Host.lastId_stored, lastId_vacated]
  · exact .inl (by rwa [← handleOn?_congr (step.registries_other own)])

/-- Who installs a document owns it. -/
theorem owns_of_installs {id : String} {document : Document} {registry : Registry}
    (attached : registry.host = some name)
    (registries : next.registries = workspace.registries.insert id { registry with
      installed := some ⟨(workspace.hosts.host name).lastId + 1, registry.path⟩ })
    (hosts : next.hosts = (workspace.vacated id).set name
      (((workspace.vacated id).host name).stored document registry.path)) :
    next.Owns id name registry.path ⟨(workspace.hosts.host name).lastId + 1, document⟩ := by
  have kept := Shelf.get?_insert_self workspace.registries id { registry with
    installed := some ⟨(workspace.hosts.host name).lastId + 1, registry.path⟩ }
  rw [← registries] at kept
  refine ⟨?_, _, kept, attached, rfl⟩
  rw [hosts, Hosts.lib?_set_stored, if_pos ⟨rfl, rfl⟩, lastId_vacated]

/-- What lies on a host after a step has a holder, or lay there before and the
registry that held it holds it still. -/
theorem lib?_cases (step : workspace.Step operation next) {lib : Lib}
    (found : next.hosts.lib? name path = some lib) :
    (∃ id, next.handleOn? id name = some ⟨lib.id, path⟩) ∨
      (workspace.hosts.lib? name path = some lib ∧
        ∀ id, workspace.handleOn? id name = some ⟨lib.id, path⟩ →
          next.handleOn? id name = some ⟨lib.id, path⟩) := by
  have others (id : String) (given : workspace.handleOn? id name ≠ some ⟨lib.id, path⟩)
      (differs : ∀ other, other ≠ id → operation.registry? ≠ some other) (other : String)
      (holds : workspace.handleOn? other name = some ⟨lib.id, path⟩) :
      next.handleOn? other name = some ⟨lib.id, path⟩ := by
    have apart : other ≠ id := fun same => given (same ▸ holds)
    rw [handleOn?_congr (step.registries_other (differs other apart)), holds]
  cases step with
  | rests registries unknown hosts =>
      obtain ⟨rejecting, same⟩ := hosts name
      rw [Hosts.lib?, same] at found
      exact .inr ⟨found, fun id holds =>
        (handleOn?_congr (by rw [registries]) name).trans holds⟩
  | leaves id own _ uninstalled hosts =>
      rw [Hosts.lib?, hosts, ← Hosts.lib?, lib?_vacated] at found
      refine .inr ⟨found.1, others id found.2 fun other differs same => differs ?_⟩
      exact Option.some.inj (same.symm.trans own)
  | installs id here content registry own known attached accepts registries hosts =>
      rw [hosts, Hosts.lib?_set_stored, lastId_vacated] at found
      split at found
      · next same =>
          obtain ⟨rfl, rfl⟩ := same
          cases found
          have owns := owns_of_installs attached registries hosts
          exact .inl ⟨id, (owns_iff.1 owns).2⟩
      · rw [lib?_vacated] at found
        refine .inr ⟨found.1, others id found.2 fun other differs same => differs ?_⟩
        rw [own] at same
        exact (Option.some.inj same).symm

end Step

end LiveScope.Workspace
