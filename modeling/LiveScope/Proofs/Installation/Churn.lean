/- # LiveScope.Proofs.Installation.Churn — how often an editor stirs its host

An editor that has a host for itself, one that accepts, asks it for as little as it can:
each mount and each update that redeclares (`Editor.redeclares`) adds one document, what
was installed before is disposed first, and nothing else reaches the host.

An operation takes one of three turns (`Churn`): it leaves the host alone; or it adds one
document and disposes the one that was installed, if the editor was mounted; or it takes
a mounted editor off and disposes its document.
`churn_perform` is the one place where the operations are gone through, and `Tended` is
what one operation keeps. The counts of a run are read from it (`churn_run`).
-/
import LiveScope.Proofs.Installation.Counting

namespace LiveScope

set_option autoImplicit false

namespace Workspace

/-! ### Operations on one editor -/

/-- Operations on the editor `id`, which is mounted on `host` alone, on scopes and paths,
and those that only look. -/
def Operation.isSolo (id host : String) : Operation → Bool
  | .bindScope _ _ | .readAt _ _ | .settingsOf _ | .allocatePath | .readDocument _ => true
  | .mount name on => name == id && on == host
  | .makeEditor name _ _ _ | .update name _ | .edit name _ | .command name _ => name == id
  | .setOnCommit name _ | .unmount name | .dropEditor name => name == id
  | .rejectAt _ _ | .addAt _ _ _ _ | .disposeAt _ _ | .makeRegistry _ _ | .attach _ _ => false
  | .detach _ | .install _ _ | .disposeRegistry _ | .dropRegistry _ => false
  | .describeRegistry _ => false

/-- The document that an update makes the editor `id` put in the place of another. -/
def redeclaration? (id : String) (workspace : Workspace) : Operation → Option Document
  | .update name request =>
      if name = id then
        match workspace.editors.get? id, workspace.findProps request with
        | some editor, some props =>
            if editor.redeclares props then
              some (Document.ofScope editor.options props.scope.scope)
            else none
        | _, _ => none
      else none
  | _ => none

def isMounted (workspace : Workspace) (id : String) : Bool :=
  (workspace.editors.get? id).any Editor.isMounted

/-- Does the operation take the editor `id` off, and is it mounted? -/
def takesOff (id : String) (workspace : Workspace) : Operation → Bool
  | .unmount name | .dropEditor name | .makeEditor name _ _ _ =>
      name == id && workspace.isMounted id
  | _ => false

variable {workspace : Workspace} {id host : String} {operation : Operation}

theorem Operation.isForEditors_of_isSolo (solo : operation.isSolo id host = true) :
    operation.isForEditors = true := by
  cases operation <;> first | rfl | cases solo

theorem isMounted_of_found {editor : Editor} (found : workspace.editors.get? id = some editor) :
    workspace.isMounted id = editor.isMounted := by
  rw [isMounted, found, Option.any_some]

theorem isMounted_of_takesOff (own : takesOff id workspace operation = true) :
    workspace.isMounted id = true := by
  unfold takesOff at own
  split at own
  · exact (Bool.and_eq_true_iff.1 own).2
  · exact (Bool.and_eq_true_iff.1 own).2
  · exact (Bool.and_eq_true_iff.1 own).2
  · cases own

theorem isMounted_afterEditor (answer : Answer) (outcome : Editor.Outcome) :
    (workspace.afterEditor id answer outcome).workspace.isMounted id =
      outcome.editor.isMounted := by
  rw [isMounted, afterEditor, Shelf.get?_insert_self, Option.any_some]

theorem isMounted_of_editors {next : Workspace} (same : next.editors = workspace.editors)
    (id : String) : next.isMounted id = workspace.isMounted id := by
  rw [isMounted, same, isMounted]

/-- What an operation makes of the host and of the mount of its one user. -/
inductive Churn (id host : String) (workspace : Workspace) (operation : Operation)
    (reply : Reply) : Prop where
  /-- The host is asked for nothing. -/
  | rests
      (unmoved : hostOfMount? id workspace operation = none)
      (undeclared : redeclaration? id workspace operation = none)
      (stays : reply.workspace.isMounted id = workspace.isMounted id)
      (hosts : reply.workspace.hosts.host host = workspace.hosts.host host)
      (quiet : hostRequests reply.effects = [])
  /-- A mount or a redeclaration puts a document there, in the place of the one that was
  there if the editor was mounted. -/
  | installs
      (one : (hostOfMount? id workspace operation).toList.length +
        (redeclaration? id workspace operation).toList.length = 1)
      (mounted : reply.workspace.isMounted id = true)
      (counted : Host.Counted (workspace.hosts.host host) (reply.workspace.hosts.host host) 1
        (workspace.isMounted id).toNat)
  /-- The editor goes and gives up its document. -/
  | leaves
      (unmoved : hostOfMount? id workspace operation = none)
      (undeclared : redeclaration? id workspace operation = none)
      (own : takesOff id workspace operation = true)
      (unmounted : reply.workspace.isMounted id = false)
      (counted : Host.Counted (workspace.hosts.host host) (reply.workspace.hosts.host host) 0 1)

/-- The state of a workspace in which the editor `id` is the only one and `host`, which
accepts, has counted what it added and disposed. -/
structure Tended (workspace : Workspace) (id host : String) : Prop where
  sound : workspace.Sound (fun _ => some host) (fun _ => some true)
  alone : ∀ other editor, workspace.editors.get? other = some editor → other = id
  accepts : workspace.hosts.accepts host = true
  replaced : (workspace.hosts.host host).replaced = 0
  balanced : (workspace.hosts.host host).added =
    (workspace.hosts.host host).disposed + (workspace.isMounted id).toNat

/-! ### The turn of each operation -/

/-- An operation that leaves the editors and the host as they are. -/
theorem Churn.of_same {reply : Reply} (unmoved : hostOfMount? id workspace operation = none)
    (undeclared : redeclaration? id workspace operation = none)
    (editors : reply.workspace.editors = workspace.editors)
    (hosts : reply.workspace.hosts.host host = workspace.hosts.host host)
    (quiet : hostRequests reply.effects = []) : Churn id host workspace operation reply :=
  .rests unmoved undeclared (isMounted_of_editors editors id) hosts quiet

/-- An operation on the editor that leaves the hosts as they are. -/
theorem Churn.of_quiet {editor : Editor} (unmoved : hostOfMount? id workspace operation = none)
    (undeclared : redeclaration? id workspace operation = none)
    (found : workspace.editors.get? id = some editor) (answer : Answer)
    {outcome : Editor.Outcome} (stays : outcome.editor.isMounted = editor.isMounted)
    (hosts : outcome.hosts = workspace.hosts) (quiet : hostRequests outcome.effects = []) :
    Churn id host workspace operation (workspace.afterEditor id answer outcome) := by
  refine .rests unmoved undeclared ?_ (congrArg (Hosts.host · host) hosts) quiet
  rw [isMounted_afterEditor, stays, isMounted_of_found found]

namespace Tended

variable (tended : workspace.Tended id host)
include tended

theorem current {editor : Editor} (found : workspace.editors.get? id = some editor) :
    editor.Current (some host) (some true) workspace.hosts :=
  tended.sound.editors id editor found

theorem churn_mount : Churn id host workspace (.mount id host) (workspace.mount id host) := by
  cases found : workspace.editors.get? id with
  | none =>
      have unmoved : hostOfMount? id workspace (.mount id host) = none := by
        simp [hostOfMount?, Shelf.contains, found]
      simp only [mount, found]
      exact .of_same unmoved rfl rfl rfl rfl
  | some editor =>
      have moved : hostOfMount? id workspace (.mount id host) = some host := by
        simp [hostOfMount?, Shelf.contains, found]
      have counted := (tended.current found).counted_mount tended.accepts (workspace.surfaces + 1)
      rw [mount_of_found found]
      refine .installs (by rw [moved]; rfl) ?_ ?_
      · rw [isMounted_afterEditor]
        rfl
      · rw [isMounted_of_found found]
        exact counted

theorem churn_update (request : PropsRequest) :
    Churn id host workspace (.update id request) (workspace.update id request) := by
  cases found : workspace.editors.get? id with
  | none =>
      simp only [update, found]
      exact .of_same rfl (by simp [redeclaration?, found]) rfl rfl rfl
  | some editor =>
      cases known : workspace.findProps request with
      | none =>
          simp only [update, found, known]
          exact .of_same rfl (by simp [redeclaration?, known]) rfl rfl rfl
      | some props =>
          have current := tended.current found
          rw [update_of_known found known]
          cases redeclares : editor.redeclares props with
          | false =>
              obtain ⟨hosts, quiet⟩ := current.quiet_update redeclares
              exact .of_quiet rfl (by simp [redeclaration?, found, known, redeclares]) found _
                (editor.isMounted_update props _) hosts quiet
          | true =>
              have mounted : editor.isMounted = true := by
                simp only [Editor.redeclares, Bool.and_eq_true] at redeclares
                exact redeclares.1.1
              refine .installs ?_ ?_ ?_
              · simp [hostOfMount?, redeclaration?, found, known, redeclares]
              · rw [isMounted_afterEditor, Editor.isMounted_update, mounted]
              · rw [isMounted_of_found found, mounted]
                exact current.counted_update tended.accepts redeclares

theorem churn_unmount :
    Churn id host workspace (.unmount id) (workspace.onEditor id Editor.unmount) := by
  cases found : workspace.editors.get? id with
  | none =>
      simp only [onEditor, found]
      exact .of_same rfl rfl rfl rfl rfl
  | some editor =>
      have counted := (tended.current found).counted_unmount
      rw [onEditor_of_found found]
      cases mounted : editor.mounted with
      | none =>
          have same : editor.unmount workspace.hosts = ⟨editor, workspace.hosts, []⟩ := by
            simp only [Editor.unmount, mounted]
          rw [same]
          exact .of_quiet rfl rfl found _ rfl rfl rfl
      | some here =>
          have isMounted : editor.isMounted = true := by rw [Editor.isMounted, mounted]; rfl
          rw [isMounted] at counted
          refine .leaves rfl rfl ?_ ?_ counted
          · rw [takesOff, isMounted_of_found found, isMounted, beq_self_eq_true]
            rfl
          · rw [isMounted_afterEditor, Editor.isMounted_unmount]

/-- Where the editor is dropped, whether another takes its place or not. -/
theorem churn_drop {reply : Reply} (unmoved : hostOfMount? id workspace operation = none)
    (undeclared : redeclaration? id workspace operation = none)
    (own : takesOff id workspace operation = workspace.isMounted id)
    (unmounted : reply.workspace.isMounted id = false)
    (hosts : reply.workspace.hosts = (workspace.dropEditor id).workspace.hosts)
    (requests : hostRequests reply.effects = hostRequests (workspace.dropEditor id).effects) :
    Churn id host workspace operation reply := by
  cases found : workspace.editors.get? id with
  | none =>
      have absent : workspace.isMounted id = false := by rw [isMounted, found, Option.any_none]
      simp only [dropEditor, found] at hosts requests
      exact .rests unmoved undeclared (unmounted.trans absent.symm)
        (congrArg (Hosts.host · host) hosts) requests
  | some editor =>
      have current := tended.current found
      have same := isMounted_of_found found
      simp only [dropEditor, found] at hosts requests
      cases mounted : editor.isMounted with
      | false =>
          obtain ⟨sameHosts, silent⟩ := current.quiet_drop mounted
          rw [sameHosts] at hosts
          rw [silent] at requests
          exact .rests unmoved undeclared (unmounted.trans (same.trans mounted).symm)
            (congrArg (Hosts.host · host) hosts) requests
      | true =>
          have counted := current.counted_dispose
          rw [mounted] at counted
          refine .leaves unmoved undeclared (own.trans (same.trans mounted)) unmounted ?_
          rw [hosts]
          exact counted

theorem churn_makeEditor (request : PropsRequest) (config : EditorConfig)
    (onCommit : Option String) :
    Churn id host workspace (.makeEditor id request config onCommit)
      (workspace.makeEditor id request config onCommit) := by
  have dropped : ((workspace.choosePath config.path).2.dropEditor id).workspace.hosts =
      (workspace.dropEditor id).workspace.hosts ∧
      ((workspace.choosePath config.path).2.dropEditor id).effects =
        (workspace.dropEditor id).effects := by
    cases config.path with
    | some path => exact ⟨rfl, rfl⟩
    | none =>
        simp only [choosePath, allocatePath, dropEditor]
        split <;> exact ⟨rfl, rfl⟩
  unfold makeEditor
  split
  · exact .of_same rfl rfl rfl rfl rfl
  · refine tended.churn_drop rfl rfl (by simp [takesOff]) ?_ dropped.1 ?_
    · rw [isMounted, Shelf.get?_insert_self]
      rfl
    · simp only [hostRequests_append, hostRequests_scopeLog, dropped.2, List.nil_append]

theorem churn_perform (solo : operation.isSolo id host = true) :
    Churn id host workspace operation (workspace.perform operation) := by
  cases operation with
  | bindScope name scope => exact .of_same rfl rfl rfl rfl rfl
  | readAt name path => exact .of_same rfl rfl rfl (Hosts.host_touch _ name host) rfl
  | settingsOf name => exact .of_same rfl rfl rfl (Hosts.host_touch _ name host) rfl
  | allocatePath => exact .of_same rfl rfl rfl rfl rfl
  | readDocument name =>
      simp only [perform]
      split <;> exact .of_same rfl rfl rfl rfl rfl
  | makeEditor name request config onCommit =>
      cases eq_of_beq solo
      exact tended.churn_makeEditor request config onCommit
  | mount name on =>
      simp only [Operation.isSolo, Bool.and_eq_true, beq_iff_eq] at solo
      obtain ⟨rfl, rfl⟩ := solo
      exact tended.churn_mount
  | update name request =>
      cases eq_of_beq solo
      exact tended.churn_update request
  | edit name text =>
      cases eq_of_beq solo
      simp only [perform, onEditor]
      split
      · exact .of_same rfl rfl rfl rfl rfl
      · next editor found =>
          exact .of_quiet rfl rfl found _ (by simp [Editor.handleEdit, Editor.isMounted]) rfl rfl
  | command name chord =>
      cases eq_of_beq solo
      simp only [perform, command]
      split
      · exact .of_same rfl rfl rfl rfl rfl
      · next editor found =>
          refine .of_quiet rfl rfl found _ rfl rfl ?_
          simp only [Editor.handleCommand]
          split
          · cases editor.onCommit <;> rfl
          · rfl
  | setOnCommit name label =>
      cases eq_of_beq solo
      simp only [perform, onEditor]
      split
      · exact .of_same rfl rfl rfl rfl rfl
      · next editor found => exact .of_quiet rfl rfl found _ rfl rfl rfl
  | unmount name =>
      cases eq_of_beq solo
      exact tended.churn_unmount
  | dropEditor name =>
      cases eq_of_beq solo
      refine tended.churn_drop rfl rfl (by simp [takesOff]) ?_ rfl rfl
      rw [isMounted, perform, absent_dropEditor]
      rfl
  | _ => cases solo

end Tended

/-! ### What an operation keeps -/

theorem editors_onEditor_other {other : String} (differs : other ≠ id)
    (operate : Editor → Hosts → Editor.Outcome) :
    (workspace.onEditor id operate).workspace.editors.get? other =
      workspace.editors.get? other := by
  unfold onEditor
  split
  · rfl
  · simp only [afterEditor, Shelf.get?_insert, Ne.symm differs, if_false]

theorem editors_dropEditor_other {other : String} (differs : other ≠ id) :
    (workspace.dropEditor id).workspace.editors.get? other = workspace.editors.get? other := by
  unfold dropEditor
  split
  · rfl
  · simp only [Shelf.get?_erase, Ne.symm differs, if_false]

/-- Other editors neither come nor go nor change. -/
theorem editors_other (solo : operation.isSolo id host = true) {other : String}
    (differs : other ≠ id) :
    (workspace.perform operation).workspace.editors.get? other =
      workspace.editors.get? other := by
  cases operation with
  | bindScope name scope => rfl
  | readAt name path => rfl
  | settingsOf name => rfl
  | allocatePath => rfl
  | readDocument name =>
      simp only [perform]
      split <;> rfl
  | makeEditor name request config onCommit =>
      cases eq_of_beq solo
      simp only [perform, makeEditor]
      split
      · rfl
      · simp only [Shelf.get?_insert, Ne.symm differs, if_false, editors_dropEditor_other differs,
          editors_choosePath]
  | mount name on =>
      simp only [Operation.isSolo, Bool.and_eq_true, beq_iff_eq] at solo
      obtain ⟨rfl, rfl⟩ := solo
      simp only [perform, mount]
      split
      · rfl
      · exact editors_onEditor_other differs _
  | update name request =>
      cases eq_of_beq solo
      simp only [perform, update]
      split
      · rfl
      · rfl
      · exact editors_onEditor_other differs _
  | edit name text =>
      cases eq_of_beq solo
      exact editors_onEditor_other differs _
  | command name chord =>
      cases eq_of_beq solo
      simp only [perform, command]
      split
      · rfl
      · simp only [afterEditor, Shelf.get?_insert, Ne.symm differs, if_false]
  | setOnCommit name label =>
      cases eq_of_beq solo
      exact editors_onEditor_other differs _
  | unmount name =>
      cases eq_of_beq solo
      exact editors_onEditor_other differs _
  | dropEditor name =>
      cases eq_of_beq solo
      exact editors_dropEditor_other differs
  | _ => cases solo

/-- One editor has a path of its own. -/
theorem distinctPaths_of_alone
    (alone : ∀ other editor, workspace.editors.get? other = some editor → other = id) :
    workspace.DistinctPaths := by
  refine List.pairwise_map.2 (List.pairwise_map.2 ?_)
  refine workspace.editors.sorted.imp_of_mem fun {entry rival} member rivalMember before => ?_
  have first := alone entry.1 entry.2 (Shelf.get?_eq_some_iff.2 member)
  have second := alone rival.1 rival.2 (Shelf.get?_eq_some_iff.2 rivalMember)
  rw [first, second] at before
  exact absurd before (String.lt_irrefl id)

namespace Tended

theorem start (firstPath : Nat) (id host : String) : (start firstPath).Tended id host where
  sound := sound_start firstPath _ _
  alone := by
    intro other editor found
    cases found
  accepts := rfl
  replaced := rfl
  balanced := rfl

variable (tended : workspace.Tended id host)
include tended

/-- Every mount is on the one host, and every attempt to install is accepted. -/
theorem observed (solo : operation.isSolo id host = true) (other : String) :
    (hostOfMount? other workspace operation).or (some host) = some host ∧
      (attempt? other workspace operation).or (some true) = some true := by
  cases operation with
  | mount name on =>
      simp only [Operation.isSolo, Bool.and_eq_true, beq_iff_eq] at solo
      obtain ⟨rfl, rfl⟩ := solo
      simp only [hostOfMount?, attempt?, tended.accepts]
      split <;> exact ⟨rfl, rfl⟩
  | update name request =>
      refine ⟨rfl, ?_⟩
      simp only [attempt?]
      split
      · next own =>
          split
          · next editor props found known =>
              have current : editor.Current (some host) (some true) workspace.hosts :=
                tended.sound.editors other editor found
              unfold Editor.attempt?
              split
              · next redeclares =>
                  simp only [Editor.redeclares, Bool.and_eq_true] at redeclares
                  rw [current.host redeclares.1.1, Option.map_some, tended.accepts, Option.some_or]
              · rfl
          · rfl
      · rfl
  | _ => exact ⟨rfl, rfl⟩

/-- One operation leaves the host tended, and counts a mount or a redeclaration. -/
theorem perform (solo : operation.isSolo id host = true) :
    (workspace.perform operation).workspace.Tended id host ∧
      ((workspace.perform operation).workspace.hosts.host host).added =
        (workspace.hosts.host host).added +
          ((hostOfMount? id workspace operation).toList.length +
            (redeclaration? id workspace operation).toList.length) := by
  have alone : ∀ other editor,
      (workspace.perform operation).workspace.editors.get? other = some editor → other = id := by
    intro other editor found
    refine Decidable.byContradiction fun differs => differs ?_
    rw [editors_other solo differs] at found
    exact tended.alone other editor found
  have sound := tended.sound.perform (distinctPaths_of_alone tended.alone) operation
    (Operation.isForEditors_of_isSolo solo) (distinctPaths_of_alone alone)
  simp only [tended.observed solo] at sound
  have accepting : (workspace.hosts.host host).rejecting = false := by
    simpa [Hosts.accepts] using tended.accepts
  have balanced := tended.balanced
  cases tended.churn_perform solo with
  | rests unmoved undeclared stays hosts quiet =>
      refine ⟨⟨sound, alone, ?_, ?_, ?_⟩, ?_⟩
      · rw [Hosts.accepts, hosts, accepting, Bool.not_false]
      · rw [hosts, tended.replaced]
      · rw [hosts, stays, balanced]
      · rw [hosts, unmoved, undeclared]
        rfl
  | installs one mounted counted =>
      refine ⟨⟨sound, alone, ?_, ?_, ?_⟩, ?_⟩
      · rw [Hosts.accepts, counted.rejecting, accepting, Bool.not_false]
      · rw [counted.replaced, tended.replaced]
      · rw [counted.added, counted.disposed, mounted, balanced, Bool.toNat_true]
      · rw [counted.added, one]
  | leaves unmoved undeclared own unmounted counted =>
      have mounted := isMounted_of_takesOff own
      refine ⟨⟨sound, alone, ?_, ?_, ?_⟩, ?_⟩
      · rw [Hosts.accepts, counted.rejecting, accepting, Bool.not_false]
      · rw [counted.replaced, tended.replaced]
      · rw [counted.added, counted.disposed, unmounted, balanced, mounted, Bool.toNat_true,
          Bool.toNat_false, Nat.add_zero, Nat.add_zero]
      · rw [counted.added, unmoved, undeclared]
        rfl

/-- A run leaves the host tended, and counts its mounts and redeclarations. -/
theorem run {operations : List Operation}
    (solo : ∀ operation ∈ operations, operation.isSolo id host = true) :
    (workspace.run operations).Tended id host ∧
      ((workspace.run operations).hosts.host host).added =
        (workspace.hosts.host host).added +
          ((observations (hostOfMount? id) workspace operations).length +
            (observations (redeclaration? id) workspace operations).length) := by
  induction operations generalizing workspace with
  | nil => exact ⟨tended, rfl⟩
  | cons operation rest ih =>
      obtain ⟨next, counted⟩ := tended.perform (solo operation List.mem_cons_self)
      obtain ⟨last, more⟩ := ih next fun other member => solo other (List.mem_cons_of_mem _ member)
      refine ⟨last, more.trans ?_⟩
      rw [counted]
      simp only [observations, List.length_append]
      omega

end Tended

/-! ### Runs -/

/-- **An editor stirs its host as little as it can.** After any run of one editor on a
host that it has for itself and that accepts, the host has added one document for each
mount of the editor and for each update that redeclares: one that comes while the editor
is mounted, under another identity, with another document. All of them but the one of a
mounted editor were disposed, and none was replaced. Any further operation that is no
mount, no redeclaration and does not take a mounted editor off leaves the host as it is
and asks no host for anything. -/
theorem churn_run (firstPath : Nat) (id host : String) (operations : List Operation)
    (solo : ∀ operation ∈ operations, operation.isSolo id host = true) :
    let workspace := (start firstPath).run operations
    let kept := workspace.hosts.host host
    kept.added = (observations (hostOfMount? id) (start firstPath) operations).length +
      (observations (redeclaration? id) (start firstPath) operations).length ∧
    kept.added = kept.disposed + (if workspace.isMounted id then 1 else 0) ∧
    kept.replaced = 0 ∧
    ∀ operation, operation.isSolo id host = true →
      hostOfMount? id workspace operation = none →
      redeclaration? id workspace operation = none →
      takesOff id workspace operation = false →
      (workspace.perform operation).workspace.hosts.host host = kept ∧
        hostRequests (workspace.perform operation).effects = [] := by
  intro workspace kept
  obtain ⟨tended, counted⟩ := (Tended.start firstPath id host).run solo
  refine ⟨?_, ?_, tended.replaced, fun operation alone unmoved undeclared stays => ?_⟩
  · exact counted.trans (Nat.zero_add _)
  · rw [tended.balanced]
    cases workspace.isMounted id <;> rfl
  · cases tended.churn_perform alone with
    | rests _ _ _ hosts quiet => exact ⟨hosts, quiet⟩
    | installs one _ _ =>
        rw [unmoved, undeclared] at one
        cases one
    | leaves _ _ own _ _ =>
        rw [stays] at own
        cases own

/-- An editor that gets another document and then an equal one under another identity,
is unmounted, gets another document there, and is mounted again. -/
def remounted : List Operation :=
  [.bindScope "a" ⟨[("a", .boolean true)]⟩, .bindScope "b" ⟨[("b", .null)]⟩,
    .bindScope "c" ⟨[("b", .null)]⟩, .makeEditor "editor" ⟨"", "a", false, false⟩ {} none,
    .mount "editor" "host", .update "editor" ⟨"", "b", false, false⟩,
    .update "editor" ⟨"", "c", false, false⟩, .unmount "editor",
    .update "editor" ⟨"", "a", false, false⟩, .mount "editor" "host"]

theorem churn_remounted :
    (∀ operation ∈ remounted, operation.isSolo "editor" "host" = true) ∧
    let workspace := (start 0).run remounted
    let kept := workspace.hosts.host "host"
    kept.added = 3 ∧ kept.disposed = 2 ∧ kept.replaced = 0 ∧
    redeclaration? "editor" workspace (.update "editor" ⟨"x", "a", true, true⟩) = none ∧
    (workspace.perform (.update "editor" ⟨"x", "a", true, true⟩)).workspace.hosts.host "host" =
      kept := by
  have solo : ∀ operation ∈ remounted, operation.isSolo "editor" "host" = true := by decide
  have mounts : (observations (hostOfMount? "editor") (start 0) remounted).length = 2 := by decide
  have redeclarations :
      (observations (redeclaration? "editor") (start 0) remounted).length = 1 := by decide
  have mounted : ((start 0).run remounted).isMounted "editor" = true := by decide
  have same : redeclaration? "editor" ((start 0).run remounted)
      (.update "editor" ⟨"x", "a", true, true⟩) = none := by decide
  obtain ⟨added, balanced, replaced, rests⟩ := churn_run 0 "editor" "host" remounted solo
  rw [mounts, redeclarations] at added
  rw [mounted, if_pos rfl, added] at balanced
  exact ⟨solo, added, (Nat.succ.inj balanced).symm, replaced, same,
    (rests (.update "editor" ⟨"x", "a", true, true⟩) rfl rfl same rfl).1⟩

end Workspace

end LiveScope
