/- # LiveScope.Proofs.Following — a watch and a mounted editor agree

A watch follows scope texts by the text of their document. A mounted editor is
given scopes, and decides by their identity and by the whole document. Given the
same texts, they declare the same (`Editor.Follows`): what the editor has installed
is what the watch tells.

They also agree on what a change is, if the root is an identifier: then a text
tells the document it is of (`Document.ofScope_eq_iff_text`), so an update counts
on the host exactly if the watch reports a change.
-/
import LiveScope.Declaration.Watch
import LiveScope.Proofs.Declaration.Change
import LiveScope.Proofs.Observation
import LiveScope.Proofs.Registration.Holding
import Mathlib.Data.List.Induction

namespace LiveScope

set_option autoImplicit false

/-! ### The watch -/

namespace Watch

variable {watch : Watch} {source : String} {scope : Scope}

/-- The watch after a list of texts. -/
def follow (watch : Watch) (sources : List String) : Watch := sources.foldl after watch

theorem follow_concat (watch : Watch) (sources : List String) (source : String) :
    watch.follow (sources ++ [source]) = (watch.follow sources).after source := by
  simp only [follow, List.foldl_append, List.foldl_cons, List.foldl_nil]

/-- The last scope among texts, empty if there is none. -/
def lastScope (sources : List String) : Scope :=
  ((sources.filterMap fun source => (Scope.parse source).toOption).getLast?).getD .empty

theorem lastScope_concat (sources : List String) (source : String) :
    lastScope (sources ++ [source]) =
      (Scope.parse source).toOption.getD (lastScope sources) := by
  simp only [lastScope, List.filterMap_append, List.filterMap_cons, List.filterMap_nil]
  cases (Scope.parse source).toOption with
  | none => simp only [List.append_nil, Option.getD_none]
  | some scope => simp only [List.getLast?_append, List.getLast?_singleton, Option.some_or,
      Option.getD_some]

theorem update_of_refused {complaint : ScopeError}
    (refused : Scope.parse source = .error complaint) :
    watch.update source = .error complaint ∧ watch.after source = watch := by
  have answer : watch.update source = .error complaint := by
    simp only [update, Document.ofText, refused, Except.map]
  exact ⟨answer, by rw [after, answer]⟩

/-- An accepted text is taken over, and a change is reported if there is one. -/
theorem update_of_accepted (watch : Watch) (accepted : Scope.parse source = .ok scope) :
    watch.update source =
        .ok (decide ((Document.ofScope watch.options scope).text ≠ watch.text),
          watch.after source) ∧
      watch.after source =
        { watch with text := (Document.ofScope watch.options scope).text } := by
  by_cases same : (Document.ofScope watch.options scope).text = watch.text
  · have answer : watch.update source = .ok (false, watch) := by
      simp only [update, Document.ofText, accepted, Except.map, same, if_true]
    have stays : watch.after source = watch := by rw [after, answer]
    refine ⟨?_, ?_⟩
    · rw [answer, stays, same]
      simp
    · rw [stays, same]
  · have answer : watch.update source =
        .ok (true, { watch with text := (Document.ofScope watch.options scope).text }) := by
      simp only [update, Document.ofText, accepted, Except.map, same, if_false]
    have moves : watch.after source =
        { watch with text := (Document.ofScope watch.options scope).text } := by
      rw [after, answer]
    exact ⟨by rw [answer, moves, decide_eq_true same], moves⟩

theorem options_after (watch : Watch) (source : String) :
    (watch.after source).options = watch.options := by
  cases parsed : Scope.parse source with
  | error complaint => rw [(update_of_refused parsed).2]
  | ok scope => rw [(watch.update_of_accepted parsed).2]

/-- A watch tells the document of the last scope it was given. -/
theorem follow_start (options : Options) (sources : List String) :
    (start options).follow sources =
      ⟨options, (Document.ofScope options (lastScope sources)).text⟩ := by
  induction sources using List.reverseRecOn with
  | nil => rfl
  | append_singleton sources source ih =>
      rw [follow_concat, ih, lastScope_concat]
      cases parsed : Scope.parse source with
      | error complaint => exact (update_of_refused parsed).2
      | ok scope => exact (update_of_accepted _ parsed).2

end Watch

/-! ### Documents and their texts -/

theorem Document.ofScope_eq_iff_text {options : Options}
    (identifier : Declaration.isIdentifier options.rootName = true)
    (inLine : IsLine options.indent) (s t : Scope) :
    ofScope options s = ofScope options t ↔ (ofScope options s).text = (ofScope options t).text :=
  ⟨congrArg text, fun same => ofScope_of_skeleton options (skeleton_of_text identifier inLine same)⟩

/-! ### The editor -/

namespace Editor

/-- A mounted editor on a host that accepts declares what a watch tells. -/
structure Follows (editor : Editor) (watch : Watch) (host : String) (hosts : Hosts) : Prop where
  options : editor.options = watch.options
  text : editor.document.text = watch.text
  mounted : editor.isMounted = true
  accepts : hosts.accepts host = true
  current : editor.Current (some host) (some true) hosts

variable {editor : Editor} {watch : Watch} {host : String} {hosts : Hosts}

/-- What the editor has installed on the host is the text of the watch. -/
theorem Follows.text? (follows : editor.Follows watch host hosts) :
    (hosts.host host).text? editor.registry.path = some watch.text := by
  have attached := follows.current.host follows.mounted
  obtain ⟨handle, installed⟩ := Option.isSome_iff_exists.1
    (follows.current.installed.2 ⟨follows.mounted, rfl⟩)
  have lies := follows.current.owns.libs host
  rw [Hosts.lib?, Registry.lib?, if_pos attached, installed, Option.map_some] at lies
  rw [Host.text?, lies, Option.map_some, follows.text]

/-- An update under a new identity counts on the host exactly if the document is
another one. -/
theorem added_update {props : Props} (attached : editor.registry.host = some host)
    (accepts : hosts.accepts host = true)
    (fresh : props.scope.identity ≠ editor.props.scope.identity) :
    ((editor.update props hosts).hosts.host host).added = (hosts.host host).added +
      if Document.ofScope editor.options props.scope.scope = editor.document then 0 else 1 := by
  have disposed : ((editor.registry.dispose hosts).hosts.host host).added =
      (hosts.host host).added := by
    rw [Registry.host_dispose]
    cases editor.registry.handleOn? host with
    | none => rfl
    | some handle => exact Host.added_dispose _ _
  simp only [update, Outcome.andThen, hosts_adopt, declareScope, if_neg fresh]
  split
  · rfl
  · obtain ⟨-, stored⟩ := Registry.install_of_accepted attached accepts
      (Document.ofScope editor.options props.scope.scope)
    simp only [ofRegistry, stored, Hosts.host_set, if_true, Host.stored, disposed]

/-- A watch is given a text, and the editor its scope under a new identity. -/
theorem Follows.update {source : String} {scope : Scope} {props : Props}
    (follows : editor.Follows watch host hosts) (accepted : Scope.parse source = .ok scope)
    (given : props.scope.scope = scope)
    (fresh : props.scope.identity ≠ editor.props.scope.identity) :
    (editor.update props hosts).editor.Follows (watch.after source) host
      (editor.update props hosts).hosts := by
  have kept := follows.current.update props fun same => absurd same fresh
  obtain ⟨document, registry, after⟩ := editor_declareScope props.scope editor hosts
  have options : (editor.update props hosts).editor.options = editor.options := by
    simp only [Editor.update, Outcome.andThen, editor_adopt, after]
  have attempt : (editor.attempt? props hosts).or (some true) = some true := by
    unfold attempt?
    split
    · rw [follows.current.host follows.mounted, Option.map_some, follows.accepts, Option.some_or]
    · rfl
  rw [attempt] at kept
  refine ⟨?_, ?_, ?_, ?_, kept.current⟩
  · rw [options, follows.options, Watch.options_after]
  · rw [kept.current.document, options, props_update, given, follows.options,
      (watch.update_of_accepted accepted).2]
  · simpa only [isMounted, Editor.update, Outcome.andThen, editor_adopt, after,
      Option.isSome_map] using follows.mounted
  · rw [kept.sameBut.accepts, follows.accepts]

/-- Where the root is an identifier, the host counts the changes that the watch
reports. -/
theorem Follows.added_update {scope : Scope} {props : Props}
    (follows : editor.Follows watch host hosts)
    (identifier : Declaration.isIdentifier watch.options.rootName = true)
    (inLine : IsLine watch.options.indent)
    (given : props.scope.scope = scope)
    (fresh : props.scope.identity ≠ editor.props.scope.identity) :
    ((editor.update props hosts).hosts.host host).added = (hosts.host host).added +
      if (Document.ofScope watch.options scope).text ≠ watch.text then 1 else 0 := by
  have attached := follows.current.host follows.mounted
  rw [Editor.added_update attached follows.accepts fresh, follows.current.document,
    follows.options, given, ← follows.text, follows.current.document, follows.options]
  simp only [Document.ofScope_eq_iff_text identifier inLine, ne_eq, ite_not]

end Editor

/-! ### Runs -/

namespace Workspace

/-- An editor that starts on the empty scope and is mounted. -/
def opening (id host : String) (config : EditorConfig) (request : PropsRequest)
    (onCommit : Option String) : List Operation :=
  [.bindScope request.scope .empty, .makeEditor id request config onCommit, .mount id host]

/-- What a text comes to for the editor: an update with its scope, bound anew, if it
is one. -/
def revision (id : String) (source : String) (request : PropsRequest) : List Operation :=
  match Scope.parse source with
  | .ok scope => [.bindScope request.scope scope, .update id request]
  | .error _ => []

/-- The editor declares on a host what a watch tells, and a scope that is bound next
gets an identity that differs from that of the editor's. -/
def Follows (workspace : Workspace) (id host : String) (watch : Watch) : Prop :=
  ∃ editor, workspace.editors.get? id = some editor ∧
    editor.Follows watch host workspace.hosts ∧ editor.props.scope.identity < workspace.nextScope

variable {workspace : Workspace} {id host : String} {watch : Watch}

theorem findProps_bindScope (workspace : Workspace) (request : PropsRequest) (scope : Scope) :
    (workspace.bindScope request.scope scope).findProps request =
      some ⟨request.value, ⟨workspace.nextScope, scope⟩, request.disabled, request.autoFocus⟩ := by
  simp only [findProps, bindScope, Shelf.get?_insert_self, Option.map_some]

theorem follows_opening (firstPath : Nat) (id host : String) (config : EditorConfig)
    (request : PropsRequest) (onCommit : Option String) :
    ((start firstPath).run (opening id host config request onCommit)).Follows id host
      (Watch.start config.options) := by
  let bound := (start firstPath).bindScope request.scope .empty
  let ready := (bound.makeEditor id request config onCommit).workspace
  let props : Props := ⟨request.value, ⟨0, .empty⟩, request.disabled, request.autoFocus⟩
  let made := Editor.make config.options (bound.choosePath config.path).1 props onCommit
  have known : bound.findProps request = some props :=
    (start firstPath).findProps_bindScope request .empty
  have prepared : ready.editors.get? id = some made ∧ ready.hosts = .empty ∧
      ready.nextScope = 1 := by
    simp only [ready, makeEditor, known, Shelf.get?_insert_self]
    refine ⟨rfl, ?_⟩
    cases config.path <;> exact ⟨rfl, rfl⟩
  obtain ⟨found, vacant, counted⟩ := prepared
  have current : made.Current none none .empty :=
    Editor.make_current config.options props onCommit fun _ => rfl
  have kept := current.mount (ready.surfaces + 1) host
  have mounted := mount_of_found found host
  rw [vacant] at mounted
  show (ready.mount id host).workspace.Follows id host _
  rw [mounted]
  refine ⟨_, Shelf.get?_insert_self _ _ _, ⟨rfl, rfl, rfl, ?_, kept.current⟩, ?_⟩
  · exact kept.sameBut.accepts host
  · show 0 < ready.nextScope
    omega

/-- A revision by an accepted text is an update of the editor under a new identity. -/
theorem run_revision {source : String} {scope : Scope} {editor : Editor}
    (accepted : Scope.parse source = .ok scope) (found : workspace.editors.get? id = some editor)
    (request : PropsRequest) :
    workspace.run (revision id source request) =
      ((workspace.bindScope request.scope scope).afterEditor id .nothing
        (editor.update ⟨request.value, ⟨workspace.nextScope, scope⟩, request.disabled,
          request.autoFocus⟩ workspace.hosts)).workspace := by
  have known := workspace.findProps_bindScope request scope
  have bound : (workspace.bindScope request.scope scope).editors.get? id = some editor := found
  have updated := update_of_known bound known
  simp only [revision, accepted, run, List.foldl_cons, List.foldl_nil]
  exact congrArg Reply.workspace updated

theorem Follows.revision (follows : workspace.Follows id host watch) (source : String)
    (request : PropsRequest) :
    (workspace.run (Workspace.revision id source request)).Follows id host (watch.after source) := by
  obtain ⟨editor, found, declares, older⟩ := follows
  cases parsed : Scope.parse source with
  | error complaint =>
      rw [(Watch.update_of_refused parsed).2]
      simp only [Workspace.revision, parsed]
      exact ⟨editor, found, declares, older⟩
  | ok scope =>
      rw [run_revision parsed found]
      refine ⟨_, Shelf.get?_insert_self _ _ _, ?_, ?_⟩
      · exact declares.update parsed rfl (Nat.ne_of_gt older)
      · rw [Editor.props_update]
        exact Nat.lt_succ_self _

/-- Where the root is an identifier, a revision counts on the host exactly if the
watch reports a change. -/
theorem Follows.added_revision (follows : workspace.Follows id host watch)
    (identifier : Declaration.isIdentifier watch.options.rootName = true)
    (inLine : IsLine watch.options.indent) {source : String} {changed : Bool} {next : Watch}
    (reported : watch.update source = .ok (changed, next)) (request : PropsRequest) :
    ((workspace.run (Workspace.revision id source request)).hosts.host host).added =
      (workspace.hosts.host host).added + if changed then 1 else 0 := by
  obtain ⟨editor, found, declares, older⟩ := follows
  cases parsed : Scope.parse source with
  | error complaint =>
      rw [(Watch.update_of_refused parsed).1] at reported
      cases reported
  | ok scope =>
      rw [(watch.update_of_accepted parsed).1] at reported
      cases reported
      rw [run_revision parsed found]
      let props : Props :=
        ⟨request.value, ⟨workspace.nextScope, scope⟩, request.disabled, request.autoFocus⟩
      have fresh : props.scope.identity ≠ editor.props.scope.identity := Nat.ne_of_gt older
      have counted := declares.added_update identifier inLine rfl fresh
      simp only [decide_eq_true_eq]
      exact counted

/-- What a list of texts, each with the props that it comes with, comes to. -/
def revisions (id : String) (updates : List (String × PropsRequest)) : List Operation :=
  updates.flatMap fun update => revision id update.1 update.2

theorem Follows.revisions (follows : workspace.Follows id host watch)
    (updates : List (String × PropsRequest)) :
    (workspace.run (Workspace.revisions id updates)).Follows id host
      (watch.follow (updates.map Prod.fst)) := by
  induction updates generalizing workspace watch with
  | nil => exact follows
  | cons update rest ih =>
      simp only [Workspace.revisions, List.flatMap_cons, run, List.foldl_append]
      exact ih (follows.revision update.1 update.2)

/-- **A watch and an editor follow alike.** After any texts, refused ones among
them, a watch tells the document of the last scope. A text that is refused yields
its error and changes nothing; one that is accepted is taken over, and a change is
reported exactly if the text of the watch changes.

An editor under the same options that starts on the empty scope, is mounted on a
host, and is updated for each accepted text with its scope, bound anew, and with any
other props, has installed the text of the watch after each of them. If the root is
an identifier, the host counts one more document exactly at the updates for which
the watch reports a change. -/
theorem followed_run (rootName : Option String) (firstPath : Nat) (id host : String)
    (path : Option String) (first : PropsRequest) (onCommit : Option String)
    (updates : List (String × PropsRequest)) :
    let options := Options.ofRootName rootName
    let watch := (Watch.start options).follow (updates.map Prod.fst)
    let workspace := (start firstPath).run
      (opening id host ⟨options, path⟩ first onCommit ++ revisions id updates)
    watch.text = (Document.ofScope options (Watch.lastScope (updates.map Prod.fst))).text ∧
    (∀ source complaint, Scope.parse source = .error complaint →
      watch.update source = .error complaint ∧ watch.after source = watch) ∧
    (∀ source scope, Scope.parse source = .ok scope →
      (watch.after source).text = (Document.ofScope options scope).text ∧
      watch.update source =
        .ok (decide ((watch.after source).text ≠ watch.text), watch.after source)) ∧
    (∃ editor, workspace.editors.get? id = some editor ∧
      (workspace.hosts.host host).text? editor.registry.path = some watch.text) ∧
    (Declaration.isIdentifier options.rootName = true →
      ∀ source request changed next, watch.update source = .ok (changed, next) →
        ((workspace.run (revision id source request)).hosts.host host).added =
          (workspace.hosts.host host).added + if changed then 1 else 0) := by
  intro options watch workspace
  have follows : workspace.Follows id host watch := by
    have opened := follows_opening firstPath id host ⟨options, path⟩ first onCommit
    have followed := opened.revisions updates
    simp only [workspace, run, List.foldl_append]
    exact followed
  have told : watch = ⟨options, _⟩ := Watch.follow_start options _
  refine ⟨congrArg Watch.text told, fun source complaint => Watch.update_of_refused, ?_, ?_, ?_⟩
  · intro source scope accepted
    obtain ⟨answer, moves⟩ := watch.update_of_accepted accepted
    have text : (watch.after source).text = (Document.ofScope options scope).text := by
      rw [moves, told]
    refine ⟨text, ?_⟩
    rw [answer, text, told]
  · obtain ⟨editor, found, declares, -⟩ := follows
    exact ⟨editor, found, declares.text?⟩
  · intro identifier source request changed next reported
    have inLine : IsLine options.indent := by
      apply Document.isLine_of_blank
      intro c member
      have indent : options.indent = "  " := by cases rootName <;> rfl
      rw [indent] at member
      simp at member
      exact .inl member
    refine follows.added_revision ?_ ?_ reported request
    · rw [told]
      exact identifier
    · rw [told]
      exact inLine

/-- Props that name one scope throughout. -/
def unchangedProps : PropsRequest := ⟨"a", "scope", false, false⟩

/-- A text with one key, and a number for its value. -/
def numbered : List (String × PropsRequest) := [("\x7b\"a\": 1\x7d", unchangedProps)]

/-- Another number is no change, another key is one. -/
theorem followed_numbered :
    let options := Options.ofRootName none
    let workspace := (start 0).run
      (opening "editor" "host" ⟨options, none⟩ unchangedProps none ++ revisions "editor" numbered)
    let added (source : String) :=
      ((workspace.run (revision "editor" source unchangedProps)).hosts.host "host").added
    added "\x7b\"a\": 2\x7d" = (workspace.hosts.host "host").added ∧
    added "\x7b\"b\": 2\x7d" = (workspace.hosts.host "host").added + 1 := by
  intro options workspace added
  let watch := (Watch.start options).follow (numbered.map Prod.fst)
  have counts (source : String) (changed : Bool)
      (told : (watch.update source).toOption.map Prod.fst = some changed) :
      added source = (workspace.hosts.host "host").added + if changed then 1 else 0 := by
    have reported : ∃ next, watch.update source = .ok (changed, next) := by
      cases answer : watch.update source with
      | error complaint =>
          rw [answer] at told
          cases told
      | ok result =>
          rw [answer] at told
          cases told
          exact ⟨result.2, rfl⟩
    obtain ⟨next, reported⟩ := reported
    exact (followed_run none 0 "editor" "host" none unchangedProps none numbered).2.2.2.2
      (by decide) source unchangedProps changed next reported
  have unchanged := counts "\x7b\"a\": 2\x7d" false (by decide +kernel)
  have changed := counts "\x7b\"b\": 2\x7d" true (by decide +kernel)
  rw [if_neg Bool.false_ne_true, Nat.add_zero] at unchanged
  rw [if_pos rfl] at changed
  exact ⟨unchanged, changed⟩

end Workspace

end LiveScope
