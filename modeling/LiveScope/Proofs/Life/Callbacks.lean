/- # LiveScope.Proofs.Life.Callbacks — which callback hears what

An edit is told to the change callback, a commit chord to the commit callback, and
nothing else is told to either. Whether a chord is handled depends on the last mount or
unmount alone, which callback hears it on the last one that was set, however many mounts
lie between: an editor binds one chord while it is mounted and looks the callback up when
the chord is pressed (`due`). `routed` says what each call of a life is answered and
whom it tells, and so what both callbacks hear in all.
-/
import LiveScope.Proofs.Life.Workspace

namespace LiveScope

set_option autoImplicit false

/-- What a callback of an editor's owner receives: all of a text that changed, or a commit,
by the label of the callback that is called. -/
inductive Notice where
  | change (text : String)
  | commit (label : String)
  deriving DecidableEq, Repr

namespace Notice

def text? : Notice → Option String
  | .change text => some text
  | .commit _ => none

end Notice

def Effect.notice? : Effect → Option Notice
  | .changed text => some (.change text)
  | .committed label => some (.commit label)
  | .surface _ _ | .logged _ => none

/-- What the callbacks receive, in order. -/
def notices (effects : List Effect) : List Notice := effects.filterMap Effect.notice?

namespace Editor

/-! ### What a call tells -/

theorem notices_surface (surface : Nat) (requests : List SurfaceCall) :
    notices (requests.map (.surface surface)) = [] := by
  rw [notices, List.filterMap_map, List.filterMap_eq_nil_iff]
  exact fun _ _ => rfl

theorem notices_perform (editor : Editor) (hosts : Hosts) (call : Call) :
    notices (editor.perform call hosts).effects =
      match call with
      | .edit text => [.change (text.getD "")]
      | .command chord => if editor.handles chord then editor.onCommit.toList.map .commit else []
      | _ => [] := by
  refine (editor.filterMap_perform hosts (fun _ => rfl) call).trans ?_
  cases call with
  | mount surface host => exact notices_surface _ _
  | update props =>
      rw [shows]
      split
      · rfl
      · exact notices_surface _ _
  | command chord =>
      simp only [shows]
      split
      · cases editor.onCommit <;> rfl
      · rfl
  | edit | setOnCommit | unmount | meanwhile => rfl

/-! ### What an editor hears -/

namespace Call

/-- Does a call mount the editor, or unmount it? -/
def mounts? : Call → Option Bool
  | .mount _ _ => some true
  | .unmount => some false
  | .update _ | .edit _ | .command _ | .setOnCommit _ | .meanwhile _ => none

/-- The commit callback that a call sets; none if it clears it. -/
def callback? : Call → Option (Option String)
  | .setOnCommit label => some label
  | .mount _ _ | .update _ | .edit _ | .command _ | .unmount | .meanwhile _ => none

/-- The text that a user leaves; a text that is missing is empty. -/
def text? : Call → Option String
  | .edit text => some (text.getD "")
  | .mount _ _ | .update _ | .command _ | .setOnCommit _ | .unmount | .meanwhile _ => none

end Call

section Reads

variable (editor : Editor) (call : Call) (hosts : Hosts)

theorem onCommit_perform : (editor.perform call hosts).editor.onCommit =
    (Call.callback? call).getD editor.onCommit := by
  obtain ⟨document, registry, same⟩ := editor.editor_perform call hosts
  rw [same]
  cases call <;> rfl

/-- An edit or an update leaves the chord bound that was. -/
theorem boundChord_keeps (content : String) :
    (editor.mounted.map fun mounted => { mounted with content }).map (·.chord) =
      editor.boundChord := by
  rw [Option.map_map]
  rfl

theorem boundChord_perform : (editor.perform call hosts).editor.boundChord =
    match Call.mounts? call with
    | some true => some .commit
    | some false => none
    | none => editor.boundChord := by
  obtain ⟨document, registry, same⟩ := editor.editor_perform call hosts
  rw [same]
  cases call with
  | update props => exact editor.boundChord_keeps props.value
  | edit text => exact editor.boundChord_keeps (text.getD "")
  | _ => rfl

theorem isMounted_eq : editor.isMounted = editor.boundChord.isSome := by
  rw [isMounted, boundChord, Option.isSome_map]

theorem isMounted_perform : (editor.perform call hosts).editor.isMounted =
    (Call.mounts? call).getD editor.isMounted := by
  rw [isMounted_eq, isMounted_eq, boundChord_perform]
  cases Call.mounts? call with
  | none => rfl
  | some mounts => cases mounts <;> rfl

end Reads

/-! ### Lives -/

/-- What a call tells the callbacks, after some earlier calls of an editor that was made
with the commit callback `onCommit`. -/
def due (onCommit : Option String) (earlier : List Call) : Call → List Notice
  | .edit text => [.change (text.getD "")]
  | .command chord =>
      if latest Call.mounts? false earlier && chord == .commit then
        (latest Call.callback? onCommit earlier).toList.map .commit
      else []
  | .mount _ _ | .update _ | .setOnCommit _ | .unmount | .meanwhile _ => []

section Lives

variable (options : Options) (path : String) (props : Props) (onCommit : Option String)
  (hosts : Hosts) (calls : List Call)

theorem onCommit_live : ((make options path props onCommit).live calls hosts).editor.onCommit =
    latest Call.callback? onCommit calls :=
  read_live Editor.onCommit Call.callback? onCommit_perform _ hosts calls

theorem isMounted_live : ((make options path props onCommit).live calls hosts).editor.isMounted =
    latest Call.mounts? false calls :=
  read_live isMounted Call.mounts? isMounted_perform _ hosts calls

/-- No other chord is ever bound. -/
theorem boundChord_live : ((make options path props onCommit).live calls hosts).editor.boundChord =
    if latest Call.mounts? false calls then some .commit else none := by
  apply holds_live (motive := fun calls editor =>
    editor.boundChord = if latest Call.mounts? false calls then some .commit else none)
  · rfl
  · intro calls call editor hosts bound
    rw [boundChord_perform, latest_concat]
    cases Call.mounts? call with
    | none => exact bound
    | some mounts => cases mounts <;> rfl

theorem handles_live (chord : KeyChord) :
    ((make options path props onCommit).live calls hosts).editor.handles chord =
      (latest Call.mounts? false calls && chord == .commit) := by
  rw [handles, boundChord_live]
  cases latest Call.mounts? false calls with
  | false => rfl
  | true => exact Bool.beq_comm

theorem notices_next (call : Call) :
    let life := (make options path props onCommit).live calls hosts
    notices (life.editor.perform call life.hosts).effects = due onCommit calls call := by
  intro life
  rw [notices_perform]
  cases call with
  | command chord => simp only [due, life, handles_live, onCommit_live]
  | _ => rfl

theorem notices_live : notices ((make options path props onCommit).live calls hosts).effects =
    course (due onCommit) [] calls :=
  filterMap_effects_live _ _ (notices_next options path props onCommit hosts) calls

/-- The edits of a life, whatever else happens in between. -/
theorem changes_course (earlier : List Call) :
    (course (due onCommit) earlier calls).filterMap Notice.text? = calls.filterMap Call.text? := by
  induction calls generalizing earlier with
  | nil => rfl
  | cons call rest ih =>
      rw [course, List.filterMap_append, ih, List.filterMap_cons]
      cases call with
      | command chord =>
          have told : (due onCommit earlier (.command chord)).filterMap Notice.text? = [] := by
            rw [due]
            split
            · rw [List.filterMap_map, List.filterMap_eq_nil_iff]
              exact fun _ _ => rfl
            · rfl
          rw [told]
          rfl
      | _ => rfl

end Lives

/-- **A chord is handled exactly while the editor is mounted and it is the commit chord, in
all of its parts; an edit is always told, a handled chord exactly to the callback that was
set last, and nothing else is told.** So the callbacks hear, over a whole life, what is due
after each call, and of the edits every text, in order. -/
theorem routed (options : Options) (path : String) (props : Props)
    (onCommit : Option String) (hosts : Hosts) (calls : List Call) :
    let life := (make options path props onCommit).live calls hosts
    let mounted := latest Call.mounts? false calls
    life.editor.isMounted = mounted ∧
    (∀ chord, life.editor.handles chord = true ↔ mounted = true ∧
      chord.ctrlCmd = true ∧ chord.shift = false ∧ chord.alt = false ∧ chord.key = 'S') ∧
    (∀ (workspace : Workspace) id chord, workspace.editors.get? id = some life.editor →
      (workspace.perform (.command id chord)).answer = .ok (.flag (life.editor.handles chord))) ∧
    (∀ call, notices (life.editor.perform call life.hosts).effects = due onCommit calls call) ∧
    notices life.effects = course (due onCommit) [] calls ∧
    (notices life.effects).filterMap Notice.text? = calls.filterMap Call.text? := by
  intro life mounted
  refine ⟨isMounted_live options path props onCommit hosts calls, fun chord => ?_,
    fun workspace id chord found => ?_, notices_next options path props onCommit hosts calls,
    notices_live options path props onCommit hosts calls, ?_⟩
  · rw [handles_live, Bool.and_eq_true, beq_iff_eq]
    obtain ⟨ctrlCmd, shift, alt, key⟩ := chord
    simp only [KeyChord.commit, KeyChord.mk.injEq, mounted]
  · rw [Workspace.perform, Workspace.command, found]
    rfl
  · rw [notices_live]
    exact changes_course onCommit calls []

/-- A workspace with one editor, which has a callback from the start. -/
def opened : Workspace :=
  (Workspace.start 1).run
    [.bindScope "scope" .empty, .makeEditor "editor" ⟨"", "scope", false, true⟩ {} (some "log")]

/-- Three mounts, three callbacks and none, edits on and off a surface, and another chord. -/
def swapped : List Workspace.Operation :=
  [.mount "editor" "left", .command "editor" .commit, .setOnCommit "editor" (some "save"),
    .edit "editor" (some "a"), .mount "editor" "right", .command "editor" .commit,
    .setOnCommit "editor" (some "send"), .unmount "editor", .command "editor" .commit,
    .edit "editor" none, .mount "editor" "left", .command "editor" .commit,
    .setOnCommit "editor" none, .command "editor" .commit,
    .command "editor" ⟨true, true, false, 'S'⟩]

theorem routed_swapped :
    let life := (make {} (Workspace.numberedPath 1) ⟨"", ⟨0, .empty⟩, false, true⟩ (some "log")).live
      (opened.callsOn "editor" swapped) opened.hosts
    (opened.run swapped).editors.get? "editor" = some life.editor ∧
    ((opened.run swapped).perform (.command "editor" .commit)).answer = .ok (.flag true) ∧
    notices (opened.ownEffects "editor" swapped) =
      [.commit "log", .change "a", .commit "save", .change "", .commit "send"] ∧
    (notices (opened.ownEffects "editor" swapped)).filterMap Notice.text? = ["a", ""] := by
  intro life
  have made : opened.editors.get? "editor" = some (make {} (Workspace.numberedPath 1)
      ⟨"", ⟨0, .empty⟩, false, true⟩ (some "log")) := Workspace.made rfl {} (some "log")
  have spared : ∀ operation ∈ swapped, operation.spares "editor" = true := by decide
  obtain ⟨lives, -, shows⟩ := Workspace.lived_run made spared
  obtain ⟨-, handled, answered, -, told, changed⟩ :=
    routed {} (Workspace.numberedPath 1) ⟨"", ⟨0, .empty⟩, false, true⟩ (some "log") opened.hosts
      (opened.callsOn "editor" swapped)
  have commits : life.editor.handles .commit = true := (handled .commit).2 (by decide)
  rw [shows]
  refine ⟨lives, ?_, told.trans (by decide), changed.trans (by decide)⟩
  rw [answered _ "editor" .commit lives, commits]

end Editor

end LiveScope
