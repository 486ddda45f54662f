/- # LiveScope.Proofs.Surface.Mirror — surfaces mirror the props of their editors

A surface is a widget with a text and a flag: it does what it is asked for, and a
user may type over its text, which is reported to its editor as an edit. A scene
is a workspace with the widgets of its surfaces, whatever they held at first.

In every scene that a run leads to, the widget of a mounted editor holds the text
that the editor takes it to hold, and may be typed into exactly if the editor is
not disabled (`Mirrors`). That editors never share a surface is part of the
invariant: an edit of one would change the widget of the other behind its back.
What a surface receives is read off the run: `filter_received` says which commands,
`Abandoned.received` that nothing follows once no editor is on it any more.
-/
import LiveScope.Proofs.Observation
import LiveScope.Proofs.Surface.Turn

namespace LiveScope

set_option autoImplicit false

/-! ### Widgets -/

structure Widget where
  text : String
  readOnly : Bool
  deriving DecidableEq, Repr

/-- What a widget is after one request. -/
def Widget.after (widget : Widget) : SurfaceCall → Widget
  | .updateOptions options => { widget with readOnly := options.readOnly }
  | .setText text => { widget with text }
  | .focus | .addCommand _ => widget

def Widget.afterAll (widget : Widget) (requests : List SurfaceCall) : Widget :=
  requests.foldl Widget.after widget

def Shown.widget (shown : Shown) : Widget := ⟨shown.text, shown.readOnly⟩

namespace Editor

/-- A greeting leaves nothing of what the widget was before. -/
theorem afterAll_greeting (editor : Editor) (widget : Widget) :
    widget.afterAll editor.greeting = ⟨editor.props.value, editor.props.disabled⟩ := by
  cases wants : editor.wantsFocus <;> simp [greeting, wants, Widget.afterAll, Widget.after]

/-- Corrections bring a widget in line, if it holds what it is taken to hold. -/
theorem afterAll_corrections (shown : Shown) (props : Props) :
    shown.widget.afterAll (corrections shown props) = ⟨props.value, props.disabled⟩ := by
  by_cases sameFlag : props.disabled = shown.readOnly
  · by_cases sameText : props.value = shown.text
    · simp [corrections, sameFlag, sameText, Widget.afterAll, Shown.widget]
    · simp [corrections, sameFlag, sameText, Widget.afterAll, Widget.after, Shown.widget]
  · by_cases sameText : props.value = shown.text
    · simp [corrections, sameFlag, sameText, Widget.afterAll, Widget.after, Shown.widget]
    · simp [corrections, sameFlag, sameText, Widget.afterAll, Widget.after, Shown.widget]

end Editor

/-! ### Scenes -/

/-- A workspace with the widgets of its surfaces, by number. -/
structure Scene where
  workspace : Workspace
  widgets : Nat → Widget

namespace Scene

/-- The widgets after a user has typed what an operation reports. -/
def typed (scene : Scene) (operation : Workspace.Operation) (number : Nat) : Widget :=
  match scene.workspace.typed? operation with
  | some (surface, text) =>
      if surface = number then { scene.widgets number with text } else scene.widgets number
  | none => scene.widgets number

/-- A user types what the operation reports, the operation is carried out, and the
widgets do what they are asked for. -/
def perform (scene : Scene) (operation : Workspace.Operation) : Scene :=
  let reply := scene.workspace.perform operation
  { workspace := reply.workspace
    widgets := fun number => (scene.typed operation number).afterAll (calls number reply.effects) }

def run (scene : Scene) (operations : List Workspace.Operation) : Scene :=
  operations.foldl perform scene

/-- An empty workspace; its surfaces are widgets that may hold anything. -/
def start (firstPath : Nat) (widgets : Nat → Widget) : Scene :=
  ⟨Workspace.start firstPath, widgets⟩

theorem workspace_run (scene : Scene) (operations : List Workspace.Operation) :
    (scene.run operations).workspace = scene.workspace.run operations := by
  induction operations generalizing scene with
  | nil => rfl
  | cons operation rest ih => exact ih (scene.perform operation)

variable {scene : Scene} {operation : Workspace.Operation} {number : Nat}

@[simp] theorem workspace_perform (scene : Scene) (operation : Workspace.Operation) :
    (scene.perform operation).workspace = (scene.workspace.perform operation).workspace := rfl

theorem widgets_of_silent (untyped : scene.workspace.typed? operation = none)
    (silent : calls number (scene.workspace.perform operation).effects = []) :
    (scene.perform operation).widgets number = scene.widgets number := by
  simp only [perform, typed, untyped, silent, Widget.afterAll, List.foldl_nil]

/-! ### The invariant -/

/-- Each mounted editor has a surface of its own, and the widget there is as the
editor takes it to be. -/
structure Mirrors (scene : Scene) : Prop where
  shows : ∀ id shown, scene.workspace.shown? id = some shown →
    scene.widgets shown.surface = shown.widget
  used : ∀ id shown, scene.workspace.shown? id = some shown →
    0 < shown.surface ∧ shown.surface ≤ scene.workspace.surfaces
  apart : ∀ id other shown rival, scene.workspace.shown? id = some shown →
    scene.workspace.shown? other = some rival → shown.surface = rival.surface → id = other

namespace Mirrors

theorem start (firstPath : Nat) (widgets : Nat → Widget) :
    (Scene.start firstPath widgets).Mirrors := by
  have hidden (id : String) (shown : Shown)
      (given : (Scene.start firstPath widgets).workspace.shown? id = some shown) : False := by
    change none = some shown at given
    cases given
  constructor
  · intro id shown given
    exact (hidden id shown given).elim
  · intro id shown given
    exact (hidden id shown given).elim
  · intro id other shown rival given
    exact (hidden id shown given).elim

/-- Editors that show what they showed, or nothing any more. -/
theorem of_fewer {next : Scene} (mirrors : scene.Mirrors)
    (fewer : ∀ id, next.workspace.shown? id = none ∨
      next.workspace.shown? id = scene.workspace.shown? id)
    (surfaces : next.workspace.surfaces = scene.workspace.surfaces)
    (widgets : ∀ number, next.widgets number = scene.widgets number) : next.Mirrors := by
  have before {id : String} {shown : Shown} (given : next.workspace.shown? id = some shown) :
      scene.workspace.shown? id = some shown := by
    cases fewer id with
    | inl absent => rw [absent] at given; cases given
    | inr same => rw [← same, given]
  constructor
  · intro id shown given
    rw [widgets, mirrors.shows id shown (before given)]
  · intro id shown given
    rw [surfaces]
    exact mirrors.used id shown (before given)
  · intro id other shown rival given rivalGiven
    exact mirrors.apart id other shown rival (before given) (before rivalGiven)

/-- One editor shows something new, on a surface that no other editor is on. -/
theorem of_one {next : Scene} {id : String} {shown : Shown} (mirrors : scene.Mirrors)
    (shows : next.workspace.shown? id = some shown)
    (others : ∀ other, other ≠ id →
      next.workspace.shown? other = scene.workspace.shown? other)
    (grows : scene.workspace.surfaces ≤ next.workspace.surfaces)
    (used : 0 < shown.surface ∧ shown.surface ≤ next.workspace.surfaces)
    (free : ∀ other rival, other ≠ id → scene.workspace.shown? other = some rival →
      rival.surface ≠ shown.surface)
    (widget : next.widgets shown.surface = shown.widget)
    (elsewhere : ∀ number, number ≠ shown.surface →
      next.widgets number = scene.widgets number) : next.Mirrors := by
  have own {given : Shown} (found : next.workspace.shown? id = some given) : given = shown :=
    Option.some.inj (found.symm.trans shows)
  constructor
  · intro other rival given
    by_cases same : other = id
    · subst same
      rw [own given, widget]
    · rw [others other same] at given
      rw [elsewhere _ (free other rival same given), mirrors.shows other rival given]
  · intro other rival given
    by_cases same : other = id
    · subst same
      rw [own given]
      exact used
    · rw [others other same] at given
      have before := mirrors.used other rival given
      omega
  · intro first second left right leftGiven rightGiven meet
    by_cases firstSame : first = id
    · by_cases secondSame : second = id
      · rw [firstSame, secondSame]
      · subst firstSame
        rw [others second secondSame] at rightGiven
        exact absurd (meet.symm.trans (by rw [own leftGiven])) (free second right secondSame rightGiven)
    · rw [others first firstSame] at leftGiven
      by_cases secondSame : second = id
      · subst secondSame
        exact absurd (meet.trans (by rw [own rightGiven])) (free first left firstSame leftGiven)
      · rw [others second secondSame] at rightGiven
        exact mirrors.apart first second left right leftGiven rightGiven meet

/-- The surface of an editor is free of others. -/
theorem free (mirrors : scene.Mirrors) {id : String} {shown : Shown}
    (given : scene.workspace.shown? id = some shown) (other : String) (rival : Shown)
    (differs : other ≠ id) (rivalGiven : scene.workspace.shown? other = some rival) :
    rival.surface ≠ shown.surface :=
  fun meet => differs (mirrors.apart other id rival shown rivalGiven given meet)

/-- Whatever the operation is, the widgets mirror the editors after it. -/
theorem perform (mirrors : scene.Mirrors) (operation : Workspace.Operation) :
    (scene.perform operation).Mirrors := by
  cases scene.workspace.turn_perform operation with
  | rests untyped shows surfaces asked =>
      exact mirrors.of_fewer shows surfaces fun number => widgets_of_silent untyped (asked number)
  | mounts id host editor own found shows others surfaces asked =>
      have untyped : scene.workspace.typed? operation = none := by rw [own]; rfl
      refine mirrors.of_one shows others ?_ ?_ ?_ ?_ ?_
      · simp only [workspace_perform, surfaces]
        omega
      · simp only [workspace_perform, surfaces]
        omega
      · intro other rival _ given
        have before := mirrors.used other rival given
        show rival.surface ≠ scene.workspace.surfaces + 1
        omega
      · simp only [Scene.perform, asked, if_true, Editor.afterAll_greeting, Shown.widget]
      · intro number differs
        exact widgets_of_silent untyped (by rw [asked, if_neg (Ne.symm differs)])
  | updates id request props shown own known showed shows others surfaces asked =>
      have untyped : scene.workspace.typed? operation = none := by rw [own]; rfl
      have free := mirrors.free showed
      refine mirrors.of_one shows others (Nat.le_of_eq surfaces.symm) ?_ free ?_ ?_
      · rw [workspace_perform, surfaces]
        exact mirrors.used id shown showed
      · simp only [Scene.perform, asked, if_true, typed, untyped, mirrors.shows id shown showed,
          Editor.afterAll_corrections]
        rfl
      · intro number differs
        exact widgets_of_silent untyped (by rw [asked, if_neg (Ne.symm differs)])
  | types id text shown own showed shows others surfaces asked =>
      have reported : scene.workspace.typed? operation = some (shown.surface, text.getD "") := by
        rw [own, Workspace.typed?, showed, Option.map_some]
      have free := mirrors.free showed
      refine mirrors.of_one shows others (Nat.le_of_eq surfaces.symm) ?_ free ?_ ?_
      · rw [workspace_perform, surfaces]
        exact mirrors.used id shown showed
      · simp only [Scene.perform, asked, typed, reported, if_true, Widget.afterAll, List.foldl_nil,
          mirrors.shows id shown showed, Shown.widget]
      · intro number differs
        simp only [Scene.perform, asked, typed, reported, if_neg (Ne.symm differs),
          Widget.afterAll, List.foldl_nil]

theorem run (mirrors : scene.Mirrors) (operations : List Workspace.Operation) :
    (scene.run operations).Mirrors := by
  induction operations generalizing scene with
  | nil => exact mirrors
  | cons operation rest ih => exact ih (mirrors.perform operation)

end Mirrors

end Scene

/-! ### What a surface receives -/

def SurfaceCall.isCommand : SurfaceCall → Bool
  | .addCommand _ => true
  | .updateOptions _ | .setText _ | .focus => false

namespace Editor

theorem filter_greeting (editor : Editor) :
    editor.greeting.filter SurfaceCall.isCommand = [.addCommand .commit] := by
  cases wants : editor.wantsFocus <;> simp [greeting, wants, List.filter, SurfaceCall.isCommand]

theorem filter_corrections (shown : Shown) (props : Props) :
    (corrections shown props).filter SurfaceCall.isCommand = [] := by
  rw [corrections, List.filter_append, List.append_eq_nil_iff]
  constructor <;> split <;> rfl

end Editor

namespace Workspace

/-- What the surface with a number receives in the course of a run. -/
def received (workspace : Workspace) (number : Nat) (operations : List Operation) :
    List SurfaceCall :=
  calls number (workspace.effects operations)

theorem received_cons (workspace : Workspace) (number : Nat) (operation : Operation)
    (later : List Operation) : workspace.received number (operation :: later) =
      calls number (workspace.perform operation).effects ++
        (workspace.perform operation).workspace.received number later :=
  calls_append number _ _

theorem surfaces_perform (workspace : Workspace) (operation : Operation) :
    workspace.surfaces ≤ (workspace.perform operation).workspace.surfaces := by
  cases workspace.turn_perform operation with
  | rests _ _ surfaces _ => omega
  | mounts _ _ _ _ _ _ _ surfaces _ => omega
  | updates _ _ _ _ _ _ _ _ _ surfaces _ => omega
  | types _ _ _ _ _ _ _ surfaces _ => omega

theorem surfaces_run (workspace : Workspace) (operations : List Operation) :
    workspace.surfaces ≤ (workspace.run operations).surfaces := by
  induction operations generalizing workspace with
  | nil => exact Nat.le_refl _
  | cons operation rest ih =>
      exact Nat.le_trans (workspace.surfaces_perform operation)
        (ih (workspace.perform operation).workspace)

/-- A command is added where an operation takes a surface into use, and only there. -/
theorem filter_calls_perform (workspace : Workspace) (operation : Operation) (number : Nat) :
    (calls number (workspace.perform operation).effects).filter SurfaceCall.isCommand =
      if workspace.surfaces < number ∧
          number ≤ (workspace.perform operation).workspace.surfaces
        then [.addCommand .commit] else [] := by
  cases workspace.turn_perform operation with
  | rests untyped shows surfaces asked =>
      rw [asked, surfaces, if_neg (by omega), List.filter_nil]
  | mounts id host editor own found shows others surfaces asked =>
      rw [asked, surfaces]
      by_cases taken : workspace.surfaces + 1 = number
      · rw [if_pos taken, if_pos (by omega)]
        exact editor.filter_greeting
      · rw [if_neg taken, if_neg (by omega), List.filter_nil]
  | updates id request props shown own known showed shows others surfaces asked =>
      have unused : ¬(workspace.surfaces < number ∧ number ≤ workspace.surfaces) := by omega
      rw [asked, surfaces, if_neg unused]
      split
      · exact Editor.filter_corrections shown props
      · exact List.filter_nil
  | types id text shown own showed shows others surfaces asked =>
      rw [asked, surfaces, if_neg (by omega), List.filter_nil]

/-- Each surface that a run takes into use is given one command, and no other
surface is given any. -/
theorem filter_received (workspace : Workspace) (operations : List Operation) (number : Nat) :
    (workspace.received number operations).filter SurfaceCall.isCommand =
      if workspace.surfaces < number ∧ number ≤ (workspace.run operations).surfaces
        then [.addCommand .commit] else [] := by
  induction operations generalizing workspace with
  | nil =>
      have unused : ¬(workspace.surfaces < number ∧ number ≤ (workspace.run []).surfaces) := by
        show ¬(workspace.surfaces < number ∧ number ≤ workspace.surfaces)
        omega
      rw [if_neg unused]
      rfl
  | cons operation rest ih =>
      have first := workspace.surfaces_perform operation
      have further := (workspace.perform operation).workspace.surfaces_run rest
      rw [received_cons, List.filter_append, filter_calls_perform, ih]
      show _ = if workspace.surfaces < number ∧
        number ≤ ((workspace.perform operation).workspace.run rest).surfaces then _ else _
      by_cases early : number ≤ (workspace.perform operation).workspace.surfaces
      · by_cases used : workspace.surfaces < number
        · rw [if_pos ⟨used, early⟩, if_neg (by omega), if_pos (by omega), List.append_nil]
        · rw [if_neg (by omega), if_neg (by omega), if_neg (by omega), List.append_nil]
      · by_cases late : number ≤ ((workspace.perform operation).workspace.run rest).surfaces
        · rw [if_neg (by omega), if_pos (by omega), if_pos (by omega), List.nil_append]
        · rw [if_neg (by omega), if_neg (by omega), if_neg (by omega), List.append_nil]

section Abandoned

variable {workspace : Workspace} {operation : Operation} {number : Nat}

/-- Who is on a surface that was in use was there before. -/
theorem shown?_before {id : String} {after : Shown}
    (given : (workspace.perform operation).workspace.shown? id = some after)
    (old : after.surface ≤ workspace.surfaces) :
    ∃ before, workspace.shown? id = some before ∧ before.surface = after.surface := by
  -- one editor shows something new; it does so on the surface it was on, or on a new one
  have of_one {own : String} {shown : Shown}
      (shows : (workspace.perform operation).workspace.shown? own = some shown)
      (others : ∀ other, other ≠ own →
        (workspace.perform operation).workspace.shown? other = workspace.shown? other)
      (stays : id = own → after = shown →
        ∃ before, workspace.shown? id = some before ∧ before.surface = after.surface) :
      ∃ before, workspace.shown? id = some before ∧ before.surface = after.surface := by
    by_cases same : id = own
    · rw [same, shows] at given
      exact stays same (Option.some.inj given).symm
    · exact ⟨after, others id same ▸ given, rfl⟩
  cases workspace.turn_perform operation with
  | rests untyped shows surfaces asked =>
      cases shows id with
      | inl absent => rw [absent] at given; cases given
      | inr same => exact ⟨after, same ▸ given, rfl⟩
  | mounts own host editor _ found shows others surfaces asked =>
      refine of_one shows others fun _ same => ?_
      rw [same] at old
      exact absurd old (Nat.not_succ_le_self _)
  | updates own request props shown _ known showed shows others surfaces asked =>
      exact of_one shows others fun same moved => ⟨shown, same ▸ showed, by rw [moved]⟩
  | types own text shown _ showed shows others surfaces asked =>
      exact of_one shows others fun same moved => ⟨shown, same ▸ showed, by rw [moved]⟩

/-- Who asks something of a surface is on it afterwards. -/
theorem shown?_of_asked (asks : calls number (workspace.perform operation).effects ≠ []) :
    ∃ id after, (workspace.perform operation).workspace.shown? id = some after ∧
      after.surface = number := by
  cases workspace.turn_perform operation with
  | rests untyped shows surfaces asked => exact absurd (asked number) asks
  | mounts id host editor own found shows others surfaces asked =>
      rw [asked] at asks
      by_cases same : workspace.surfaces + 1 = number
      · exact ⟨id, _, shows, same⟩
      · exact absurd (if_neg same) asks
  | updates id request props shown own known showed shows others surfaces asked =>
      rw [asked] at asks
      by_cases same : shown.surface = number
      · exact ⟨id, _, shows, same⟩
      · exact absurd (if_neg same) asks
  | types id text shown own showed shows others surfaces asked => exact absurd (asked number) asks

/-- A surface that was in use and that no editor is mounted on any more. -/
structure Abandoned (workspace : Workspace) (number : Nat) : Prop where
  used : number ≤ workspace.surfaces
  left : ∀ id shown, workspace.shown? id = some shown → shown.surface ≠ number

namespace Abandoned

/-- An operation that leaves a surface abandoned asks nothing of it. -/
theorem silent (abandoned : (workspace.perform operation).workspace.Abandoned number) :
    calls number (workspace.perform operation).effects = [] := by
  by_cases asks : calls number (workspace.perform operation).effects = []
  · exact asks
  · obtain ⟨id, after, given, there⟩ := shown?_of_asked asks
    exact absurd there (abandoned.left id after given)

theorem perform (abandoned : workspace.Abandoned number) (operation : Operation) :
    (workspace.perform operation).workspace.Abandoned number := by
  refine ⟨Nat.le_trans abandoned.used (workspace.surfaces_perform operation), ?_⟩
  intro id after given there
  obtain ⟨before, showed, same⟩ := shown?_before given (by rw [there]; exact abandoned.used)
  exact abandoned.left id before showed (same.trans there)

/-- Nothing is asked of an abandoned surface ever again. -/
theorem received (abandoned : workspace.Abandoned number) (later : List Operation) :
    workspace.received number later = [] := by
  induction later generalizing workspace with
  | nil => rfl
  | cons operation rest ih =>
      have next := abandoned.perform operation
      rw [received_cons, next.silent, ih next, List.append_nil]

end Abandoned

end Abandoned

end Workspace

/-! ### Runs -/

namespace Scene

variable {scene : Scene} {id : String}

/-- The widget of the surface that an editor is mounted on. -/
def widget? (scene : Scene) (id : String) : Option Widget :=
  (scene.workspace.shown? id).map fun shown => scene.widgets shown.surface

namespace Mirrors

theorem widget? (mirrors : scene.Mirrors) (id : String) :
    scene.widget? id = (scene.workspace.shown? id).map Shown.widget := by
  cases showed : scene.workspace.shown? id with
  | none => simp only [Scene.widget?, showed, Option.map_none]
  | some shown => simp only [Scene.widget?, showed, Option.map_some, mirrors.shows id shown showed]

/-- Nothing more is asked of the surface that an operation takes its editor from. -/
theorem received_of_left (mirrors : scene.Mirrors) {shown : Shown} {operation : Workspace.Operation}
    (showed : scene.workspace.shown? id = some shown)
    (leaves : ∀ after, (scene.workspace.perform operation).workspace.shown? id = some after →
      after.surface ≠ shown.surface) (later : List Workspace.Operation) :
    scene.workspace.received shown.surface (operation :: later) = [] := by
  have used := (mirrors.used id shown showed).2
  have abandoned : (scene.workspace.perform operation).workspace.Abandoned shown.surface := by
    refine ⟨Nat.le_trans used (scene.workspace.surfaces_perform operation), ?_⟩
    intro other after given there
    obtain ⟨before, showedBefore, same⟩ := Workspace.shown?_before given (by omega)
    have own : other = id :=
      mirrors.apart other id before shown showedBefore showed (same.trans there)
    exact leaves after (own ▸ given) there
  rw [Workspace.received_cons, abandoned.silent, abandoned.received, List.append_nil]

end Mirrors

/-- What an update asks for, put by what the widget holds. -/
theorem Mirrors.calls_update (mirrors : scene.Mirrors) {editor : Editor}
    (found : scene.workspace.editors.get? id = some editor) {request : Workspace.PropsRequest}
    {props : Props} (known : scene.workspace.findProps request = some props) (number : Nat) :
    calls number (scene.workspace.perform (.update id request)).effects =
      if editor.mounted.map (·.surface) = some number then
        (if props.disabled = editor.props.disabled then []
          else [.updateOptions { readOnly := props.disabled }]) ++
        (if props.value = (scene.widgets number).text then [] else [.setText props.value])
      else [] := by
  have asked := editor.calls_update scene.workspace.hosts props number
  have holds := mirrors.shows id
  rw [Workspace.shown?_of_found found] at holds
  rw [Workspace.perform, Workspace.update_of_known found known]
  show calls number (editor.update props scene.workspace.hosts).effects = _
  rw [asked, Editor.shown?]
  cases here : editor.mounted with
  | none => simp
  | some mounted =>
      simp only [Option.map_some, Option.some.injEq]
      by_cases same : mounted.surface = number
      · have held := holds ⟨mounted.surface, mounted.content, editor.props.disabled⟩
          (by rw [Editor.shown?, here, Option.map_some])
        rw [if_pos same, if_pos same, ← same, held]
        rfl
      · rw [if_neg same, if_neg same]

/-- Where an editor leaves its surface, nothing more is asked of that surface. -/
theorem Mirrors.received_of_leaves (mirrors : scene.Mirrors) {editor : Editor} {mounted : Mounted}
    (found : scene.workspace.editors.get? id = some editor) (here : editor.mounted = some mounted)
    {host : String} {operation : Workspace.Operation}
    (leaves : operation ∈ [.unmount id, .dropEditor id, .mount id host])
    (later : List Workspace.Operation) :
    scene.workspace.received mounted.surface (operation :: later) = [] := by
  have showed : scene.workspace.shown? id =
      some ⟨mounted.surface, mounted.content, editor.props.disabled⟩ := by
    rw [Workspace.shown?_of_found found, Editor.shown?, here, Option.map_some]
  refine mirrors.received_of_left showed (fun after given => ?_) later
  simp only [List.mem_cons, List.not_mem_nil, or_false] at leaves
  rcases leaves with rfl | rfl | rfl
  · rw [Workspace.perform, Workspace.onEditor_of_found found, Workspace.shown?_afterEditor,
      if_pos rfl, Editor.shown?_unmount] at given
    cases given
  · rw [Workspace.perform, Workspace.shown?_dropEditor, if_pos rfl] at given
    cases given
  · rw [Workspace.perform, Workspace.shown?_mount_of_found found] at given
    have used : mounted.surface ≤ scene.workspace.surfaces := (mirrors.used id _ showed).2
    cases given
    show scene.workspace.surfaces + 1 ≠ mounted.surface
    omega

/-- **A surface mirrors the props of its editor.** In every scene that a run leads
to, whatever the surfaces held at first and whatever users type:
* a mounted editor knows the text of its widget, which may be typed into exactly if
  the editor is not disabled;
* a mount, and an update of a mounted editor, leave the text that the props give;
* an update asks the editor's own surface for its text exactly if it differs from
  what the widget holds and for its flag exactly if that changes, and asks no other
  surface for anything;
* a surface that an editor is unmounted from, dropped on or moved away from
  receives nothing from then on;
* each surface that was ever mounted on was given the commit command once. -/
theorem mirrored_run (firstPath : Nat) (widgets : Nat → Widget)
    (operations : List Workspace.Operation) :
    let scene := (start firstPath widgets).run operations
    (∀ id editor, scene.workspace.editors.get? id = some editor →
      scene.widget? id =
        (editor.mounted.map fun mounted => ⟨mounted.content, editor.props.disabled⟩) ∧
      (∀ host, (scene.perform (.mount id host)).widget? id =
        some ⟨editor.props.value, editor.props.disabled⟩) ∧
      (∀ request props, scene.workspace.findProps request = some props →
        (editor.isMounted = true →
          (scene.perform (.update id request)).widget? id = some ⟨props.value, props.disabled⟩) ∧
        ∀ number, calls number (scene.workspace.perform (.update id request)).effects =
          if editor.mounted.map (·.surface) = some number then
            (if props.disabled = editor.props.disabled then []
              else [.updateOptions { readOnly := props.disabled }]) ++
            (if props.value = (scene.widgets number).text then [] else [.setText props.value])
          else []) ∧
      ∀ mounted, editor.mounted = some mounted →
        ∀ host, ∀ operation ∈ [.unmount id, .dropEditor id, .mount id host], ∀ later,
          scene.workspace.received mounted.surface (operation :: later) = []) ∧
    ∀ number, ((Workspace.start firstPath).received number operations).filter
        SurfaceCall.isCommand =
      if 0 < number ∧ number ≤ scene.workspace.surfaces then [.addCommand .commit] else [] := by
  intro scene
  have mirrors : scene.Mirrors := (Mirrors.start firstPath widgets).run operations
  refine ⟨fun id editor found => ?_, fun number => ?_⟩
  · refine ⟨?_, fun host => ?_, fun request props known => ⟨fun isMounted => ?_, ?_⟩, ?_⟩
    · rw [mirrors.widget?, Workspace.shown?_of_found found, Editor.shown?, Option.map_map]
      rfl
    · rw [(mirrors.perform _).widget?, workspace_perform, Workspace.perform,
        Workspace.shown?_mount_of_found found]
      rfl
    · obtain ⟨mounted, here⟩ := Option.isSome_iff_exists.1 isMounted
      rw [(mirrors.perform _).widget?, workspace_perform, Workspace.perform,
        Workspace.shown?_update_of_known found known, Editor.shown?, here]
      rfl
    · exact mirrors.calls_update found known
    · exact fun mounted here host operation leaves => mirrors.received_of_leaves found here leaves
  · rw [workspace_run]
    exact Workspace.filter_received _ operations number

/-- An editor whose text a user has replaced. -/
def retyped : List Workspace.Operation :=
  [.bindScope "scope" ⟨[]⟩, .makeEditor "editor" ⟨"a", "scope", false, false⟩ {} none,
    .mount "editor" "host", .edit "editor" (some "b")]

/-- The owner may take the edit over, which asks for nothing, or refuse it by its old
text, which is then set again. -/
theorem mirrored_retyped :
    let scene := (start 0 fun _ => ⟨"stale", true⟩).run retyped
    scene.widget? "editor" = some ⟨"b", false⟩ ∧
    calls 1 (scene.workspace.perform (.update "editor" ⟨"b", "scope", false, false⟩)).effects = [] ∧
    calls 1 (scene.workspace.perform (.update "editor" ⟨"a", "scope", false, false⟩)).effects =
      [.setText "a"] ∧
    (scene.perform (.update "editor" ⟨"a", "scope", false, false⟩)).widget? "editor" =
      some ⟨"a", false⟩ ∧
    ∀ later, scene.workspace.received 1 (.unmount "editor" :: later) = [] := by
  intro scene
  obtain ⟨editors, -⟩ := mirrored_run 0 (fun _ => ⟨"stale", true⟩) retyped
  have mounted : (scene.workspace.editors.get? "editor").map (fun editor =>
      (editor.mounted, editor.props.disabled)) = some (some ⟨1, .commit, "b"⟩, false) := by decide
  have known (value : String) :
      scene.workspace.findProps ⟨value, "scope", false, false⟩ =
        some ⟨value, ⟨0, ⟨[]⟩⟩, false, false⟩ := rfl
  obtain ⟨editor, found, both⟩ := Option.map_eq_some_iff.1 mounted
  obtain ⟨here, enabled⟩ := Prod.mk.inj both
  obtain ⟨shows, -, updates, leaves⟩ := editors "editor" editor found
  have holds : (scene.widgets 1).text = "b" := by decide
  refine ⟨?_, ?_, ?_, ?_, leaves _ here "host" _ List.mem_cons_self⟩
  · rw [shows, here, enabled, Option.map_some]
  · rw [(updates _ _ (known "b")).2, here, enabled, holds]
    rfl
  · rw [(updates _ _ (known "a")).2, here, enabled, holds]
    rfl
  · exact (updates _ _ (known "a")).1 (by rw [Editor.isMounted, here, Option.isSome_some])

end Scene

end LiveScope
