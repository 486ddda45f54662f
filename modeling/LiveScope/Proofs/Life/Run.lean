/- # LiveScope.Proofs.Life.Run — one editor's life, call by call

An editor's owner mounts it, updates it, unmounts it and swaps its commit callback; its
user edits the text and presses chords. These are its calls (`Editor.Call`). `perform`
carries out one of them, `live` one after the other, and what others see is kept in
order. The hosts are not the editor's own: others may change them between two calls
(`meanwhile`).

What a call makes of the editor is told up to its document and its registry, which
nothing here depends on (`after`, `editor_perform`). What others see of it is told apart
from the log (`shows`, `filterMap_perform`). These two are the only places where the calls
are gone through by what they do.

The past of an editor is the list of its calls. `latest` is the last word that they say
on something, which is what an editor keeps that takes every such word over
(`read_live`); `course` is what each call gives rise to, after those before it.
-/
import LiveScope.Proofs.Surface.Turn
import Mathlib.Data.List.Induction

namespace LiveScope

set_option autoImplicit false

namespace Editor

/-! ### Calls -/

/-- What happens to an editor. -/
inductive Call where
  | mount (surface : Nat) (host : String)
  | update (props : Props)
  | edit (text : Option String)
  | command (chord : KeyChord)
  | setOnCommit (label : Option String)
  | unmount
  /-- Others leave the hosts like this. -/
  | meanwhile (hosts : Hosts)

def perform : Call → Editor → Hosts → Outcome
  | .mount surface host, editor, hosts => editor.mount surface host hosts
  | .update props, editor, hosts => editor.update props hosts
  | .edit text, editor, hosts => editor.handleEdit text hosts
  | .command chord, editor, hosts => editor.handleCommand chord hosts
  | .setOnCommit label, editor, hosts => ⟨editor.setOnCommit label, hosts, []⟩
  | .unmount, editor, hosts => editor.unmount hosts
  | .meanwhile changed, editor, _ => ⟨editor, changed, []⟩

theorem editor_unmount (editor : Editor) (hosts : Hosts) : ∃ registry,
    (editor.unmount hosts).editor = { editor with registry, mounted := none } := by
  unfold unmount
  split
  · next absent => exact ⟨editor.registry, by rw [← absent]⟩
  · exact ⟨_, rfl⟩

/-- What a call makes of an editor, apart from its document and its registry. -/
def after (editor : Editor) : Call → Editor
  | .mount surface _ =>
      { editor with
        focused := editor.focused || editor.wantsFocus
        mounted := some ⟨surface, .commit, editor.props.value⟩ }
  | .update props =>
      { editor with
        props
        mounted := editor.mounted.map fun mounted => { mounted with content := props.value } }
  | .edit text =>
      { editor with
        mounted := editor.mounted.map fun mounted => { mounted with content := text.getD "" } }
  | .setOnCommit onCommit => { editor with onCommit }
  | .unmount => { editor with mounted := none }
  | .command _ | .meanwhile _ => editor

theorem editor_perform (editor : Editor) (call : Call) (hosts : Hosts) :
    ∃ document registry, (editor.perform call hosts).editor =
      { editor.after call with document, registry } := by
  cases call with
  | mount surface host =>
      obtain ⟨registry, left⟩ := editor.editor_unmount hosts
      simp only [perform, mount, Outcome.andThen, mountFresh, left, after, wantsFocus]
      exact ⟨_, _, rfl⟩
  | update props =>
      obtain ⟨document, registry, declared⟩ := editor_declareScope props.scope editor hosts
      refine ⟨document, registry, ?_⟩
      simp only [perform, update, Outcome.andThen, editor_adopt, declared, after]
  | unmount =>
      obtain ⟨registry, left⟩ := editor.editor_unmount hosts
      exact ⟨editor.document, registry, left⟩
  | edit | command | setOnCommit | meanwhile => exact ⟨editor.document, editor.registry, rfl⟩

/-! ### What others see of a call, apart from the log -/

/-- What a call shows to a surface or to a callback. -/
def shows (editor : Editor) : Call → List Effect
  | .mount surface _ => editor.greeting.map (.surface surface)
  | .update props =>
      match editor.shown? with
      | none => []
      | some shown => (corrections shown props).map (.surface shown.surface)
  | .edit text => [.changed (text.getD "")]
  | .command chord =>
      if editor.handles chord then editor.onCommit.toList.map .committed else []
  | .setOnCommit _ | .unmount | .meanwhile _ => []

section Effects

variable (editor : Editor) (hosts : Hosts) {α : Type} {select : Effect → Option α}
  (apart : ∀ event, select (.logged event) = none)

include apart

theorem filterMap_logged (events : List Log.Event) : (events.map .logged).filterMap select = [] := by
  rw [List.filterMap_map, List.filterMap_eq_nil_iff]
  exact fun event _ => apart event

theorem filterMap_unmount : (editor.unmount hosts).effects.filterMap select = [] := by
  unfold unmount
  split
  · rfl
  · simp only [ofRegistry, List.filterMap_append, filterMap_logged apart, List.nil_append,
      List.filterMap_cons, apart, List.filterMap_nil]

/-- A mount is seen by the surface that is greeted. -/
theorem filterMap_mount (surface : Nat) (host : String) :
    (editor.mount surface host hosts).effects.filterMap select =
      (editor.greeting.map (.surface surface)).filterMap select := by
  simp only [mount, Outcome.andThen, mountFresh, List.filterMap_append, filterMap_unmount _ _ apart,
    filterMap_logged apart, greeting_unmount, List.nil_append, List.append_nil,
    List.filterMap_cons, apart, List.filterMap_nil]

theorem filterMap_declareScope (scope : SharedScope) :
    (editor.declareScope scope hosts).effects.filterMap select = [] := by
  unfold declareScope
  split
  · rfl
  · simp only
    split
    · exact filterMap_logged apart _
    · simp only [ofRegistry, List.filterMap_append, filterMap_logged apart, List.nil_append,
        List.filterMap_cons, apart]

/-- An update is seen by the surface that shows the editor, which is asked for what
differs. -/
theorem filterMap_update (props : Props) :
    (editor.update props hosts).effects.filterMap select =
      (editor.shows (.update props)).filterMap select := by
  obtain ⟨document, registry, declared⟩ := editor_declareScope props.scope editor hosts
  simp only [update, Outcome.andThen, List.filterMap_append, filterMap_declareScope _ _ apart,
    List.nil_append, adopt, declared, shows, shown?]
  cases editor.mounted with
  | none => rfl
  | some mounted =>
      simp only [Option.map_some, corrections, List.map_append, List.filterMap_append]
      congr 1 <;> split <;> rfl

theorem filterMap_perform (call : Call) :
    (editor.perform call hosts).effects.filterMap select = (editor.shows call).filterMap select := by
  cases call with
  | mount surface host => exact editor.filterMap_mount hosts apart surface host
  | update props => exact editor.filterMap_update hosts apart props
  | unmount => exact editor.filterMap_unmount hosts apart
  | edit | command | setOnCommit | meanwhile => rfl

end Effects

/-! ### Lives -/

/-- Carry out calls one after the other; what others see of them is seen in order. -/
def live (calls : List Call) (editor : Editor) (hosts : Hosts) : Outcome :=
  calls.foldl (fun life call => life.andThen (perform call)) ⟨editor, hosts, []⟩

section Lives

variable {editor : Editor} {hosts : Hosts}

theorem live_concat (calls : List Call) (call : Call) :
    editor.live (calls ++ [call]) hosts = (editor.live calls hosts).andThen (perform call) := by
  simp only [live, List.foldl_append, List.foldl_cons, List.foldl_nil]

/-- What others see of the first call is seen before the rest. -/
theorem live_cons (call : Call) (rest : List Call) :
    editor.live (call :: rest) hosts = (editor.perform call hosts).andThen (live rest) := by
  induction rest using List.reverseRecOn with
  | nil => simp [live, Outcome.andThen]
  | append_singleton rest next ih =>
      rw [← List.cons_append, live_concat, ih]
      simp only [Outcome.andThen, live_concat, List.append_assoc]

/-- What holds of an editor before its first call, and after each call if it held before,
holds all its life. -/
theorem holds_live {motive : List Call → Editor → Prop} (first : motive [] editor)
    (step : ∀ calls call editor hosts, motive calls editor →
      motive (calls ++ [call]) (editor.perform call hosts).editor) (calls : List Call) :
    motive calls (editor.live calls hosts).editor := by
  induction calls using List.reverseRecOn with
  | nil => exact first
  | append_singleton calls call ih =>
      rw [live_concat]
      exact step calls call _ _ ih

end Lives

/-! ### The past of an editor -/

/-- The last word of `calls` on what `select` picks out, or else `initial`. -/
def latest {α : Type} (select : Call → Option α) (initial : α) (calls : List Call) : α :=
  (calls.filterMap select).getLast?.getD initial

theorem latest_concat {α : Type} (select : Call → Option α) (initial : α) (calls : List Call)
    (call : Call) : latest select initial (calls ++ [call]) =
      (select call).getD (latest select initial calls) := by
  rw [latest, List.filterMap_append]
  cases word : select call with
  | none => simp [latest, word]
  | some said => simp [word]

/-- What every call leaves as it is or sets is, after a life, what was set last. -/
theorem read_live {α : Type} (read : Editor → α) (select : Call → Option α)
    (takes : ∀ editor call hosts,
      read (perform call editor hosts).editor = (select call).getD (read editor))
    (editor : Editor) (hosts : Hosts) (calls : List Call) :
    read (editor.live calls hosts).editor = latest select (read editor) calls := by
  apply holds_live (motive := fun calls after => read after = latest select (read editor) calls)
  · rfl
  · intro calls call after hosts same
    rw [takes, latest_concat, same]

/-- What each of some calls gives rise to, which may depend on all `earlier` ones. -/
def course {α : Type} (due : List Call → Call → List α) : List Call → List Call → List α
  | _, [] => []
  | earlier, call :: rest => due earlier call ++ course due (earlier ++ [call]) rest

theorem course_concat {α : Type} (due : List Call → Call → List α) (earlier calls : List Call)
    (call : Call) : course due earlier (calls ++ [call]) =
      course due earlier calls ++ due (earlier ++ calls) call := by
  induction calls generalizing earlier with
  | nil => simp [course]
  | cons first rest ih => simp [course, ih, List.append_assoc]

/-- If every call shows what is due after the calls before it, the whole life does. -/
theorem filterMap_effects_live {α : Type} {editor : Editor} {hosts : Hosts}
    (select : Effect → Option α) (due : List Call → Call → List α)
    (shows : ∀ calls call, let life := editor.live calls hosts
      (life.editor.perform call life.hosts).effects.filterMap select = due calls call)
    (calls : List Call) :
    (editor.live calls hosts).effects.filterMap select = course due [] calls := by
  induction calls using List.reverseRecOn with
  | nil => rfl
  | append_singleton calls call ih =>
      rw [live_concat, course_concat, List.nil_append, ← ih, ← shows calls call]
      exact List.filterMap_append

end Editor

end LiveScope
