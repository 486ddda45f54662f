/- # LiveScope.Proofs.Life.Focus — the focus is asked for once in a life

Only a mount asks a surface for the focus (`focuses_perform`), and only one that meets
props that want it, on an editor that never asked before. An editor remembers that it
asked, and nothing makes it forget: neither an unmount nor other props. So of all mounts
of a life the first that meets such props asks, on its own surface, and no other does
(`focused_once`).
-/
import LiveScope.Proofs.Life.Run

namespace LiveScope

set_option autoImplicit false

/-- The surface that an effect asks to take the focus. -/
def Effect.focus? : Effect → Option Nat
  | .surface number .focus => some number
  | .surface _ (.updateOptions _) | .surface _ (.setText _) | .surface _ (.addCommand _) => none
  | .changed _ | .committed _ | .logged _ => none

/-- The surfaces that are asked to take the focus, in order. -/
def focuses (effects : List Effect) : List Nat := effects.filterMap Effect.focus?

/-- Do the props ask for the focus at a mount? -/
def Props.wantFocus (props : Props) : Bool := props.autoFocus && !props.disabled

namespace Editor

/-! ### What a call asks for -/

theorem wantsFocus_eq (editor : Editor) :
    editor.wantsFocus = (!editor.focused && editor.props.wantFocus) := by
  rw [wantsFocus, Props.wantFocus, Bool.and_assoc]

theorem focuses_greeting (editor : Editor) (surface : Nat) :
    focuses (editor.greeting.map (.surface surface)) =
      if editor.wantsFocus then [surface] else [] := by
  unfold greeting
  split <;> rfl

theorem focuses_corrections (shown : Shown) (props : Props) (surface : Nat) :
    focuses ((corrections shown props).map (.surface surface)) = [] := by
  unfold corrections
  split <;> split <;> rfl

/-- A mount asks at most its own surface, any other call asks none. -/
theorem focuses_perform (editor : Editor) (hosts : Hosts) (call : Call) :
    focuses (editor.perform call hosts).effects =
      match call with
      | .mount surface _ => if editor.wantsFocus then [surface] else []
      | _ => [] := by
  refine (editor.filterMap_perform hosts (fun _ => rfl) call).trans ?_
  cases call with
  | mount surface host => exact focuses_greeting editor surface
  | update props =>
      rw [shows]
      split
      · rfl
      · exact focuses_corrections _ _ _
  | command chord =>
      rw [shows]
      split
      · cases editor.onCommit <;> rfl
      · rfl
  | edit | setOnCommit | unmount | meanwhile => rfl

/-! ### What an editor remembers -/

namespace Call

/-- The props that a call brings. -/
def props? : Call → Option Props
  | .update props => some props
  | .mount _ _ | .edit _ | .command _ | .setOnCommit _ | .unmount | .meanwhile _ => none

end Call

/-- The mounts of a life, each by its surface and the props that it met. -/
def mounts (props : Props) (calls : List Call) : List (Nat × Props) :=
  course (fun earlier call =>
    match call with
    | .mount surface _ => [(surface, latest Call.props? props earlier)]
    | _ => []) [] calls

theorem mounts_concat (props : Props) (calls : List Call) (call : Call) :
    mounts props (calls ++ [call]) = mounts props calls ++
      match call with
      | .mount surface _ => [(surface, latest Call.props? props calls)]
      | _ => [] := course_concat _ _ _ _

section Reads

variable (editor : Editor) (call : Call) (hosts : Hosts)

theorem props_perform :
    (editor.perform call hosts).editor.props = (Call.props? call).getD editor.props := by
  obtain ⟨document, registry, same⟩ := editor.editor_perform call hosts
  rw [same]
  cases call <;> rfl

theorem focused_perform : (editor.perform call hosts).editor.focused =
    match call with
    | .mount _ _ => editor.focused || editor.props.wantFocus
    | _ => editor.focused := by
  obtain ⟨document, registry, same⟩ := editor.editor_perform call hosts
  rw [same]
  cases call with
  | mount surface host =>
      rw [after, wantsFocus_eq]
      cases editor.focused <;> rfl
  | _ => rfl

end Reads

/-! ### Lives -/

section Lives

variable (options : Options) (path : String) (props : Props) (onCommit : Option String)
  (hosts : Hosts) (calls : List Call)

theorem props_live : ((make options path props onCommit).live calls hosts).editor.props =
    latest Call.props? props calls :=
  read_live Editor.props Call.props? props_perform _ hosts calls

/-- An editor counts as focused once a mount met props that want the focus. -/
theorem focused_live : ((make options path props onCommit).live calls hosts).editor.focused =
    (mounts props calls).any (·.2.wantFocus) := by
  induction calls using List.reverseRecOn with
  | nil => rfl
  | append_singleton calls call ih =>
      rw [live_concat, mounts_concat, List.any_append, ← ih, Outcome.andThen, focused_perform,
        props_live]
      cases call with
      | mount surface host => rw [List.any_cons, List.any_nil, Bool.or_false]
      | _ => rw [List.any_nil, Bool.or_false]

/-- What the next call of a life asks for. -/
theorem focuses_next (call : Call) :
    let life := (make options path props onCommit).live calls hosts
    focuses (life.editor.perform call life.hosts).effects =
      match call with
      | .mount surface _ =>
          if (latest Call.props? props calls).wantFocus &&
            !(mounts props calls).any (·.2.wantFocus) then [surface] else []
      | _ => [] := by
  intro life
  rw [focuses_perform, wantsFocus_eq, focused_live, props_live, Bool.and_comm]

theorem focuses_live :
    focuses ((make options path props onCommit).live calls hosts).effects =
      ((mounts props calls).find? (·.2.wantFocus)).toList.map (·.1) := by
  induction calls using List.reverseRecOn with
  | nil => rfl
  | append_singleton calls call ih =>
      have next := focuses_next options path props onCommit hosts calls call
      rw [live_concat, Outcome.andThen, focuses, List.filterMap_append, ← focuses, ← focuses, ih,
        next, mounts_concat, List.find?_append]
      cases asked : (mounts props calls).find? (·.2.wantFocus) with
      | some mount =>
          -- an earlier mount has asked, so this call does not
          have wants := List.find?_some asked
          have wanted : (mounts props calls).any (·.2.wantFocus) = true :=
            List.any_eq_true.2 ⟨mount, List.mem_of_find?_eq_some asked, wants⟩
          simp only [wanted, Bool.not_true, Bool.and_false]
          cases call <;> rfl
      | none =>
          have unwanted : (mounts props calls).any (·.2.wantFocus) = false :=
            List.any_eq_false.2 (List.find?_eq_none.1 asked)
          simp only [unwanted, Bool.not_false, Bool.and_true]
          cases call with
          | mount surface host =>
              cases wants : (latest Call.props? props calls).wantFocus <;> simp [wants]
          | _ => rfl

end Lives

/-- **An editor asks for the focus once in its life**: the surface of the first mount that
meets props with `autoFocus` that are not `disabled`, and if there is none, no surface. It
counts as focused once there was one. A further call asks for the focus exactly if it is
that first mount, so no update ever does, whatever the props are. -/
theorem focused_once (options : Options) (path : String) (props : Props)
    (onCommit : Option String) (hosts : Hosts) (calls : List Call) :
    let life := (make options path props onCommit).live calls hosts
    let wants := fun mount : Nat × Props => mount.2.autoFocus && !mount.2.disabled
    focuses life.effects = ((mounts props calls).find? wants).toList.map (·.1) ∧
    life.editor.focused = (mounts props calls).any wants ∧
    ∀ call, focuses (life.editor.perform call life.hosts).effects =
      match call with
      | .mount surface _ =>
          let current := latest Call.props? props calls
          if current.autoFocus && !current.disabled && !(mounts props calls).any wants
          then [surface] else []
      | _ => [] :=
  ⟨focuses_live options path props onCommit hosts calls,
    focused_live options path props onCommit hosts calls,
    focuses_next options path props onCommit hosts calls⟩

/-- A disabled editor that is enabled while it is mounted asks at its next mount only. -/
example :
    let props : Props := ⟨"", ⟨0, .empty⟩, true, true⟩
    focuses ((make {} "scope.d.ts" props none).live
      [.mount 1 "host", .update { props with disabled := false }, .mount 2 "host", .unmount,
        .mount 3 "host"] .empty).effects = [2] := by
  decide

end Editor

end LiveScope
