/- # LiveScope.Proofs.Palette.Edits — edits of a theme change their slot alone

A theme is edited step by step: an edit sets the colour of an intent or the mode, or it
fails on a colour that cannot be read and leaves the theme as it was (`Theme.after`).
What an edit sets, if it succeeds, is its `setting?`. A theme that is absent counts as
an empty one until the first edit succeeds.

Setting one key after the other is a fold of `upsert`; `keys_upsertAll` says which keys
there are afterwards and in which order, `lookup_upsertAll` and
`lookup_upsertAll_of_unset` what is found under them. Edits do nothing else: after any
run of them the theme is the one it was, with the settings made in its palette
(`Theme.edited_eq`). All that a run leaves in place is read from that.
-/
import LiveScope.Palette.Theme
import Mathlib.Data.List.Induction

namespace LiveScope

set_option autoImplicit false

/-! ### Setting keys -/

namespace Json

/-- What was set under a key is forgotten when the key is set again. -/
theorem upsert_upsert (key : String) (value later : Json) (entries : List (String × Json)) :
    upsert key later (upsert key value entries) = upsert key later entries := by
  induction entries with
  | nil => simp only [upsert, if_true]
  | cons entry rest ih =>
      by_cases same : entry.1 = key
      · simp only [upsert, same, if_true]
      · simp only [upsert, same, if_false, ih]

theorem filter_upsert (key : String) (value : Json) (entries : List (String × Json)) :
    (upsert key value entries).filter (·.1 != key) = entries.filter (·.1 != key) := by
  induction entries with
  | nil => simp [upsert]
  | cons entry rest ih =>
      by_cases same : entry.1 = key
      · simp [upsert, same]
      · simp [upsert, same, ih]

/-- Set keys one after the other. -/
def upsertAll (settings entries : List (String × Json)) : List (String × Json) :=
  settings.foldl (fun found setting => upsert setting.1 setting.2 found) entries

theorem upsertAll_concat (settings : List (String × Json)) (setting : String × Json)
    (entries : List (String × Json)) : upsertAll (settings ++ [setting]) entries =
      upsert setting.1 setting.2 (upsertAll settings entries) := by
  rw [upsertAll, List.foldl_append, List.foldl_cons, List.foldl_nil, upsertAll]

/-- The keys that were there stay in their order; behind them come those that are new,
in the order in which they were first set. -/
theorem keys_upsertAll (settings entries : List (String × Json)) :
    (upsertAll settings entries).map Prod.fst = entries.map Prod.fst ++
      (settings.map Prod.fst).eraseDups.filter (· ∉ entries.map Prod.fst) := by
  induction settings using List.reverseRecOn with
  | nil => simp [upsertAll]
  | append_singleton settings setting ih =>
      rw [upsertAll_concat, keys_upsert, ih, List.map_append, List.map_singleton,
        List.eraseDups_append, List.filter_append]
      let taken := setting.1 ∈ entries.map Prod.fst ∨ setting.1 ∈ settings.map Prod.fst
      have known : setting.1 ∈ entries.map Prod.fst ++
          (settings.map Prod.fst).eraseDups.filter (· ∉ entries.map Prod.fst) ↔ taken := by
        simp only [List.mem_append, List.mem_filter, List.mem_eraseDups, decide_eq_true_eq]
        tauto
      have new : (([setting.1].removeAll (settings.map Prod.fst)).eraseDups.filter
          (· ∉ entries.map Prod.fst)) = if taken then [] else [setting.1] := by
        by_cases later : setting.1 ∈ settings.map Prod.fst <;>
          by_cases old : setting.1 ∈ entries.map Prod.fst <;>
          simp [List.removeAll, taken, later, old, List.eraseDups_cons]
      rw [new]
      simp only [known]
      split
      · rw [List.append_nil]
      · rw [List.append_assoc]

theorem lookup_upsertAll_of_unset {settings : List (String × Json)} {key : String}
    (unset : key ∉ settings.map Prod.fst) (entries : List (String × Json)) :
    (upsertAll settings entries).lookup key = entries.lookup key := by
  induction settings using List.reverseRecOn with
  | nil => rfl
  | append_singleton settings setting ih =>
      rw [List.map_append, List.mem_append, not_or] at unset
      obtain ⟨earlier, here⟩ := unset
      have differs : key ≠ setting.1 := by simpa using here
      rw [upsertAll_concat, lookup_upsert, if_neg differs, ih earlier]

/-- Under a key lies what it was set to last. -/
theorem lookup_upsertAll {ahead behind : List (String × Json)} {key : String}
    (last : key ∉ behind.map Prod.fst) (value : Json) (entries : List (String × Json)) :
    (upsertAll (ahead ++ (key, value) :: behind) entries).lookup key = some value := by
  have folded : upsertAll (ahead ++ (key, value) :: behind) entries =
      upsertAll behind (upsert key value (upsertAll ahead entries)) := by
    rw [upsertAll, List.foldl_append, List.foldl_cons, upsertAll, upsertAll]
  rw [folded, lookup_upsertAll_of_unset last, lookup_upsert, if_pos rfl]

end Json

/-! ### Edits -/

namespace Theme

open Palette (Intent Mode InvalidColor contrastText)

inductive Edit where
  | setColor (intent : Intent) (main : String)
  | setMode (mode : Mode)
  deriving DecidableEq, Repr

/-- What the slot of an intent is set to: the colour as it is written, and the text
colour that goes with it. -/
def pairing (main text : String) : Json :=
  .object [("main", .string main), ("contrastText", .string text)]

namespace Edit

def apply (theme : Theme) : Edit → Except InvalidColor Theme
  | .setColor intent main => theme.withColor intent main
  | .setMode mode => .ok (theme.withMode mode)

/-- The slot that an edit sets, with its new value, unless its colour cannot be read. -/
def setting? : Edit → Option (String × Json)
  | .setColor intent main =>
      match contrastText main with
      | .ok text => some (intent.key, pairing main text)
      | .error _ => none
  | .setMode mode => some ("mode", .string mode.key)

theorem apply_of_setting {edit : Edit} {slot : String} {value : Json}
    (sets : edit.setting? = some (slot, value)) (theme : Theme) :
    edit.apply theme = .ok (theme.withSlot slot value) := by
  cases edit with
  | setColor intent main =>
      simp only [setting?] at sets
      split at sets
      · next text read =>
          cases sets
          rw [apply, withColor, read]
          rfl
      · cases sets
  | setMode mode =>
      cases sets
      rfl

theorem apply_of_no_setting {edit : Edit} (fails : edit.setting? = none) (theme : Theme) :
    ∃ invalid, edit.apply theme = .error invalid := by
  cases edit with
  | setColor intent main =>
      simp only [setting?] at fails
      split at fails
      · cases fails
      · next invalid unread => exact ⟨invalid, by rw [apply, withColor, unread]; rfl⟩
  | setMode mode => cases fails

end Edit

/-- The theme after an edit; one that fails leaves it as it was. -/
def after (theme : Option Theme) (edit : Edit) : Option Theme :=
  match edit.apply (theme.getD []) with
  | .ok changed => some changed
  | .error _ => theme

theorem after_of_setting {edit : Edit} {slot : String} {value : Json}
    (sets : edit.setting? = some (slot, value)) (theme : Option Theme) :
    after theme edit = some ((theme.getD []).withSlot slot value) := by
  rw [after, Edit.apply_of_setting sets]

theorem after_of_no_setting {edit : Edit} (fails : edit.setting? = none) (theme : Option Theme) :
    after theme edit = theme := by
  obtain ⟨invalid, failed⟩ := Edit.apply_of_no_setting fails (theme.getD [])
  rw [after, failed]

/-- The theme after edits one after the other. -/
def edited (theme : Option Theme) (edits : List Edit) : Option Theme := edits.foldl after theme

/-- A theme with settings made in its palette. -/
def withSlots (theme : Theme) (settings : List (String × Json)) : Theme :=
  Json.upsert "palette" (.object (Json.upsertAll settings (theme.palette?.getD []))) theme

theorem palette?_withSlots (theme : Theme) (settings : List (String × Json)) :
    (theme.withSlots settings).palette? =
      some (Json.upsertAll settings (theme.palette?.getD [])) := by
  rw [palette?, withSlots, Json.lookup_upsert, if_pos rfl]

theorem withSlot_withSlots (theme : Theme) (settings : List (String × Json)) (slot : String)
    (value : Json) : (theme.withSlots settings).withSlot slot value =
      theme.withSlots (settings ++ [(slot, value)]) := by
  rw [withSlot, palette?_withSlots, withSlots, Json.upsert_upsert, withSlots,
    Json.upsertAll_concat]
  rfl

/-- Edits make their settings, and do nothing else. -/
theorem edited_eq (theme : Option Theme) (edits : List Edit) :
    edited theme edits =
      if edits.filterMap Edit.setting? = [] then theme
      else some ((theme.getD []).withSlots (edits.filterMap Edit.setting?)) := by
  induction edits using List.reverseRecOn with
  | nil => rfl
  | append_singleton edits edit ih =>
      have last : edited theme (edits ++ [edit]) = after (edited theme edits) edit := by
        rw [edited, List.foldl_append, List.foldl_cons, List.foldl_nil, edited]
      rw [last, List.filterMap_append]
      cases sets : edit.setting? with
      | none =>
          rw [after_of_no_setting sets, ih]
          simp [sets]
      | some setting =>
          obtain ⟨slot, value⟩ := setting
          have made : edits.filterMap Edit.setting? ++ [edit].filterMap Edit.setting? =
              edits.filterMap Edit.setting? ++ [(slot, value)] := by simp [sets]
          rw [after_of_setting sets, made, if_neg (by simp), ih]
          by_cases first : edits.filterMap Edit.setting? = []
          · rw [if_pos first, first]
            rfl
          · rw [if_neg first, Option.getD_some, withSlot_withSlots]

/-! ### What is read from an edited theme -/

theorem slot?_eq (theme : Theme) (key : String) :
    theme.slot? key = (theme.palette?.getD []).lookup key := by
  unfold slot?
  cases theme.palette? <;> rfl

theorem slot?_withSlots (theme : Theme) (settings : List (String × Json)) (key : String) :
    (theme.withSlots settings).slot? key =
      (Json.upsertAll settings (theme.palette?.getD [])).lookup key := by
  rw [slot?, palette?_withSlots, Option.bind_some]

section Runs

variable (theme : Option Theme) {edits : List Edit} {key : String}

theorem slot?_edited_of_unset (unset : key ∉ (edits.filterMap Edit.setting?).map Prod.fst) :
    ((edited theme edits).getD []).slot? key = (theme.getD []).slot? key := by
  rw [edited_eq]
  split
  · rfl
  · rw [Option.getD_some, slot?_withSlots, Json.lookup_upsertAll_of_unset unset, slot?_eq]

theorem slot?_edited {ahead behind : List (String × Json)} {value : Json}
    (made : edits.filterMap Edit.setting? = ahead ++ (key, value) :: behind)
    (last : key ∉ behind.map Prod.fst) :
    ((edited theme edits).getD []).slot? key = some value := by
  rw [edited_eq, made, if_neg (by simp), Option.getD_some, slot?_withSlots,
    Json.lookup_upsertAll last]

end Runs

/-- A colour that was set is not empty, so it is the one that is shown. -/
theorem ne_empty_of_setting {edits : List Edit} {slot main text : String}
    (set : (slot, pairing main text) ∈ edits.filterMap Edit.setting?) : main ≠ "" := by
  rintro rfl
  obtain ⟨edit, -, sets⟩ := List.mem_filterMap.1 set
  cases edit with
  | setColor intent main =>
      simp only [Edit.setting?] at sets
      split at sets
      · next text' read =>
          obtain ⟨-, same⟩ := Prod.mk.inj (Option.some.inj sets)
          simp only [pairing, Json.object.injEq, List.cons.injEq, Prod.mk.injEq, true_and,
            Json.string.injEq] at same
          rw [same.1] at read
          cases read
      · cases sets
  | setMode mode => cases sets

theorem color_of_slot {theme : Theme} {intent : Intent} {main text : String}
    (found : theme.slot? intent.key = some (pairing main text)) (filled : main ≠ "") :
    theme.color intent = main := by
  have notEmpty : ¬main.isEmpty = true := fun isEmpty => filled (String.isEmpty_iff.1 isEmpty)
  have read : (some (pairing main text)).bind (·.get? "main") = some (.string main) := rfl
  rw [color, found, read]
  exact if_neg notEmpty

theorem mode?_of_slot {theme : Theme} {mode : Mode}
    (found : theme.slot? "mode" = some (.string mode.key)) : theme.mode? = some mode := by
  rw [mode?, found]
  cases mode <;> rfl

/-! ### Runs -/

theorem apply_eq_error_iff {edit : Edit} {theme : Theme} {invalid : InvalidColor} :
    edit.apply theme = .error invalid ↔
      ∃ intent main, edit = .setColor intent main ∧ contrastText main = .error invalid := by
  cases edit with
  | setColor intent main =>
      simp only [Edit.apply, withColor, Edit.setColor.injEq]
      cases read : contrastText main with
      | ok text =>
          constructor
          · intro failed
            cases failed
          · rintro ⟨_, _, ⟨rfl, rfl⟩, failed⟩
            rw [read] at failed
            cases failed
      | error other =>
          constructor
          · intro failed
            cases failed
            exact ⟨intent, main, ⟨rfl, rfl⟩, read⟩
          · rintro ⟨_, _, ⟨rfl, rfl⟩, failed⟩
            rw [read] at failed
            cases failed
            rfl
  | setMode mode => simp [Edit.apply]

/-- **Edits change their slots and nothing else.** An edit fails exactly if it is given a
colour that cannot be read. If all edits of a run fail, the theme is left as it was, be
it absent or not. Otherwise all keys but the palette keep their values and their order;
the palette keeps its place, or comes last if it is new. In the palette the slots that
were there keep their order and those that are new follow in the order in which they
were first set. A slot holds what it was set to last, and one that was not set holds what
it held before. The colours and the mode that are shown are therefore those that were set
last, and where none was set those that were shown before. -/
theorem edited_keeps (theme : Option Theme) (edits : List Edit) :
    let settings := edits.filterMap Edit.setting?
    let before := theme.getD []
    let palette := before.palette?.getD []
    let shown := (edited theme edits).getD []
    (∀ (edit : Edit) (current : Theme) invalid, edit.apply current = .error invalid ↔
      ∃ intent main, edit = .setColor intent main ∧ contrastText main = .error invalid) ∧
    (settings = [] → edited theme edits = theme) ∧
    (settings ≠ [] → ∃ after slots, edited theme edits = some after ∧
      after.filter (·.1 != "palette") = before.filter (·.1 != "palette") ∧
      after.map Prod.fst =
        (if "palette" ∈ before.map Prod.fst then before.map Prod.fst
          else before.map Prod.fst ++ ["palette"]) ∧
      after.lookup "palette" = some (.object slots) ∧
      slots.map Prod.fst = palette.map Prod.fst ++
        (settings.map Prod.fst).eraseDups.filter (· ∉ palette.map Prod.fst) ∧
      (∀ ahead slot value behind, settings = ahead ++ (slot, value) :: behind →
        slot ∉ behind.map Prod.fst → slots.lookup slot = some value) ∧
      ∀ slot, slot ∉ settings.map Prod.fst → slots.lookup slot = palette.lookup slot) ∧
    (∀ intent : Intent,
      (∀ ahead main text behind,
        settings = ahead ++ (intent.key, pairing main text) :: behind →
        intent.key ∉ behind.map Prod.fst → shown.color intent = main) ∧
      (intent.key ∉ settings.map Prod.fst → shown.color intent = before.color intent)) ∧
    (∀ ahead (mode : Mode) behind, settings = ahead ++ ("mode", .string mode.key) :: behind →
      "mode" ∉ behind.map Prod.fst → shown.mode? = some mode) ∧
    ("mode" ∉ settings.map Prod.fst → shown.mode? = before.mode?) := by
  intro settings before palette shown
  refine ⟨fun _ _ _ => apply_eq_error_iff, fun none => ?_, fun some => ?_, fun intent => ?_, ?_, ?_⟩
  · rw [edited_eq, if_pos none]
  · refine ⟨before.withSlots settings, Json.upsertAll settings palette, ?_, ?_, ?_, ?_, ?_, ?_, ?_⟩
    · rw [edited_eq, if_neg some]
    · exact Json.filter_upsert _ _ _
    · exact Json.keys_upsert _ _ _
    · rw [withSlots, Json.lookup_upsert, if_pos rfl]
    · exact Json.keys_upsertAll _ _
    · intro ahead slot value behind made last
      rw [made, Json.lookup_upsertAll last]
    · exact fun slot unset => Json.lookup_upsertAll_of_unset unset _
  · refine ⟨fun ahead main text behind made last => ?_, fun unset => ?_⟩
    · have set : (intent.key, pairing main text) ∈ settings := by
        rw [made]
        exact List.mem_append_right _ List.mem_cons_self
      exact color_of_slot (slot?_edited theme made last) (ne_empty_of_setting set)
    · rw [color, slot?_edited_of_unset theme unset, color]
  · exact fun ahead mode behind made last => mode?_of_slot (slot?_edited theme made last)
  · intro unset
    rw [mode?, slot?_edited_of_unset theme unset, mode?]

/-- A run with a colour that cannot be read among its edits: the secondary colour is set
twice, the mode once, and the primary colour stays. -/
theorem edited_mixedRun :
    let theme : Theme :=
      [("shape", .null),
        ("palette", .object [("primary", .object [("main", .string "#111")])]), ("density", .null)]
    let edits : List Edit :=
      [.setColor .secondary "#fff", .setColor .primary "nope", .setMode .light,
        .setColor .secondary " rgb(0, 0, 0) "]
    let shown := (edited (some theme) edits).getD []
    shown.map Prod.fst = ["shape", "palette", "density"] ∧
      shown.color .secondary = " rgb(0, 0, 0) " ∧ shown.color .primary = "#111" ∧
      shown.mode? = some .light := by
  intro theme edits shown
  have made : edits.filterMap Edit.setting? =
      [("secondary", pairing "#fff" Palette.darkText), ("mode", .string "light"),
        ("secondary", pairing " rgb(0, 0, 0) " Palette.lightText)] := by
    have onWhite : contrastText "#fff" = .ok Palette.darkText := by
      have light : Palette.Color.isDark ⟨255, 255, 255⟩ = false := by decide +kernel
      rw [contrastText, show Palette.Color.parse "#fff" = some ⟨255, 255, 255⟩ from rfl]
      simp only [light, Bool.false_eq_true, if_false]
    have onBlack : contrastText " rgb(0, 0, 0) " = .ok Palette.lightText := by
      have dark : Palette.Color.isDark ⟨0, 0, 0⟩ = true := by decide +kernel
      rw [contrastText, show Palette.Color.parse " rgb(0, 0, 0) " = some ⟨0, 0, 0⟩ from rfl]
      simp only [dark, if_true]
    have unread : contrastText "nope" = .error ⟨"nope"⟩ := rfl
    simp [edits, Edit.setting?, onWhite, onBlack, unread, Palette.Intent.key, Palette.Mode.key]
  have keeps := edited_keeps (some theme) edits
  rw [made] at keeps
  obtain ⟨-, -, changes, colors, modes, -⟩ := keeps
  obtain ⟨after, -, result, -, keys, -⟩ := changes (by simp)
  refine ⟨?_, ?_, ?_, ?_⟩
  · show ((edited (some theme) edits).getD []).map Prod.fst = _
    rw [result]
    exact keys
  · exact (colors .secondary).1 [_, _] _ _ [] rfl (by decide)
  · exact (colors .primary).2 (by decide)
  · exact modes [_] .light [_] rfl (by decide)

end Theme

end LiveScope
