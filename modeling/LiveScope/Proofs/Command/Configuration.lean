/- # LiveScope.Proofs.Command.Configuration — what a configuration's text says

A configuration is read entry by entry, without its object. Two statements say that this
makes no difference:

* what is written is read back, whatever characters its texts have (`parse_pretty`);
* what is read is what the object of the same text has under the three names, with the
  defaults for what it leaves out (`settings_of_parse`).

For the second the object is read beside the draft (`entriesFrom_follows`), and after each
entry both have the same under every name (`Draft.Tells`). The options are then taken from
the entries one after the other, and have the texts that were last set (`OptionsTell`).
-/
import LiveScope.Command.Config
import LiveScope.Proofs.Keys
import LiveScope.Proofs.RoundTrip
import Mathlib.Data.List.Induction

namespace LiveScope

set_option autoImplicit false

open Json (Fits Reader)
open Json.Reader (Taken Space listing entryText)

namespace Config

/-- The entries of a configuration. -/
def entries (config : Config) : List (String × Json) :=
  [("rootName", .string config.options.rootName), ("indent", .string config.options.indent)]
    ++ match config.outFile with
      | some file => [("outFile", .string file)]
      | none => []

/-- What has been read of a configuration at its end. -/
def draft (config : Config) : Draft where
  outFile := config.outFile.map some
  others := [("rootName", .string config.options.rootName),
    ("indent", .string config.options.indent)]

section Written

variable {after : List Char} (afterSpace : Space after)
include afterSpace

/-- The text of an entry that is no file is kept as it is. -/
theorem readEntry_other {draft : Draft} {text : String} (key : String) (other : key ≠ "outFile")
    (tail : List Char) :
    readEntry draft key (':' :: (after ++ ((Json.quote text).toList ++ tail))) =
      .ok ({ draft with others := draft.others ++ [(key, .string text)] }, tail) := by
  rw [readEntry, if_neg other, Reader.colon_append]
  show (Reader.value .kept _ (after ++ ((Json.quote text).toList ++ tail))).map _ = _
  rw [Reader.value_after afterSpace (Reader.reads_string text) tail]
  rfl

theorem readEntry_file {draft : Draft} (file : String) (unset : draft.outFile = none)
    (tail : List Char) :
    readEntry draft "outFile" (':' :: (after ++ ((Json.quote file).toList ++ tail))) =
      .ok ({ draft with outFile := some (some file) }, tail) := by
  obtain ⟨quoted, begins, named⟩ := Reader.string_quote file tail
  have solid : Reader.skipSpace (after ++ ((Json.quote file).toList ++ tail)) = '"' :: quoted := by
    rw [begins]
    exact Reader.skipSpace_to afterSpace (by decide) quoted
  have text : Json.Decoder.text.read ('"' :: quoted) = .ok (file, tail) := by
    simp only [Json.Decoder.text, Reader.text,
      Reader.skipSpace_of_solid (c := '"') (by decide) quoted, named]
  have optional : (Json.Decoder.optional .text).read (after ++ ((Json.quote file).toList ++ tail)) =
      .ok (some file, tail) := by
    simp only [Json.Decoder.optional, solid]
    show (Json.Decoder.text.read ('"' :: quoted)).map _ = _
    rw [text]
    rfl
  rw [readEntry, if_pos rfl, unset, Reader.colon_append]
  show ((Json.Decoder.optional .text).read _).map _ = _
  rw [optional]
  rfl

theorem taken_entries (config : Config) :
    Taken readEntry after (fun json => (json.prettyAt 1).toList) {} config.entries
      config.draft := by
  obtain ⟨options, outFile⟩ := config
  refine .next (readEntry_other afterSpace "rootName" (by decide))
    (.next (readEntry_other afterSpace "indent" (by decide)) ?_)
  cases outFile with
  | none => exact .done _
  | some file => exact .next (readEntry_file afterSpace file rfl) (.done _)

end Written

theorem finish_draft (config : Config) : finish config.draft = .ok config := by
  obtain ⟨options, outFile⟩ := config
  cases outFile <;> rfl

/-- A configuration is read back from its indented text. -/
theorem parse_pretty (config : Config) : parse config.toJson.pretty = .ok config := by
  have blank : Space [' '] := by
    intro c member
    rw [List.mem_singleton.1 member]
    decide
  obtain ⟨body, begins, read⟩ := Reader.entries_listing (Json.space_lineBreak 1)
    (Json.space_lineBreak 0) (taken_entries blank config) []
  have text : config.toJson.pretty.toList = '\x7b' :: body := by
    rw [← begins, List.append_nil]
    exact Json.toList_prettyAt_object 0 config.entries
  have whole : Reader.whole Config.read config.toJson.pretty.toList = .ok config := by
    rw [Reader.whole, text, Config.read, Reader.skipSpace_of_solid (by decide)]
    simp only [read, Except.bind, finish_draft]
    rfl
  rw [parse, whole]
  rfl

theorem fits_toJson {depth : Nat} (config : Config) : Fits (depth + 1) config.toJson := by
  obtain ⟨options, outFile⟩ := config
  cases outFile with
  | none => exact .pair (by decide) (.string _) (.string _)
  | some file =>
      refine .object (by decide : ["rootName", "indent", "outFile"].Nodup) fun entry member => ?_
      rcases List.mem_cons.1 member with rfl | later
      · exact .string _
      · rcases List.mem_cons.1 later with rfl | last
        · exact .string _
        · rw [List.mem_singleton.1 last]
          exact .string _

/-! ### What a text says -/

/-- What a configuration's object sets. -/
structure Settings where
  rootName : Option String := none
  indent : Option String := none
  outFile : Option String := none

namespace Settings

/-- The texts under the three names. -/
def ofJson (json : Json) : Settings where
  rootName := (json.get? "rootName").bind Json.text?
  indent := (json.get? "indent").bind Json.text?
  outFile := (json.get? "outFile").bind Json.text?

/-- What is not set has its default. -/
def config (settings : Settings) : Config where
  options.rootName := settings.rootName.getD "RootObject"
  options.indent := settings.indent.getD "  "
  outFile := settings.outFile

end Settings

theorem text_of_lookup {entries : List (String × Json)} {key : String} {text : Option String}
    (found : entries.lookup key = text.map .string) :
    (entries.lookup key).bind Json.text? = text := by
  rw [found]
  cases text <;> rfl

/-- What has the wrong type is never read. -/
theorem not_ok_of_mismatch {α : Type} {expected : String} {text : List Char}
    {answer : α × List Char} (read : Reader.mismatch expected text = .ok answer) : False := by
  unfold Reader.mismatch at read
  split at read
  · cases read
  · cases read
  · obtain ⟨_, -, failed⟩ := ok_of_bind read
    cases failed

/-- A text is read where a value would be read. -/
theorem value_of_text {depth : Nat} {unread rest : List Char} {text : String}
    (read : Json.Decoder.text.read unread = .ok (text, rest)) :
    Reader.value .kept depth unread = .ok (.string text, rest) := by
  obtain ⟨inner, same⟩ := Reader.value_eq_valueWith depth
  dsimp only [Json.Decoder.text, Reader.text] at read
  split at read
  · next quoted begins =>
      simp only [same, Reader.valueWith, begins, read]
      rfl
  · exact (not_ok_of_mismatch read).elim

/-- A file is read where a value would be read. -/
theorem value_of_file {depth : Nat} {unread rest : List Char} {file : Option String}
    (read : (Json.Decoder.optional .text).read unread = .ok (file, rest)) :
    Reader.value .kept depth unread = .ok (file.elim .null .string, rest) := by
  dsimp only [Json.Decoder.optional] at read
  split at read
  · next left begins =>
      obtain ⟨⟨_, after⟩, word, answer⟩ := ok_of_map read
      cases answer
      obtain ⟨inner, same⟩ := Reader.value_eq_valueWith depth
      simp only [same, Reader.valueWith, begins, word]
      rfl
  · obtain ⟨⟨found, after⟩, textRead, answer⟩ := ok_of_map read
    cases answer
    rw [← Reader.value_skipSpace]
    exact value_of_text textRead

/-- The object has what was read, under every name. -/
structure Draft.Tells (draft : Draft) (entries : List (String × Json)) : Prop where
  outFile : entries.lookup "outFile" = draft.outFile.map fun file => file.elim .null .string
  others : ∀ key, key ≠ "outFile" → entries.lookup key = draft.others.reverse.lookup key

/-- One entry is read into the draft as it is into the object. -/
theorem Draft.Tells.readEntry {draft next : Draft} {entries : List (String × Json)} {key : String}
    {text left : List Char} (tells : draft.Tells entries)
    (read : Config.readEntry draft key text = .ok (next, left)) :
    ∃ longer, Reader.entered (Reader.value .kept (Reader.depthLimit - 1)) entries key text =
      .ok (longer, left) ∧ next.Tells longer := by
  unfold Config.readEntry at read
  split at read
  · next isFile =>
      split at read
      · cases read
      · obtain ⟨⟨_, afterColon⟩, colon, read⟩ := ok_of_bind read
        obtain ⟨⟨file, rest⟩, fileRead, answer⟩ := ok_of_map read
        cases answer
        refine ⟨Json.upsert key (file.elim .null .string) entries, ?_, ?_, ?_⟩
        · simp only [Reader.entered, colon, Except.bind, value_of_file fileRead]
          rfl
        · rw [Json.lookup_upsert, if_pos isFile.symm]
          rfl
        · intro other differs
          rw [Json.lookup_upsert, if_neg (isFile ▸ differs)]
          exact tells.others other differs
  · next notFile =>
      obtain ⟨⟨_, afterColon⟩, colon, read⟩ := ok_of_bind read
      obtain ⟨⟨value, rest⟩, valueRead, answer⟩ := ok_of_map read
      cases answer
      refine ⟨Json.upsert key value entries, ?_, ?_, ?_⟩
      · simp only [Reader.entered, colon, Except.bind, valueRead]
        rfl
      · rw [Json.lookup_upsert, if_neg (Ne.symm notFile)]
        exact tells.outFile
      · intro other differs
        rw [List.reverse_append, List.reverse_singleton, List.singleton_append, Json.lookup_cons,
          Json.lookup_upsert, tells.others other differs]

/-- An entry that is taken sets one of the two options to a text, or it is not for them. -/
theorem eq_of_takeOption {options next : Options.Draft} {key : String} {json : Json}
    (taken : takeOption options (key, json) = .ok next) :
    (∃ text, key = "rootName" ∧ json = .string text ∧
        next = { options with rootName := some text }) ∨
      (∃ text, key = "indent" ∧ json = .string text ∧
        next = { options with indent := some text }) ∨
      (key ≠ "rootName" ∧ key ≠ "indent" ∧ next = options) := by
  unfold takeOption at taken
  split at taken
  · next unknown =>
      cases taken
      have differs := List.find?_eq_none.1 unknown
      exact .inr (.inr ⟨fun same => differs _ (.head _) (beq_iff_eq.2 same.symm),
        fun same => differs _ (.tail _ (.head _)) (beq_iff_eq.2 same.symm), rfl⟩)
  · next field known =>
      split at taken
      · cases taken
      · split at taken
        · next set decoded =>
            cases taken
            have matched := List.find?_some known
            have named : field.name = key := eq_of_beq matched
            rcases List.mem_cons.1 (List.mem_of_find?_eq_some known) with rfl | later
            · cases json with
              | string text =>
                  cases decoded
                  exact .inl ⟨text, named.symm, rfl, rfl⟩
              | _ => cases decoded
            · cases List.mem_singleton.1 later
              cases json with
              | string text =>
                  cases decoded
                  exact .inr (.inl ⟨text, named.symm, rfl, rfl⟩)
              | _ => cases decoded
        · cases taken

/-- The options have the texts that were last set under their names. -/
structure OptionsTell (options : Options.Draft) (others : List (String × Json)) : Prop where
  rootName : others.reverse.lookup "rootName" = options.rootName.map .string
  indent : others.reverse.lookup "indent" = options.indent.map .string

theorem optionsTell_of_foldlM {others : List (String × Json)} {options : Options.Draft}
    (taken : others.foldlM takeOption {} = .ok options) : OptionsTell options others := by
  induction others using List.reverseRecOn generalizing options with
  | nil =>
      cases taken
      exact ⟨rfl, rfl⟩
  | append_singleton others entry ih =>
      rw [List.foldlM_append] at taken
      obtain ⟨before, earlier, taken⟩ := ok_of_bind taken
      have tells := ih earlier
      obtain ⟨next, taken, same⟩ := ok_of_bind taken
      cases same
      obtain ⟨key, json⟩ := entry
      have latest (name : String) : (others ++ [(key, json)]).reverse.lookup name =
          if name = key then some json else others.reverse.lookup name := by
        rw [List.reverse_append, List.reverse_singleton, List.singleton_append, Json.lookup_cons]
      constructor
      · rw [latest]
        rcases eq_of_takeOption taken with ⟨text, rfl, rfl, rfl⟩ | ⟨text, rfl, rfl, rfl⟩ |
          ⟨notRoot, -, rfl⟩
        · rfl
        · exact tells.rootName
        · rw [if_neg notRoot.symm, tells.rootName]
      · rw [latest]
        rcases eq_of_takeOption taken with ⟨text, rfl, rfl, rfl⟩ | ⟨text, rfl, rfl, rfl⟩ |
          ⟨-, notIndent, rfl⟩
        · exact tells.indent
        · rfl
        · rw [if_neg notIndent.symm, tells.indent]

/-- A configuration is read where its object would be. -/
theorem value_of_read {text rest : List Char} {config : Config}
    (read : Config.read text = .ok (config, rest)) :
    ∃ json, Reader.value .kept Reader.depthLimit text = .ok (json, rest) ∧
      config = (Settings.ofJson json).config := by
  unfold Config.read at read
  split at read
  · next more begins =>
      obtain ⟨⟨draft, left⟩, entriesRead, finished⟩ := ok_of_bind read
      have nothing : Draft.Tells {} [] := ⟨rfl, fun _ _ => rfl⟩
      have follows : ∀ draft entries key text next left, Draft.Tells draft entries →
          readEntry draft key text = .ok (next, left) →
            ∃ longer, Reader.entered (Reader.value .kept (Reader.depthLimit - 1)) entries key text =
              .ok (longer, left) ∧ next.Tells longer :=
        fun _ _ _ _ _ _ tells read => tells.readEntry read
      obtain ⟨entries, objectRead, tells⟩ := Reader.entriesFrom_follows follows _ true nothing
        entriesRead
      dsimp only at finished
      split at finished
      · next found done =>
          cases finished
          obtain ⟨options, taken, same⟩ := ok_of_map done
          cases same
          have optionsTell := optionsTell_of_foldlM taken
          refine ⟨.object entries, ?_, ?_⟩
          · rw [← Reader.value_skipSpace, begins]
            exact congrArg (Except.map _) objectRead
          · have rootName := text_of_lookup
              ((tells.others "rootName" (by decide)).trans optionsTell.rootName)
            have indent := text_of_lookup
              ((tells.others "indent" (by decide)).trans optionsTell.indent)
            have outFile : (entries.lookup "outFile").bind Json.text? =
                draft.outFile.getD none := by
              rw [tells.outFile]
              rcases draft.outFile with _ | _ | _ <;> rfl
            show _ = Settings.config ⟨(entries.lookup "rootName").bind Json.text?,
              (entries.lookup "indent").bind Json.text?, (entries.lookup "outFile").bind Json.text?⟩
            rw [rootName, indent, outFile]
            rfl
      · cases finished
  · exact (not_ok_of_mismatch read).elim

/-- What a configuration's text says is what its object has under the three names. -/
theorem settings_of_parse {source : String} {config : Config} (parsed : parse source = .ok config) :
    ∃ json, Json.parse source = .ok json ∧ config = (Settings.ofJson json).config := by
  obtain ⟨left, read, ended⟩ := Reader.whole_eq_ok_iff.1 (mapError_eq_ok_iff.1 parsed)
  obtain ⟨json, valueRead, same⟩ := value_of_read read
  exact ⟨json, mapError_eq_ok_iff.2 (Reader.whole_eq_ok_iff.2 ⟨left, valueRead, ended⟩), same⟩

end Config

end LiveScope
