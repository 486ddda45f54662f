/- # LiveScope.Proofs.Layout — values are read back from their text

A text reads as a value (`Reads`) if the reader takes it for that value whatever
follows it. An array reads as its items if their texts do, with a comma before each
but the first and any space between, and so does an object (`reads_array`,
`reads_object`): the loops of the reader go through the texts one by one. What is done
for an entry is left open (`Taken`, `entries_listing`), so this holds as well of records
that are read without their object.

Both layouts, the compact one and the indented one, are such listings. So a value
that `Fits` reads back from either: it has no number, repeats no key and opens no
more levels than the reader may (`parse_compact`, `parse_pretty`). Numbers are left
out: their texts are read as the nearest number, which is another matter.
-/
import LiveScope.Json.Printer
import LiveScope.Proofs.Quoted
import LiveScope.Text.Blank

namespace LiveScope.Json

set_option autoImplicit false

/-- A value without numbers that repeats no key and opens at most as many levels. -/
inductive Fits : Nat → Json → Prop
  | null {depth : Nat} : Fits depth .null
  | boolean {depth : Nat} (value : Bool) : Fits depth (.boolean value)
  | string {depth : Nat} (text : String) : Fits depth (.string text)
  | array {depth : Nat} {items : List Json} (inside : ∀ item ∈ items, Fits depth item) :
      Fits (depth + 1) (.array items)
  | object {depth : Nat} {entries : List (String × Json)}
      (distinct : (entries.map Prod.fst).Nodup) (inside : ∀ entry ∈ entries, Fits depth entry.2) :
      Fits (depth + 1) (.object entries)

theorem upsert_of_fresh {key : String} {entries : List (String × Json)}
    (fresh : key ∉ entries.map Prod.fst) (value : Json) :
    upsert key value entries = entries ++ [(key, value)] := by
  induction entries with
  | nil => rfl
  | cons first rest ih =>
      rw [List.map_cons, List.mem_cons, not_or] at fresh
      rw [upsert, if_neg (Ne.symm fresh.1), ih fresh.2, List.cons_append]

namespace Reader

/-! ### Space -/

/-- Characters between the parts of a text. -/
def Space (text : List Char) : Prop := ∀ c ∈ text, isSpace c = true

theorem skipSpace_append {space : List Char} (blank : Space space) (text : List Char) :
    skipSpace (space ++ text) = skipSpace text :=
  List.dropWhile_append_of_pos blank

theorem skipSpace_of_solid {c : Char} (solid : isSpace c = false) (rest : List Char) :
    skipSpace (c :: rest) = c :: rest :=
  List.dropWhile_cons_of_neg (by simp [solid])

theorem skipSpace_to {space : List Char} (blank : Space space) {c : Char}
    (solid : isSpace c = false) (rest : List Char) : skipSpace (space ++ c :: rest) = c :: rest := by
  rw [skipSpace_append blank, skipSpace_of_solid solid]

theorem value_eq_valueWith (depth : Nat) : ∃ inner, value .kept depth = valueWith .kept inner := by
  cases depth with
  | zero => exact ⟨none, rfl⟩
  | succ depth => exact ⟨some (value .kept depth), rfl⟩

theorem value_skipSpace (depth : Nat) (text : List Char) :
    value .kept depth (skipSpace text) = value .kept depth text := by
  obtain ⟨inner, same⟩ := value_eq_valueWith depth
  simp only [same, valueWith, skipSpace, Text.dropWhile_dropWhile]

/-- A value begins at the first character that is no space, and not with the bracket
that ends an array. -/
theorem begins_of_value {depth : Nat} {text : List Char} {answer : Json × List Char}
    (read : value .kept depth text = .ok answer) :
    ∃ c left, skipSpace text = c :: left ∧ c ≠ ']' ∧ value .kept depth (c :: left) = .ok answer := by
  rw [← value_skipSpace] at read
  obtain ⟨inner, same⟩ := value_eq_valueWith depth
  cases begins : skipSpace text with
  | nil =>
      rw [begins, same] at read
      cases read
  | cons c left =>
      rw [begins] at read
      refine ⟨c, left, rfl, ?_, read⟩
      rintro rfl
      rw [same] at read
      cases read

/-! ### Texts that read as a value -/

/-- A text that is read as a value, whatever follows it. -/
def Reads (depth : Nat) (json : Json) (text : List Char) : Prop :=
  ∀ rest, value .kept depth (text ++ rest) = .ok (json, rest)

variable {depth : Nat}

theorem reads_null : Reads depth .null "null".toList := by
  intro rest
  obtain ⟨inner, same⟩ := value_eq_valueWith depth
  rw [same]
  rfl

theorem reads_boolean (value : Bool) :
    Reads depth (.boolean value) (if value then "true" else "false").toList := by
  intro rest
  obtain ⟨inner, same⟩ := value_eq_valueWith depth
  rw [same]
  cases value <;> rfl

theorem reads_string (text : String) : Reads depth (.string text) (quote text).toList := by
  intro rest
  obtain ⟨inner, same⟩ := value_eq_valueWith depth
  obtain ⟨quoted, begins, read⟩ := string_quote text rest
  have solid : skipSpace ('"' :: quoted) = '"' :: quoted := skipSpace_of_solid (by decide) quoted
  simp only [same, begins, valueWith, solid, read]
  rfl

/-! ### The loops, round by round -/

section Rounds

variable {σ : Type} {fuel : Nat} {state : σ} {c : Char} {text left more rest : List Char}

theorem itemsFrom_end (step : σ → Reader σ) (ends : skipSpace text = ']' :: rest) :
    itemsFrom step (fuel + 1) false state text = .ok (state, rest) := by
  simp only [itemsFrom, ends, if_true]

theorem itemsFrom_next (step : σ → Reader σ) (comma : skipSpace text = ',' :: more)
    (begins : skipSpace more = c :: left) (notEnd : c ≠ ']') :
    itemsFrom step (fuel + 1) false state text =
      (step state (c :: left)).bind fun (next, left) => itemsFrom step fuel false next left := by
  simp only [itemsFrom, comma, begins, notEnd, Char.reduceEq, Bool.false_eq_true, if_true, if_false]

/-- The first item is read like one that follows a comma. -/
theorem itemsFrom_first (step : σ → Reader σ) (begins : skipSpace text = c :: left)
    (notEnd : c ≠ ']') : itemsFrom step (fuel + 1) true state text =
      itemsFrom step (fuel + 1) false state (',' :: text) := by
  rw [itemsFrom_next step (skipSpace_of_solid (by decide) text) begins notEnd]
  simp only [itemsFrom, begins, notEnd, if_true, if_false]

variable {key : String} {quoted : List Char}

theorem entriesFrom_end (step : σ → String → Reader σ) (ends : skipSpace text = '\x7d' :: rest) :
    entriesFrom .kept step (fuel + 1) false state text = .ok (state, rest) := by
  simp only [entriesFrom, ends, if_true]

theorem entriesFrom_next (step : σ → String → Reader σ) (comma : skipSpace text = ',' :: more)
    (begins : skipSpace more = '"' :: quoted) (named : string .kept quoted = .ok (key, left)) :
    entriesFrom .kept step (fuel + 1) false state text =
      (step state key left).bind fun (next, left) => entriesFrom .kept step fuel false next left := by
  simp only [entriesFrom, comma, begins, named, Char.reduceEq, Bool.false_eq_true, if_true,
    if_false, Except.bind]

/-- The first entry is read like one that follows a comma. -/
theorem entriesFrom_first (step : σ → String → Reader σ) (begins : skipSpace text = '"' :: quoted)
    (named : string .kept quoted = .ok (key, left)) :
    entriesFrom .kept step (fuel + 1) true state text =
      entriesFrom .kept step (fuel + 1) false state (',' :: text) := by
  rw [entriesFrom_next step (skipSpace_of_solid (by decide) text) begins named]
  simp only [entriesFrom, begins, named, Char.reduceEq, if_true, if_false, Except.bind]

end Rounds

/-- One item, put before those found. -/
def pushed (item : Reader Json) (found : List Json) : Reader (List Json) := fun text =>
  (item text).map fun (json, left) => (json :: found, left)

/-- The value of a key, set in the object found. -/
def entered (item : Reader Json) (found : List (String × Json)) (key : String) :
    Reader (List (String × Json)) := fun text =>
  (colon text).bind fun (_, afterColon) =>
    (item afterColon).map fun (json, left) => (upsert key json found, left)

theorem value_array (depth : Nat) (rest : List Char) :
    value .kept (depth + 1) ('[' :: rest) =
      (items (pushed (value .kept depth)) [] rest).map fun (found, left) =>
        (.array found.reverse, left) := rfl

theorem value_object (depth : Nat) (rest : List Char) :
    value .kept (depth + 1) ('\x7b' :: rest) =
      (entries .kept (entered (value .kept depth)) [] rest).map fun (found, left) =>
        (.object found, left) := rfl

/-! ### Listings -/

/-- Texts with a comma before each, and space after the comma. -/
def listed (gap : List Char) (texts : List (List Char)) : List Char :=
  texts.flatMap fun text => ',' :: (gap ++ text)

/-- Texts between brackets, with space before each and at the end. -/
def listing (gap close : List Char) (first last : Char) : List (List Char) → List Char
  | [] => [first, last]
  | text :: more => first :: (gap ++ (text ++ (listed gap more ++ (close ++ [last]))))

theorem listed_cons_append (gap text : List Char) (more : List (List Char)) (rest : List Char) :
    listed gap (text :: more) ++ rest = ',' :: (gap ++ (text ++ (listed gap more ++ rest))) := by
  simp only [listed, List.flatMap_cons, List.cons_append, List.append_assoc]

theorem listing_cons_append (gap close : List Char) (first last : Char) (text : List Char)
    (more : List (List Char)) (rest : List Char) :
    listing gap close first last (text :: more) ++ rest =
      first :: (gap ++ (text ++ (listed gap more ++ (close ++ last :: rest)))) := by
  simp only [listing, List.cons_append, List.append_assoc, List.nil_append]

section Listing

variable {gap close : List Char} (gapSpace : Space gap) (closeSpace : Space close)
include gapSpace closeSpace

theorem itemsFrom_listed {written : Json → List Char} {items : List Json}
    (inside : ∀ json ∈ items, Reads depth json (written json)) (found : List Json)
    (rest : List Char) {fuel : Nat}
    (enough : (listed gap (items.map written) ++ (close ++ ']' :: rest)).length ≤ fuel) :
    itemsFrom (pushed (value .kept depth)) fuel false found
      (listed gap (items.map written) ++ (close ++ ']' :: rest)) =
        .ok (items.reverse ++ found, rest) := by
  obtain ⟨fuel, rfl⟩ : ∃ less, fuel = less + 1 :=
    Nat.exists_eq_add_one_of_ne_zero (by rintro rfl; simp at enough)
  induction items generalizing found fuel with
  | nil => exact itemsFrom_end _ (skipSpace_to closeSpace (by decide) rest)
  | cons first others ih =>
      rw [List.map_cons, listed_cons_append] at enough ⊢
      obtain ⟨c, left, begins, notEnd, read⟩ := begins_of_value
        (inside first List.mem_cons_self (listed gap (others.map written) ++ (close ++ ']' :: rest)))
      rw [← skipSpace_append gapSpace] at begins
      have shorter : (listed gap (others.map written) ++ (close ++ ']' :: rest)).length ≤ fuel := by
        simp only [List.length_cons, List.length_append] at enough ⊢
        omega
      obtain ⟨fuel, rfl⟩ : ∃ less, fuel = less + 1 :=
        Nat.exists_eq_add_one_of_ne_zero (by rintro rfl; simp at shorter)
      rw [itemsFrom_next _ (skipSpace_of_solid (by decide) _) begins notEnd, pushed, read,
        List.reverse_cons, List.append_assoc]
      exact ih (fun json member => inside json (List.mem_cons_of_mem _ member)) (first :: found)
        fuel shorter

theorem reads_array {written : Json → List Char} {items : List Json}
    (inside : ∀ json ∈ items, Reads depth json (written json)) :
    Reads (depth + 1) (.array items) (listing gap close '[' ']' (items.map written)) := by
  intro rest
  cases items with
  | nil => rfl
  | cons first others =>
      obtain ⟨c, left, begins, notEnd, -⟩ := begins_of_value
        (inside first List.mem_cons_self (listed gap (others.map written) ++ (close ++ ']' :: rest)))
      rw [← skipSpace_append gapSpace] at begins
      have all := itemsFrom_listed gapSpace closeSpace inside [] rest (Nat.le_refl _)
      rw [List.map_cons, listed_cons_append] at all
      rw [List.map_cons, listing_cons_append, value_array, Reader.items,
        itemsFrom_first _ begins notEnd, ← List.length_cons, all, List.append_nil]
      simp only [Except.map, List.reverse_reverse]

/-- The text of an entry: its key, a colon, perhaps space, and its value. -/
def entryText (after : List Char) (written : Json → List Char) (entry : String × Json) : List Char :=
  (quote entry.1).toList ++ ':' :: (after ++ written entry.2)

omit gapSpace closeSpace in
/-- An entry begins with its key. -/
theorem begins_of_entry (after : List Char) (written : Json → List Char) (entry : String × Json)
    (tail : List Char) :
    ∃ quoted, skipSpace (entryText after written entry ++ tail) = '"' :: quoted ∧
      string .kept quoted = .ok (entry.1, ':' :: (after ++ (written entry.2 ++ tail))) := by
  obtain ⟨quoted, begins, named⟩ := string_quote entry.1 (':' :: (after ++ (written entry.2 ++ tail)))
  refine ⟨quoted, ?_, named⟩
  have split : entryText after written entry ++ tail = '"' :: quoted := by
    rw [← begins]
    simp only [entryText, List.append_assoc, List.cons_append]
  rw [split, skipSpace_of_solid (by decide)]

variable {σ : Type} {step : σ → String → Reader σ} {after : List Char} {written : Json → List Char}

/-- What the steps of a reader make of entries, one after the other, whatever text
follows each of them. -/
inductive Taken (step : σ → String → Reader σ) (after : List Char) (written : Json → List Char) :
    σ → List (String × Json) → σ → Prop
  | done (state : σ) : Taken step after written state [] state
  | next {state middle last : σ} {entry : String × Json} {entries : List (String × Json)}
      (taken : ∀ tail, step state entry.1 (':' :: (after ++ (written entry.2 ++ tail))) =
        .ok (middle, tail))
      (later : Taken step after written middle entries last) :
      Taken step after written state (entry :: entries) last

theorem entriesFrom_listed {state last : σ} {entries : List (String × Json)}
    (taken : Taken step after written state entries last) (rest : List Char) {fuel : Nat}
    (enough : (listed gap (entries.map (entryText after written)) ++
      (close ++ '\x7d' :: rest)).length ≤ fuel) :
    entriesFrom .kept step fuel false state
      (listed gap (entries.map (entryText after written)) ++ (close ++ '\x7d' :: rest)) =
        .ok (last, rest) := by
  obtain ⟨fuel, rfl⟩ : ∃ less, fuel = less + 1 :=
    Nat.exists_eq_add_one_of_ne_zero (by rintro rfl; simp at enough)
  induction taken generalizing fuel with
  | done state => exact entriesFrom_end _ (skipSpace_to closeSpace (by decide) rest)
  | @next state middle last entry entries taken later ih =>
      rw [List.map_cons, listed_cons_append] at enough ⊢
      obtain ⟨quoted, begins, named⟩ := begins_of_entry after written entry
        (listed gap (entries.map (entryText after written)) ++ (close ++ '\x7d' :: rest))
      rw [← skipSpace_append gapSpace] at begins
      have shorter : (listed gap (entries.map (entryText after written)) ++
          (close ++ '\x7d' :: rest)).length ≤ fuel := by
        simp only [List.length_cons, List.length_append] at enough ⊢
        omega
      obtain ⟨fuel, rfl⟩ : ∃ less, fuel = less + 1 :=
        Nat.exists_eq_add_one_of_ne_zero (by rintro rfl; simp at shorter)
      rw [entriesFrom_next _ (skipSpace_of_solid (by decide) _) begins named, taken]
      exact ih fuel shorter

/-- An object's text, read by any steps: its brace, and the entries up to the last one. -/
theorem entries_listing {state last : σ} {entries : List (String × Json)}
    (taken : Taken step after written state entries last) (rest : List Char) :
    ∃ body, listing gap close '\x7b' '\x7d' (entries.map (entryText after written)) ++ rest =
        '\x7b' :: body ∧ Reader.entries .kept step state body = .ok (last, rest) := by
  cases taken with
  | done state => exact ⟨'\x7d' :: rest, rfl, rfl⟩
  | @next _ middle _ entry others stepped later =>
      obtain ⟨quoted, begins, named⟩ := begins_of_entry after written entry
        (listed gap (others.map (entryText after written)) ++ (close ++ '\x7d' :: rest))
      rw [← skipSpace_append gapSpace] at begins
      have all := entriesFrom_listed gapSpace closeSpace (.next stepped later) rest (Nat.le_refl _)
      rw [List.map_cons, listed_cons_append] at all
      refine ⟨_, by rw [List.map_cons, listing_cons_append], ?_⟩
      rw [Reader.entries, entriesFrom_first _ begins named, ← List.length_cons, all]

omit gapSpace closeSpace in
theorem colon_append (text : List Char) : colon (':' :: text) = .ok ((), text) := by
  simp only [colon, skipSpace_of_solid (c := ':') (by decide), if_true]

variable (afterSpace : Space after)
include afterSpace

omit gapSpace closeSpace in
/-- Space before a value is passed over. -/
theorem value_after {json : Json} {text : List Char} (reads : Reads depth json text)
    (tail : List Char) : value .kept depth (after ++ (text ++ tail)) = .ok (json, tail) := by
  rw [← value_skipSpace, skipSpace_append afterSpace, value_skipSpace, reads tail]

omit gapSpace closeSpace in
/-- The entries of an object, with distinct keys, are put one behind the other. -/
theorem taken_entered {entries : List (String × Json)}
    (inside : ∀ entry ∈ entries, Reads depth entry.2 (written entry.2))
    (found : List (String × Json)) (distinct : ((found ++ entries).map Prod.fst).Nodup) :
    Taken (entered (value .kept depth)) after written found entries (found ++ entries) := by
  induction entries generalizing found with
  | nil =>
      rw [List.append_nil]
      exact .done found
  | cons first others ih =>
      have fresh : first.1 ∉ found.map Prod.fst := by
        intro member
        rw [List.map_append, List.nodup_append] at distinct
        exact distinct.2.2 _ member _ (List.mem_map_of_mem List.mem_cons_self) rfl
      have regrouped : found ++ first :: others = (found ++ [first]) ++ others := by
        rw [List.append_assoc, List.singleton_append]
      rw [regrouped]
      have later : ∀ entry ∈ others, Reads depth entry.2 (written entry.2) :=
        fun entry member => inside entry (List.mem_cons_of_mem _ member)
      refine .next (fun tail => ?_) (ih later (found ++ [first]) (regrouped ▸ distinct))
      rw [entered, colon_append]
      show (value .kept depth (after ++ (written first.2 ++ tail))).map _ = _
      rw [value_after afterSpace (inside first List.mem_cons_self) tail, ← upsert_of_fresh fresh]
      rfl

theorem reads_object {entries : List (String × Json)}
    (distinct : (entries.map Prod.fst).Nodup)
    (inside : ∀ entry ∈ entries, Reads depth entry.2 (written entry.2)) :
    Reads (depth + 1) (.object entries)
      (listing gap close '\x7b' '\x7d' (entries.map (entryText after written))) := by
  intro rest
  have taken := taken_entered afterSpace inside [] distinct
  obtain ⟨body, begins, read⟩ := entries_listing gapSpace closeSpace taken rest
  rw [begins, value_object, read]
  rfl

end Listing

end Reader

/-! ### The two layouts -/

open Reader (Reads Space listing entryText skipSpace)

theorem intercalate_cons (separator text : String) (more : List String) :
    (separator.intercalate (text :: more)).toList =
      text.toList ++ more.flatMap fun next => separator.toList ++ next.toList := by
  induction more generalizing text with
  | nil => simp
  | cons next more ih =>
      simp only [String.intercalate_cons_cons, String.toList_append, ih, List.flatMap_cons,
        List.append_assoc]

theorem compactItems_eq (items : List Json) : compactItems items = items.map compact := by
  induction items with
  | nil => rfl
  | cons first rest ih => rw [compactItems, ih, List.map_cons]

theorem compactEntries_eq (entries : List (String × Json)) :
    compactEntries entries = entries.map fun entry => quote entry.1 ++ ":" ++ compact entry.2 := by
  induction entries with
  | nil => rfl
  | cons first rest ih => rw [compactEntries, ih, List.map_cons]

theorem prettyItems_eq (level : Nat) (items : List Json) :
    prettyItems level items = items.map (prettyAt level) := by
  induction items with
  | nil => rfl
  | cons first rest ih => rw [prettyItems, ih, List.map_cons]

theorem prettyEntries_eq (level : Nat) (entries : List (String × Json)) :
    prettyEntries level entries =
      entries.map fun entry => quote entry.1 ++ ": " ++ prettyAt level entry.2 := by
  induction entries with
  | nil => rfl
  | cons first rest ih => rw [prettyEntries, ih, List.map_cons]

/-- Texts between two brackets without any space. -/
theorem toList_joined {opening closing : String} {first last : Char}
    (opens : opening.toList = [first]) (closes : closing.toList = [last]) (texts : List String) :
    (opening ++ String.intercalate "," texts ++ closing).toList =
      listing [] [] first last (texts.map String.toList) := by
  cases texts with
  | nil => simp [opens, closes, listing]
  | cons text more =>
      rw [String.toList_append, String.toList_append, intercalate_cons, opens, closes]
      simp [listing, Reader.listed, List.flatMap_map]

/-- What separates the lines of a block. -/
def lineBreak (level : Nat) : List Char := '\n' :: List.replicate (2 * level) ' '

theorem space_lineBreak (level : Nat) : Space (lineBreak level) := by
  intro c member
  rcases List.mem_cons.1 member with rfl | blank
  · decide
  · rw [List.eq_of_mem_replicate blank]
    decide

theorem toList_block (level : Nat) {opening closing : String} {first last : Char}
    (opens : opening.toList = [first]) (closes : closing.toList = [last]) (lines : List String) :
    (block level opening closing lines).toList =
      listing (lineBreak (level + 1)) (lineBreak level) first last (lines.map String.toList) := by
  cases lines with
  | nil => simp [block, opens, closes, listing]
  | cons line more =>
      have lined : (block level opening closing (line :: more)) =
          opening ++ "\n" ++ String.intercalate ",\n"
            ((indentation (level + 1) ++ line) :: more.map (indentation (level + 1) ++ ·)) ++
            "\n" ++ indentation level ++ closing := rfl
      have breaks (level : Nat) : '\n' :: (indentation level).toList = lineBreak level := by
        rw [indentation, String.toList_ofList, lineBreak]
      simp only [lined, String.toList_append, intercalate_cons, opens, closes]
      simp [listing, Reader.listed, List.flatMap_map, ← breaks]

/-- The indented text of an object, as a listing of its entries. -/
theorem toList_prettyAt_object (level : Nat) (entries : List (String × Json)) :
    ((Json.object entries).prettyAt level).toList =
      listing (lineBreak (level + 1)) (lineBreak level) '\x7b' '\x7d'
        (entries.map (entryText [' '] fun json => (json.prettyAt (level + 1)).toList)) := by
  have opens : "\x7b".toList = ['\x7b'] := rfl
  have closes : "\x7d".toList = ['\x7d'] := rfl
  rw [prettyAt, prettyEntries_eq, toList_block level opens closes, List.map_map]
  have entry : String.toList ∘ (fun entry : String × Json =>
      quote entry.1 ++ ": " ++ entry.2.prettyAt (level + 1)) =
      entryText [' '] fun json => (json.prettyAt (level + 1)).toList := by
    funext entry
    simp [entryText]
  rw [entry]

/-- What fits is read back from its compact text. -/
theorem Fits.reads_compact {depth : Nat} {json : Json} (fits : Fits depth json) :
    Reads depth json json.compact.toList := by
  have nothing : Space [] := fun _ member => by cases member
  induction fits with
  | null => exact Reader.reads_null
  | boolean value =>
      have text : (Json.boolean value).compact = if value then "true" else "false" := by
        cases value <;> rfl
      rw [text]
      exact Reader.reads_boolean value
  | string text => exact Reader.reads_string text
  | array inside ih =>
      rw [compact, compactItems_eq, toList_joined rfl rfl, List.map_map]
      exact Reader.reads_array nothing nothing ih
  | object distinct inside ih =>
      rw [compact, compactEntries_eq, toList_joined rfl rfl, List.map_map]
      have entry : String.toList ∘ (fun entry : String × Json => quote entry.1 ++ ":" ++ entry.2.compact) =
          entryText [] fun json => json.compact.toList := by
        funext entry
        simp [entryText]
      rw [entry]
      exact Reader.reads_object nothing nothing nothing distinct ih

/-- What fits is read back from its indented text, at whatever level it stands. -/
theorem Fits.reads_pretty {depth : Nat} {json : Json} (fits : Fits depth json) (level : Nat) :
    Reads depth json (json.prettyAt level).toList := by
  have blank : Space [' '] := by
    intro c member
    rw [List.mem_singleton.1 member]
    decide
  induction fits generalizing level with
  | null => exact Reader.reads_null
  | boolean value =>
      have text : (Json.boolean value).prettyAt level = if value then "true" else "false" := by
        cases value <;> rfl
      rw [text]
      exact Reader.reads_boolean value
  | string text => exact Reader.reads_string text
  | array inside ih =>
      rw [prettyAt, prettyItems_eq, toList_block level rfl rfl, List.map_map]
      exact Reader.reads_array (space_lineBreak _) (space_lineBreak _)
        fun item member => ih item member _
  | object distinct inside ih =>
      rw [toList_prettyAt_object]
      exact Reader.reads_object (space_lineBreak _) (space_lineBreak _) blank distinct
        fun entry member => ih entry member _

/-! ### Whole texts -/

/-- A text that reads as a value is that value's, and may end in space. -/
theorem parse_of_reads {json : Json} {text : String}
    (reads : Reads Reader.depthLimit json text.toList) (space : String)
    (blank : ∀ c ∈ space.toList, Reader.isSpace c = true) : parse (text ++ space) = .ok json := by
  have ends : skipSpace space.toList = [] := by
    rw [← List.append_nil space.toList, Reader.skipSpace_append blank]
    rfl
  have read : Reader.whole (Reader.value .kept Reader.depthLimit) (text.toList ++ space.toList) =
      .ok json := by
    simp only [Reader.whole, reads space.toList, Except.bind, ends]
  rw [parse, String.toList_append, read]
  rfl

theorem Fits.parse_compact {json : Json} (fits : Fits Reader.depthLimit json) :
    parse json.compact = .ok json := by
  have read := parse_of_reads fits.reads_compact "" (fun _ member => by cases member)
  rwa [String.append_empty] at read

theorem Fits.parse_pretty {json : Json} (fits : Fits Reader.depthLimit json) :
    parse json.pretty = .ok json := by
  have read := parse_of_reads (fits.reads_pretty 0) "" (fun _ member => by cases member)
  rwa [String.append_empty] at read

end LiveScope.Json
