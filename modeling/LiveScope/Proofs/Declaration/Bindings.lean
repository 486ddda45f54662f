/- # LiveScope.Proofs.Declaration.Bindings — one line for each constant

A document declares its constants in lines that begin with `declare const `. No
other line begins so (`not_declares_of_mem_lines`): an interface has a header, a
closing brace and lines of fields, and a field's key is written bare only if all of
its characters are those of a word, so that a blank cannot follow its first word.
What declares a constant is therefore the block of bindings, line by line
(`filter_declares_lines`), and the number of lines follows from the definitions and
the keys (`length_lines`).

A scope that was read from a text has each key once, and each of its keys is the
name of one field of the root. So every binding gets a line of its own, and none is
reported as unknown (`one_line_per_key`).
-/
import LiveScope.Proofs.Declaration.Change
import LiveScope.Proofs.Keys
import Mathlib.Algebra.Ring.Nat

namespace LiveScope

set_option autoImplicit false

/-! ### Blocks with blank lines between them -/

theorem length_intercalate_blocks (blocks : List (List String)) :
    ([""].intercalate blocks).length = (blocks.map List.length).sum + (blocks.length - 1) := by
  induction blocks with
  | nil => rfl
  | cons block rest ih =>
      cases rest with
      | nil => simp
      | cons next rest =>
          rw [List.intercalate_cons_cons, List.length_append, List.length_append, ih]
          simp only [List.map_cons, List.sum_cons, List.length_cons, List.length_nil]
          omega

/-- What passes over blank lines sees the blocks alone. -/
theorem filter_intercalate_blocks {wanted : String → Bool} (blank : wanted "" = false)
    (blocks : List (List String)) :
    ([""].intercalate blocks).filter wanted = blocks.flatMap (List.filter wanted) := by
  induction blocks with
  | nil => rfl
  | cons block rest ih =>
      cases rest with
      | nil => simp
      | cons next rest =>
          rw [List.intercalate_cons_cons, List.filter_append, List.filter_append, ih]
          simp [blank]

theorem toList_intercalate_lines {lines : List String} (filled : lines ≠ []) :
    ("\n".intercalate lines ++ "\n").toList = lines.flatMap fun line => line.toList ++ ['\n'] := by
  induction lines with
  | nil => exact absurd rfl filled
  | cons line rest ih =>
      cases rest with
      | nil => simp
      | cons next rest =>
          have later := ih (by simp)
          rw [List.flatMap_cons, ← later, String.intercalate_cons_cons]
          simp

namespace Document

/-! ### Lines that declare a constant -/

def declares (line : String) : Bool := "declare const ".toList.isPrefixOf line.toList

theorem declares_bindingLine (root key : String) : declares (bindingLine root key) = true := by
  have starts : "declare const ".toList <+: (bindingLine root key).toList := by
    unfold bindingLine
    simp only [String.toList_append, List.append_assoc]
    exact List.prefix_append _ _
  exact List.isPrefixOf_iff_prefix.2 starts

theorem not_declares_of_head {line : String} {first : Char}
    (starts : line.toList.head? = some first) (other : first ≠ 'd') : declares line = false := by
  obtain ⟨rest, chars⟩ := List.head?_eq_some_iff.1 starts
  have start : "declare const ".toList = 'd' :: "eclare const ".toList := by decide
  rw [declares, chars, start, List.isPrefixOf, beq_eq_false_iff_ne.2 (Ne.symm other),
    Bool.false_and]

/-- The blank after the first word of a declaration is none of a key's. -/
theorem not_declares_field {indent : String} (blank : ∀ c ∈ indent.toList, c = ' ' ∨ c = '\t')
    (field : Field) : declares (indent ++ field.text ++ ";") = false := by
  cases indented : indent.toList with
  | cons first rest =>
      have starts : (indent ++ field.text ++ ";").toList.head? = some first := by simp [indented]
      apply not_declares_of_head starts
      rintro rfl
      have first := blank 'd' (by simp [indented])
      revert first
      decide
  | nil =>
      have chars : (indent ++ field.text ++ ";").toList =
          (Declaration.keyText field.name).toList ++
            ':' :: ' ' :: (field.shape.text.toList ++ [';']) := by
        simp [Field.text, indented]
      unfold Declaration.keyText at chars
      split at chars
      · next identifier =>
          refine Bool.eq_false_iff.2 fun declares => ?_
          obtain ⟨rest, same⟩ := List.isPrefixOf_iff_prefix.1 declares
          have words : Reading.word ("declare".toList ++ ' ' :: ("const ".toList ++ rest)) =
              Reading.word (field.name.toList ++ ':' :: ' ' :: (field.shape.text.toList ++ [';'])) := by
            rw [← chars, ← same]
            rfl
          rw [Reading.word_append (wordChars_of_isIdentifier (by decide)) ' ' (by decide),
            Reading.word_append (wordChars_of_isIdentifier identifier) ':' (by decide)] at words
          simp at words
      · have starts : (indent ++ field.text ++ ";").toList.head? = some '"' := by
          simp [chars, Json.quote, Json.quoteChars]
        exact not_declares_of_head starts (by decide)

variable {indent : String} {keys : List String} {catalog : Catalog}

theorem not_declares_of_mem_lines (blank : ∀ c ∈ indent.toList, c = ' ' ∨ c = '\t')
    (definition : Definition) : ∀ line ∈ definition.lines indent, declares line = false := by
  intro line member
  simp only [Definition.lines, List.cons_append, List.mem_cons, List.mem_append, List.mem_map,
    List.not_mem_nil, or_false] at member
  rcases member with rfl | ⟨field, -, rfl⟩ | rfl
  · have starts : ("interface " ++ definition.name ++ " \x7b").toList.head? = some 'i' := by simp
    exact not_declares_of_head starts (by decide)
  · exact not_declares_field blank field
  · decide

/-- The lines that declare constants are those of the bindings. -/
theorem filter_declares_lines (blank : ∀ c ∈ indent.toList, c = ' ' ∨ c = '\t') :
    (lines indent keys catalog).filter declares = keys.map (bindingLine catalog.root.name) := by
  have interfaces : (catalog.definitions.map (Definition.lines indent)).flatMap
      (List.filter declares) = [] := by
    simp only [List.flatMap_eq_nil_iff, List.mem_map, List.filter_eq_nil_iff]
    rintro _ ⟨definition, -, rfl⟩ line member
    simp [not_declares_of_mem_lines blank definition line member]
  have bindings : (keys.map (bindingLine catalog.root.name)).filter declares =
      keys.map (bindingLine catalog.root.name) := by
    simp [List.filter_eq_self, declares_bindingLine]
  rw [lines, filter_intercalate_blocks (by decide), blocks, List.flatMap_append, interfaces]
  cases keys with
  | nil => rfl
  | cons key keys => simpa using bindings

/-- An interface has a line for each field and two more; the bindings are a block of
their own. -/
theorem length_lines : (lines indent keys catalog).length =
    (catalog.definitions.map (·.fields.length + 2)).sum + (catalog.length - 1) +
      if keys.isEmpty then 0 else 1 + keys.length := by
  have interfaces : (catalog.definitions.map (Definition.lines indent)).map List.length =
      catalog.definitions.map (·.fields.length + 2) := by
    simp [Definition.lines, Function.comp_def]
  have filled : 0 < catalog.definitions.length := by simp [Catalog.definitions]
  rw [lines, length_intercalate_blocks, blocks, List.map_append, List.sum_append, interfaces,
    Catalog.length]
  cases keys with
  | nil => simp
  | cons key keys =>
      simp
      omega

/-! ### What is reported -/

/-- A key that names a field of the root is no unknown key. -/
theorem unknownKey_not_mem_scopeLog {options : Options} {scope : Scope} (key root : String) :
    Log.Event.unknownKey key root ∉ scopeLog options scope := by
  have known : ∀ key ∈ scope.keys,
      ((Catalog.ofScope options scope).root.field? key).isNone = false := by
    intro key member
    rw [← Catalog.fieldNames_root options] at member
    obtain ⟨field, inRoot, rfl⟩ := List.mem_map.1 member
    cases found : (Catalog.ofScope options scope).root.field? field.name with
    | some other => rfl
    | none => exact absurd (List.find?_eq_none.1 found field inRoot) (by simp)
  intro reported
  simp only [scopeLog, Catalog.scopeLog, catalogLog, List.mem_append, List.mem_singleton,
    List.mem_flatMap, reduceCtorEq, false_or, or_false, keyLog] at reported
  obtain ⟨other, member, named | unknown⟩ := reported
  · split at named
    · split at named <;> simp at named
    · simp at named
  · simp [known other member] at unknown

/-! ### Documents of texts -/

/-- **No key breaks a document.** Whatever the keys of a scope text are, and however
often the text repeats them, the document has one binding for each key of the scope,
in order. Its text is a list of lines, each ended by a line break: those that begin
with `declare const ` are the lines of the bindings, one for each, and their number
is known from the definitions and the keys. No interface has two fields of one name;
a binding is one field of the root, so no key is reported as unknown. -/
theorem one_line_per_key {source : String} {scope : Scope} {options : Options}
    (parsed : Scope.parse source = .ok scope)
    (identifier : Declaration.isIdentifier options.rootName = true)
    (blank : ∀ c ∈ options.indent.toList, c = ' ' ∨ c = '\t') :
    let document := ofScope options scope
    let catalog := Catalog.ofScope options scope
    let lines := linesOf document.text
    (document.bindings = scope.keys ∧ document.bindings.Nodup) ∧
    (document.text.toList = lines.flatMap (fun line => line.toList ++ ['\n']) ∧
      ∀ line ∈ lines, IsLine line) ∧
    lines.filter declares = document.bindings.map (bindingLine options.rootName) ∧
    lines.length = (catalog.definitions.map (·.fields.length + 2)).sum + (catalog.length - 1) +
      (if scope.keys.isEmpty then 0 else 1 + scope.keys.length) ∧
    (∀ definition ∈ catalog.definitions, definition.fieldNames.Nodup) ∧
    (∀ key ∈ document.bindings, catalog.root.fieldNames.count key = 1) ∧
    ∀ key root, Log.Event.unknownKey key root ∉ scopeLog options scope := by
  have distinct := Scope.distinctKeys_parse parsed
  have keysDistinct := Scope.nodup_keys distinct
  have inLine := isLine_of_blank blank
  have legible := Catalog.isLegible_ofScope options scope identifier
  have read : linesOf (ofScope options scope).text =
      lines options.indent scope.keys (Catalog.ofScope options scope) := linesOf_text inLine legible
  simp only [read]
  refine ⟨⟨rfl, keysDistinct⟩, ⟨?_, isLine_of_mem_lines inLine legible⟩,
    filter_declares_lines blank, length_lines, Catalog.nodup_fieldNames options distinct, ?_,
    unknownKey_not_mem_scopeLog⟩
  · rw [← toList_intercalate_lines lines_ne_nil, ← text_ofCatalog]
    rfl
  · intro key member
    rw [Catalog.fieldNames_root]
    exact List.count_eq_one_of_mem keysDistinct member

/-- A text that repeats a key at the top and inside, and a key that imitates a
declaration on a line of its own. -/
def repeatedKeys : String :=
  "\x7b\"a\": 1, \"b\\ndeclare const c\": \x7b\"k\": 1, \"k\": []\x7d, \"a\": null\x7d"

theorem one_line_per_repeatedKey :
    ∃ scope, Scope.parse repeatedKeys = .ok scope ∧
      Declaration.isIdentifier "Root" = true ∧ (∀ c ∈ "\t".toList, c = ' ' ∨ c = '\t') ∧
      (ofScope ⟨"Root", "\t"⟩ scope).bindings = ["a", "b\ndeclare const c"] ∧
      (linesOf (ofScope ⟨"Root", "\t"⟩ scope).text).filter declares =
        ["declare const a: Root[\"a\"];",
          "declare const \"b\\ndeclare const c\": Root[\"b\\ndeclare const c\"];"] ∧
      (linesOf (ofScope ⟨"Root", "\t"⟩ scope).text).length = 11 := by
  have reads : (Scope.parse repeatedKeys).toOption.map
      (fun scope => (scope.keys, Catalog.ofScope ⟨"Root", "\t"⟩ scope)) =
        some (["a", "b\ndeclare const c"],
          ⟨⟨"Root", [⟨"a", .any⟩, ⟨"b\ndeclare const c", .reference "Root_b_declare_const_c"⟩]⟩,
            [⟨"Root_b_declare_const_c", [⟨"k", .array .any⟩]⟩]⟩) := by
    decide +kernel
  cases parsed : Scope.parse repeatedKeys with
  | error refusal =>
      rw [parsed] at reads
      cases reads
  | ok scope =>
      rw [parsed] at reads
      obtain ⟨keys, catalog⟩ := Prod.mk.inj (Option.some.inj reads)
      have identifier : Declaration.isIdentifier "Root" = true := by decide
      have blank : ∀ c ∈ "\t".toList, c = ' ' ∨ c = '\t' :=
        fun c member => .inr (List.mem_singleton.1 member)
      obtain ⟨⟨bindings, -⟩, -, declared, length, -⟩ :=
        @one_line_per_key repeatedKeys scope ⟨"Root", "\t"⟩ parsed identifier blank
      refine ⟨scope, rfl, identifier, blank, bindings.trans keys, ?_, ?_⟩
      · rw [declared, bindings, keys]
        decide
      · rw [length, catalog, keys]
        decide

end Document

end LiveScope
