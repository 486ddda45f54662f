/- # LiveScope.Proofs.Declaration.Reading — a document is read back

`Reading.document?` reads the keys and the catalog from the text of a document.
It goes the way the text was written, the other way round: the text is cut into
lines and the lines into blocks at the blank ones; a block is an interface, or it
is the last one and holds the bindings; a key is quoted or a word; and after the
word of a shape each `[]` is one more array around it. Each part of a text that is
read is followed by one that cannot belong to it.

What was written is read back (`document?_ofCatalog`) as long as names are legible
and the indent stays on its line; so documents of equal text are documents of the
same keys and the same catalog.
-/
import LiveScope.Proofs.Declaration.Lines
import Mathlib.Data.List.Basic

namespace LiveScope

set_option autoImplicit false

namespace Reading

open Naming (isWordChar)

/-! ### The reader -/

/-- The word at the head of a text, and what follows it. -/
def word (text : List Char) : String × List Char :=
  (String.ofList (text.takeWhile isWordChar), text.dropWhile isWordChar)

/-- What follows the expected start of a text. -/
def after? (start : String) (text : List Char) : Option (List Char) :=
  text.dropPrefix? start.toList

/-- A key, quoted or bare, and what follows it. -/
def key? : List Char → Option (String × List Char)
  | '"' :: quoted => (Json.Reader.string .kept quoted).toOption
  | text => some (word text)

/-- What a word stands for in the place of a shape. -/
def shapeOfWord (name : String) : Shape :=
  if name = "any" then .any
  else if name = "string" then .string
  else if name = "number" then .number
  else if name = "boolean" then .boolean
  else .reference name

/-- The arrays around a shape, up to the end of the line. -/
def layers? : Shape → List Char → Option Shape
  | shape, [';'] => some shape
  | shape, '[' :: ']' :: rest => layers? (.array shape) rest
  | _, _ => none

def shape? (text : List Char) : Option Shape := layers? (shapeOfWord (word text).1) (word text).2

def field? (indent line : String) : Option Field :=
  (after? indent line.toList).bind fun written =>
    (key? written).bind fun (name, rest) =>
      (after? ": " rest).bind fun last => (shape? last).map fun shape => ⟨name, shape⟩

/-- The name in the first line of an interface. -/
def head? (line : String) : Option String :=
  (after? "interface " line.toList).bind fun written =>
    if (word written).2 = " \x7b".toList then some (word written).1 else none

def definition? (indent : String) : List String → Option Definition
  | [] => none
  | first :: rest =>
      (head? first).bind fun name =>
        (rest.dropLast.mapM (field? indent)).map fun fields => ⟨name, fields⟩

/-- The key of a binding. The rest of its line says nothing more. -/
def binding? (line : String) : Option String :=
  (after? "declare const " line.toList).bind fun written => (key? written).map (·.1)

/-- The definitions, and the keys if there is a block of bindings. -/
def blocks? (indent : String) : List (List String) → Option (List Definition × List String)
  | [] => some ([], [])
  | block :: rest =>
      match definition? indent block with
      | some definition =>
          (blocks? indent rest).map fun (definitions, keys) => (definition :: definitions, keys)
      | none => if rest.isEmpty then (block.mapM binding?).map ([], ·) else none

/-- The keys and the catalog of a document. -/
def document? (indent text : String) : Option (List String × Catalog) :=
  (blocks? indent ((linesOf text).splitOn "")).bind fun (definitions, keys) =>
    (Catalog.ofDefinitions? definitions).map fun catalog => (keys, catalog)

/-! ### Words and keys -/

/-- A word ends where a character follows that is none of a word. -/
theorem word_append {name : String} (wordChars : ∀ c ∈ name.toList, isWordChar c = true)
    (next : Char) (ends : isWordChar next = false) (rest : List Char) :
    word (name.toList ++ next :: rest) = (name, next :: rest) := by
  have stop : ¬isWordChar next = true := by simp [ends]
  rw [word, List.takeWhile_append_of_pos wordChars, List.dropWhile_append_of_pos wordChars,
    List.takeWhile_cons_of_neg stop, List.dropWhile_cons_of_neg stop, List.append_nil,
    String.ofList_toList]

@[simp] theorem after?_append (start : String) (rest : List Char) :
    after? start (start.toList ++ rest) = some rest :=
  List.dropPrefix?_append_of_beq rest (beq_self_eq_true _)

/-- A key is read back up to a character that is none of a word. -/
theorem key?_keyText (key : String) (next : Char) (ends : isWordChar next = false)
    (rest : List Char) :
    key? ((Declaration.keyText key).toList ++ next :: rest) = some (key, next :: rest) := by
  unfold Declaration.keyText
  split
  · next identifier =>
      have wordChars := wordChars_of_isIdentifier identifier
      have read := word_append wordChars next ends rest
      cases chars : key.toList with
      | nil => simp [Declaration.isIdentifier, Declaration.isIdentifierChars, chars] at identifier
      | cons first more =>
          have bare : first ≠ '"' := by
            rintro rfl
            exact absurd (wordChars '"' (chars ▸ List.mem_cons_self)) (by decide)
          rw [chars] at read
          unfold key?
          split
          · next starts =>
              cases starts
              exact absurd rfl bare
          · rw [read]
  · obtain ⟨quoted, starts, read⟩ := Json.Reader.string_quote key (next :: rest)
    rw [starts, key?, read]
    rfl

/-! ### Shapes and fields -/

theorem shapeOfWord_reference {name : String} (other : primitiveWords.contains name = false) :
    shapeOfWord name = .reference name := by
  simp only [primitiveWords, List.contains_eq_mem, List.mem_cons, List.not_mem_nil, or_false,
    decide_eq_false_iff_not, not_or] at other
  obtain ⟨notAny, notString, notNumber, notBoolean⟩ := other
  simp only [shapeOfWord, notAny, notString, notNumber, notBoolean, if_false]

/-- The word of a shape is read as its innermost part, and what follows it as
more layers around. -/
theorem shape?_text {shape : Shape} (legible : shape.isLegible = true) (next : Char)
    (ends : isWordChar next = false) (rest : List Char) :
    shape? (shape.text.toList ++ next :: rest) = layers? shape (next :: rest) := by
  induction shape generalizing next rest with
  | any | string | number | boolean =>
      rw [shape?, Shape.text, word_append (wordChars_of_isIdentifier (by decide)) next ends]
      rfl
  | array element ih =>
      have read := ih legible '[' (by decide) (']' :: next :: rest)
      rw [Shape.text, String.toList_append, List.append_assoc]
      exact read
  | reference name =>
      simp only [Shape.isLegible, Shape.referenced?, Option.all_some, Bool.and_eq_true,
        Bool.not_eq_true'] at legible
      rw [shape?, Shape.text, word_append (wordChars_of_isIdentifier legible.1) next ends,
        shapeOfWord_reference legible.2]

theorem field?_text (indent : String) {field : Field} (legible : field.shape.isLegible = true) :
    field? indent (indent ++ field.text ++ ";") = some field := by
  have line : (indent ++ field.text ++ ";").toList = indent.toList ++
      ((Declaration.keyText field.name).toList ++ ':' :: ' ' ::
        (field.shape.text.toList ++ [';'])) := by
    simp [Field.text]
  have key := key?_keyText field.name ':' (by decide) (' ' :: (field.shape.text.toList ++ [';']))
  have colon : after? ": " (':' :: ' ' :: (field.shape.text.toList ++ [';'])) =
      some (field.shape.text.toList ++ [';']) := after?_append ": " _
  have shape := shape?_text legible ';' (by decide) []
  simp only [field?, line, after?_append, Option.bind_some, key, colon, shape]
  rfl

/-! ### Blocks -/

/-- What is read back one by one is read back as a list. -/
theorem mapM_map_of_reads {α β : Type} (write : α → β) (read : β → Option α) {items : List α}
    (reads : ∀ item ∈ items, read (write item) = some item) :
    (items.map write).mapM read = some items := by
  induction items with
  | nil => rfl
  | cons first rest ih =>
      have restRead := ih fun item member => reads item (List.mem_cons_of_mem _ member)
      rw [List.map_cons, List.mapM_cons, reads first List.mem_cons_self, restRead]
      rfl

theorem head?_line {name : String} (identifier : Declaration.isIdentifier name = true) :
    head? ("interface " ++ name ++ " \x7b") = some name := by
  have line : ("interface " ++ name ++ " \x7b").toList =
      "interface ".toList ++ (name.toList ++ ' ' :: ['\x7b']) := by
    simp
  have read := word_append (wordChars_of_isIdentifier identifier) ' ' (by decide) ['\x7b']
  rw [head?, line, after?_append, Option.bind_some, read]
  rfl

theorem definition?_lines (indent : String) {definition : Definition}
    (legible : definition.isLegible = true) :
    definition? indent (definition.lines indent) = some definition := by
  simp only [Definition.isLegible, Bool.and_eq_true, List.all_eq_true] at legible
  obtain ⟨name, fields⟩ := legible
  have each : ∀ field ∈ definition.fields,
      field? indent (indent ++ field.text ++ ";") = some field :=
    fun field member => field?_text indent (fields field member)
  have read : (definition.fields.map fun field => indent ++ field.text ++ ";").mapM
      (field? indent) = some definition.fields := mapM_map_of_reads _ _ each
  unfold Definition.lines
  rw [List.cons_append, definition?, head?_line name, Option.bind_some, List.dropLast_concat, read]
  rfl

theorem binding?_line (root key : String) : binding? (Document.bindingLine root key) = some key := by
  have line : ∃ rest, (Document.bindingLine root key).toList =
      "declare const ".toList ++ ((Declaration.keyText key).toList ++ ':' :: rest) := by
    unfold Document.bindingLine
    exact ⟨_, by simp only [String.toList_append, List.append_assoc]; rfl⟩
  obtain ⟨rest, line⟩ := line
  rw [binding?, line, after?_append, Option.bind_some, key?_keyText key ':' (by decide)]
  rfl

/-- Bindings are no interface. -/
theorem definition?_bindings (indent root key : String) (keys : List String) :
    definition? indent ((key :: keys).map (Document.bindingLine root)) = none := by
  have line : ∃ rest, (Document.bindingLine root key).toList = 'd' :: rest := by
    unfold Document.bindingLine
    exact ⟨_, by simp only [String.toList_append, List.append_assoc]; rfl⟩
  obtain ⟨rest, line⟩ := line
  have head : head? (Document.bindingLine root key) = none := by
    rw [head?, line]
    rfl
  rw [List.map_cons, definition?, head]
  rfl

/-- The blocks of a document are read back as what they were written for. -/
theorem blocks?_blocks {indent : String} {definitions : List Definition}
    (legible : ∀ definition ∈ definitions, definition.isLegible = true) (root : String)
    (keys : List String) :
    blocks? indent (definitions.map (Definition.lines indent) ++
      if keys.isEmpty then [] else [keys.map (Document.bindingLine root)]) =
        some (definitions, keys) := by
  induction definitions with
  | nil =>
      cases keys with
      | nil => rfl
      | cons key keys =>
          have read : ((key :: keys).map (Document.bindingLine root)).mapM binding? =
              some (key :: keys) :=
            mapM_map_of_reads _ _ fun other _ => binding?_line root other
          simp only [List.map_nil, List.nil_append, List.isEmpty_cons, Bool.false_eq_true, if_false,
            blocks?, definition?_bindings, List.isEmpty_nil, if_true, read, Option.map_some]
  | cons first rest ih =>
      have restRead := ih fun definition member => legible definition (List.mem_cons_of_mem _ member)
      rw [List.map_cons, List.cons_append, blocks?,
        definition?_lines indent (legible first List.mem_cons_self), restRead]
      rfl

/-! ### Documents -/

/-- The keys and the catalog are read back from the text alone. -/
theorem document?_ofCatalog {indent : String} (inLine : IsLine indent) (keys : List String)
    {catalog : Catalog} (legible : catalog.isLegible = true) :
    document? indent (Document.ofCatalog indent keys catalog).text = some (keys, catalog) := by
  have definitions : ∀ definition ∈ catalog.definitions, definition.isLegible = true := by
    simpa [Catalog.isLegible] using legible
  simp only [document?, Document.linesOf_text inLine legible, Document.splitOn_lines,
    Document.blocks, blocks?_blocks definitions catalog.root.name keys, Option.bind_some,
    Catalog.ofDefinitions?_definitions, Option.map_some]

end Reading

namespace Document

/-- **The text of a document says all of it.** Its keys and its catalog are read
back from the text alone, so another document has the same text only if it is of
the same keys and the same catalog. Keys and field names may be any strings, and
the indent may be anything on one line, such as spaces and tabs. -/
theorem decodable_ofCatalog {indent : String} (inLine : IsLine indent) (keys : List String)
    (catalog : Catalog) (legible : catalog.isLegible = true) :
    Reading.document? indent (ofCatalog indent keys catalog).text = some (keys, catalog) ∧
    ∀ keys' catalog', catalog'.isLegible = true →
      ((ofCatalog indent keys catalog).text = (ofCatalog indent keys' catalog').text ↔
        keys = keys' ∧ catalog = catalog') := by
  have read := Reading.document?_ofCatalog inLine keys legible
  refine ⟨read, fun keys' catalog' legible' => ?_⟩
  constructor
  · intro sameText
    have read' := Reading.document?_ofCatalog inLine keys' legible'
    rw [← sameText, read] at read'
    simpa using read'
  · rintro ⟨rfl, rfl⟩
    rfl

/-- A catalog with a nested array, an empty key, and a key of two lines. -/
def twoLineKey : Catalog :=
  ⟨⟨"Root", [⟨"a\n\"b\"", .array (.array (.reference "Root_a__b_"))⟩, ⟨"", .any⟩]⟩,
    [⟨"Root_a__b_", []⟩]⟩

theorem decodable_twoLineKey :
    IsLine "\t" ∧ twoLineKey.isLegible = true ∧
    Reading.document? "\t" (ofCatalog "\t" ["", "a\n\"b\""] twoLineKey).text =
      some (["", "a\n\"b\""], twoLineKey) ∧
    (ofCatalog "\t" ["", "a\n\"b\""] twoLineKey).text ≠ (ofCatalog "\t" [] twoLineKey).text := by
  have inLine : IsLine "\t" := by decide
  have legible : twoLineKey.isLegible = true := by decide
  obtain ⟨read, injective⟩ := decodable_ofCatalog inLine ["", "a\n\"b\""] twoLineKey legible
  refine ⟨inLine, legible, read, fun sameText => ?_⟩
  exact absurd ((injective [] twoLineKey legible).1 sameText).1 (by decide)

end Document

end LiveScope
