/- # LiveScope.Proofs.Declaration.Lines — a document line by line

A document is a list of lines, each ended by a line break (`text_ofCatalog`): the
blocks of its interfaces and of its bindings, a blank line between two of them.
No line holds a line break of its own, whatever the keys are, and no line inside
a block is blank; so the lines and the blocks are found in the text again
(`linesOf_text`, `splitOn_lines`).

The indent has to stay on its line, and names that are not keys have to be
legible: identifiers, and no names of primitive shapes where they refer.
-/
import LiveScope.Declaration.Document
import LiveScope.Proofs.Quoted

namespace LiveScope

set_option autoImplicit false

/-! ### Legible names -/

/-- The words that primitive shapes are written as. -/
def primitiveWords : List String := ["any", "string", "number", "boolean"]

/-- What the shape refers to is an identifier and does not read as a primitive. -/
def Shape.isLegible (shape : Shape) : Bool :=
  shape.referenced?.all fun name =>
    Declaration.isIdentifier name && !primitiveWords.contains name

def Definition.isLegible (definition : Definition) : Bool :=
  Declaration.isIdentifier definition.name && definition.fields.all (·.shape.isLegible)

/-- All names of definitions and all references are legible; keys may be any. -/
def Catalog.isLegible (catalog : Catalog) : Bool := catalog.definitions.all Definition.isLegible

/-! ### Lines and blocks of any text -/

/-- Has no line break. -/
def IsLine (text : String) : Prop := '\n' ∉ text.toList

instance (text : String) : Decidable (IsLine text) :=
  inferInstanceAs (Decidable ('\n' ∉ text.toList))

@[simp] theorem isLine_append (first second : String) :
    IsLine (first ++ second) ↔ IsLine first ∧ IsLine second := by
  simp only [IsLine, String.toList_append, List.mem_append, not_or]

/-- The lines of a text that ends each of them by a line break. -/
def linesOf (text : String) : List String :=
  ((text.toList.splitOn '\n').map String.ofList).dropLast

theorem linesOf_intercalate {lines : List String} (unbroken : ∀ line ∈ lines, IsLine line)
    (filled : lines ≠ []) : linesOf ("\n".intercalate lines ++ "\n") = lines := by
  have ended : "\n".intercalate lines ++ "\n" = "\n".intercalate (lines ++ [""]) := by
    rw [String.intercalate_append_of_ne_nil filled (by simp), String.intercalate_singleton,
      String.append_empty]
  have split : ("\n".intercalate (lines ++ [""])).toList.splitOn '\n' =
      (lines ++ [""]).map String.toList := by
    rw [String.toList_intercalate]
    refine List.splitOn_intercalate '\n' ?_ (by simp)
    intro chars member
    obtain ⟨line, inLines, rfl⟩ := List.mem_map.1 member
    rcases List.mem_append.1 inLines with member | member
    · exact unbroken line member
    · rw [List.mem_singleton.1 member]
      exact List.not_mem_nil
  rw [linesOf, ended, split]
  simp [Function.comp_def]

/-- Blank lines between blocks are lines like others. -/
theorem intercalate_blocks {blocks : List (List String)} (filled : ∀ block ∈ blocks, block ≠ [])
    (nonempty : blocks ≠ []) :
    "\n\n".intercalate (blocks.map "\n".intercalate) = "\n".intercalate ([""].intercalate blocks) ∧
      [""].intercalate blocks ≠ [] := by
  induction blocks with
  | nil => exact absurd rfl nonempty
  | cons block rest ih =>
      have blockFilled := filled block List.mem_cons_self
      cases rest with
      | nil => simpa using blockFilled
      | cons next rest =>
          obtain ⟨same, restFilled⟩ :=
            ih (fun other member => filled other (List.mem_cons_of_mem _ member)) (by simp)
          rw [List.intercalate_cons_cons, List.append_assoc]
          refine ⟨?_, by simp [blockFilled]⟩
          rw [String.intercalate_append_of_ne_nil blockFilled (by simp), List.singleton_append,
            String.intercalate_cons_of_ne_nil restFilled, ← same, List.map_cons, List.map_cons,
            String.intercalate_cons_cons]
          simp only [String.empty_append, String.append_assoc]
          rfl

theorem mem_intercalate_blocks {blocks : List (List String)} {line : String}
    (member : line ∈ [""].intercalate blocks) : line = "" ∨ ∃ block ∈ blocks, line ∈ block := by
  induction blocks with
  | nil => cases member
  | cons block rest ih =>
      cases rest with
      | nil =>
          rw [List.intercalate_singleton] at member
          exact .inr ⟨block, List.mem_cons_self, member⟩
      | cons next rest =>
          rw [List.intercalate_cons_cons, List.mem_append, List.mem_append,
            List.mem_singleton] at member
          rcases member with (inBlock | blank) | inRest
          · exact .inr ⟨block, List.mem_cons_self, inBlock⟩
          · exact .inl blank
          · rcases ih inRest with blank | ⟨other, inBlocks, inOther⟩
            · exact .inl blank
            · exact .inr ⟨other, List.mem_cons_of_mem _ inBlocks, inOther⟩

/-! ### The lines of a document -/

open Naming (isWordChar)

theorem wordChars_of_isIdentifier {name : String}
    (identifier : Declaration.isIdentifier name = true) :
    ∀ c ∈ name.toList, isWordChar c = true := by
  unfold Declaration.isIdentifier at identifier
  cases chars : name.toList with
  | nil => simp
  | cons first rest =>
      rw [chars] at identifier
      simp only [Declaration.isIdentifierChars, Declaration.isIdentifierStart, Bool.and_eq_true,
        Bool.or_eq_true, List.all_eq_true] at identifier
      obtain ⟨start, restWord⟩ := identifier
      intro c member
      rcases List.mem_cons.1 member with rfl | inRest
      · simp only [isWordChar, Char.isAlphanum, Bool.or_eq_true]
        rcases start with (letter | underscore) | dollar
        · exact .inl (.inl (.inl letter))
        · exact .inl (.inr underscore)
        · exact .inr dollar
      · exact restWord c inRest

theorem isLine_of_isIdentifier {name : String}
    (identifier : Declaration.isIdentifier name = true) : IsLine name :=
  fun member => absurd (wordChars_of_isIdentifier identifier _ member) (by decide)

theorem isLine_quote (text : String) : IsLine (Json.quote text) :=
  fun member => absurd (Json.printable_quote text _ member) (by decide)

theorem Declaration.keyText_of_isIdentifier {name : String} (identifier : isIdentifier name = true) :
    keyText name = name := by
  rw [keyText, if_pos identifier]

theorem isLine_keyText (key : String) : IsLine (Declaration.keyText key) := by
  unfold Declaration.keyText
  split
  · next identifier => exact isLine_of_isIdentifier identifier
  · exact isLine_quote key

theorem Shape.isLine_text {shape : Shape} (legible : shape.isLegible = true) :
    IsLine shape.text := by
  induction shape with
  | array element ih => exact (isLine_append _ _).2 ⟨ih legible, by decide⟩
  | reference name =>
      simp only [isLegible, referenced?, Option.all_some, Bool.and_eq_true] at legible
      exact isLine_of_isIdentifier legible.1
  | _ => decide

theorem Definition.isLine_of_mem_lines {indent : String} (inLine : IsLine indent)
    {definition : Definition} (legible : definition.isLegible = true) :
    ∀ line ∈ definition.lines indent, IsLine line := by
  simp only [isLegible, Bool.and_eq_true, List.all_eq_true] at legible
  obtain ⟨name, fields⟩ := legible
  intro line member
  simp only [lines, List.cons_append, List.mem_cons, List.mem_append, List.mem_map,
    List.not_mem_nil, or_false] at member
  rcases member with rfl | ⟨field, inFields, rfl⟩ | rfl
  · simp only [isLine_append]
    exact ⟨⟨by decide, isLine_of_isIdentifier name⟩, by decide⟩
  · simp only [Field.text, isLine_append]
    exact ⟨⟨inLine, ⟨isLine_keyText field.name, by decide⟩,
      Shape.isLine_text (fields field inFields)⟩, by decide⟩
  · decide

namespace Document

theorem isLine_bindingLine {root : String} (identifier : Declaration.isIdentifier root = true)
    (key : String) : IsLine (bindingLine root key) := by
  unfold bindingLine
  simp only [isLine_append]
  exact ⟨⟨⟨⟨⟨⟨by decide, isLine_keyText key⟩, by decide⟩, isLine_of_isIdentifier identifier⟩,
    by decide⟩, isLine_quote key⟩, by decide⟩

/-- The blocks of a document: its interfaces and, if there are any, its bindings. -/
def blocks (indent : String) (keys : List String) (catalog : Catalog) : List (List String) :=
  catalog.definitions.map (Definition.lines indent) ++
    if keys.isEmpty then [] else [keys.map (bindingLine catalog.root.name)]

/-- The lines of a document: its blocks, a blank line between two of them. -/
def lines (indent : String) (keys : List String) (catalog : Catalog) : List String :=
  [""].intercalate (blocks indent keys catalog)

variable {indent : String} {keys : List String} {catalog : Catalog}

/-- A block is an interface or all of the bindings. -/
theorem mem_blocks {block : List String} : block ∈ blocks indent keys catalog ↔
    (∃ definition ∈ catalog.definitions, definition.lines indent = block) ∨
      keys ≠ [] ∧ block = keys.map (bindingLine catalog.root.name) := by
  simp only [blocks, List.mem_append, List.mem_map]
  refine or_congr_right ?_
  cases keys with
  | nil => simp
  | cons key rest => simp

theorem blocks_ne_nil : blocks indent keys catalog ≠ [] := by
  simp [blocks, Catalog.definitions]

theorem block_ne_nil : ∀ block ∈ blocks indent keys catalog, block ≠ [] := by
  intro block member
  rcases mem_blocks.1 member with ⟨definition, -, rfl⟩ | ⟨some, rfl⟩
  · simp [Definition.lines]
  · simpa using some

theorem lines_ne_nil : lines indent keys catalog ≠ [] :=
  (intercalate_blocks block_ne_nil blocks_ne_nil).2

/-- A document is written as its lines, a line break after each of them. -/
theorem text_ofCatalog (indent : String) (keys : List String) (catalog : Catalog) :
    (ofCatalog indent keys catalog).text =
      "\n".intercalate (lines indent keys catalog) ++ "\n" := by
  rw [lines, ← (intercalate_blocks block_ne_nil blocks_ne_nil).1]
  have interfaces : catalog.text indent = "\n\n".intercalate
      ((catalog.definitions.map (Definition.lines indent)).map "\n".intercalate) := by
    rw [Catalog.text, List.map_map]
    rfl
  simp only [ofCatalog, bindingText, blocks, interfaces]
  split
  · rw [List.append_nil, String.append_empty]
  · rw [List.map_append, String.intercalate_append_of_ne_nil (by simp [Catalog.definitions])
      (by simp)]
    simp only [List.map_cons, List.map_nil, String.intercalate_singleton, String.append_assoc]
    rfl

/-- No key, field or name breaks its line. -/
theorem isLine_of_mem_lines (inLine : IsLine indent) (legible : catalog.isLegible = true) :
    ∀ line ∈ lines indent keys catalog, IsLine line := by
  have inBlocks : ∀ block ∈ blocks indent keys catalog, ∀ line ∈ block, IsLine line := by
    simp only [Catalog.isLegible, List.all_eq_true] at legible
    intro block member line inBlock
    rcases mem_blocks.1 member with ⟨definition, inCatalog, rfl⟩ | ⟨-, rfl⟩
    · exact Definition.isLine_of_mem_lines inLine (legible definition inCatalog) line inBlock
    · obtain ⟨key, -, rfl⟩ := List.mem_map.1 inBlock
      have root := legible catalog.root List.mem_cons_self
      rw [Definition.isLegible, Bool.and_eq_true] at root
      exact isLine_bindingLine root.1 key
  intro line member
  rcases mem_intercalate_blocks member with blank | ⟨block, inDocument, inBlock⟩
  · rw [blank]
    decide
  · exact inBlocks block inDocument line inBlock

theorem linesOf_text (inLine : IsLine indent) (legible : catalog.isLegible = true) :
    linesOf (ofCatalog indent keys catalog).text = lines indent keys catalog := by
  rw [text_ofCatalog]
  exact linesOf_intercalate (isLine_of_mem_lines inLine legible) lines_ne_nil

/-- No line inside a block is blank. -/
theorem splitOn_lines : (lines indent keys catalog).splitOn "" = blocks indent keys catalog := by
  refine List.splitOn_intercalate "" ?_ blocks_ne_nil
  intro block member blank
  rcases mem_blocks.1 member with ⟨definition, -, rfl⟩ | ⟨-, rfl⟩
  · simp [Definition.lines] at blank
  · obtain ⟨key, -, empty⟩ := List.mem_map.1 blank
    unfold bindingLine at empty
    rw [String.append_eq_empty_iff] at empty
    exact absurd empty.2 (by decide)

end Document

end LiveScope
