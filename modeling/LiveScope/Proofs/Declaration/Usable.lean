/- # LiveScope.Proofs.Declaration.Usable — every chosen name can be declared and referred to

A name that continues the root's has an underscore, whatever key it was made from: an
empty key, one that starts with a digit, one in any script. No reserved word and no
primitive shape has one, so the name can be declared, and the text of a shape that
refers, through any arrays, is never the text of a shape that does not
(`Shape.text_ne_of_referenced?`). Whether the name is an identifier depends on the
root's name alone. `Catalog.usable_ofScope` says this of all definitions of a scope and
of every place that refers to one.
-/
import LiveScope.Proofs.Declaration.Legible
import LiveScope.Proofs.Lineage

namespace LiveScope

set_option autoImplicit false

namespace Naming.Continues

variable {owner name : String}

theorem not_reserved (continues : Continues owner name) : name ∉ Declaration.reservedWords := by
  have plain : ∀ word ∈ Declaration.reservedWords, '_' ∉ word.toList := by decide
  exact fun member => plain name member continues.underscore_mem

theorem not_primitiveWord (continues : Continues owner name) : name ∉ primitiveWords := by
  have other := continues.not_primitive
  rwa [List.contains_eq_mem, decide_eq_false_iff_not] at other

/-- What follows the owner's name, its characters given by their ranges. -/
theorem suffix_ranges (continues : Continues owner name) :
    ∃ suffix, name = owner ++ "_" ++ suffix ∧ ∀ c ∈ suffix.toList,
      ('A' ≤ c ∧ c ≤ 'Z') ∨ ('a' ≤ c ∧ c ≤ 'z') ∨ ('0' ≤ c ∧ c ≤ '9') ∨ c = '_' ∨ c = '$' := by
  obtain ⟨suffix, same, wordChars⟩ := continues
  exact ⟨suffix, same, fun c member => isWordChar_iff.1 (wordChars c member)⟩

end Naming.Continues

/-! ### Texts of shapes that refer -/

namespace Shape

/-- The name is in the text, in front of the brackets of any arrays. -/
theorem subset_text_of_referenced? {name : String} : ∀ {shape : Shape},
    shape.referenced? = some name → name.toList ⊆ shape.text.toList
  | .reference _, refers => by
      cases refers
      exact List.Subset.refl _
  | .array element, refers => by
      have inElement : name.toList ⊆ element.text.toList := subset_text_of_referenced? refers
      rw [text, String.toList_append]
      exact List.Subset.trans inElement (List.subset_append_left _ _)

theorem underscore_not_mem_text : ∀ {shape : Shape},
    shape.referenced? = none → '_' ∉ shape.text.toList
  | .any, _ | .string, _ | .number, _ | .boolean, _ => by decide
  | .array element, plain => by
      have inElement : '_' ∉ element.text.toList := underscore_not_mem_text plain
      rw [text, String.toList_append, List.mem_append, not_or]
      exact ⟨inElement, by decide⟩

theorem text_ne_of_referenced? {name : String} {shape plain : Shape} (underscore : '_' ∈ name.toList)
    (refers : shape.referenced? = some name) (refersNot : plain.referenced? = none) :
    shape.text ≠ plain.text := by
  intro same
  have inText : '_' ∈ shape.text.toList := subset_text_of_referenced? refers underscore
  rw [same] at inText
  exact underscore_not_mem_text refersNot inText

end Shape

/-! ### Names of a scope's catalog -/

namespace Catalog

theorem continues_of_mem_others (options : Options) (scope : Scope) {definition : Definition}
    (member : definition ∈ (ofScope options scope).others) :
    Naming.Continues options.rootName definition.name := by
  rw [ofScope_eq_outline] at member
  exact scope.continues_of_mem_fieldNames options (List.mem_map_of_mem member)

/-- **Every name that a scope gives rise to is usable**, whatever its keys are. Below the
root it is the root's name, an underscore and characters of a word, no reserved word and
no word of a primitive shape; what refers to it never reads like a shape that refers to
nothing. If the root's name is an identifier, all names of definitions are, and all that
is referred to stands bare. -/
theorem usable_ofScope (options : Options) (scope : Scope) :
    let catalog := ofScope options scope
    (∀ definition ∈ catalog.others,
      (∃ suffix, definition.name = options.rootName ++ "_" ++ suffix ∧ ∀ c ∈ suffix.toList,
        ('A' ≤ c ∧ c ≤ 'Z') ∨ ('a' ≤ c ∧ c ≤ 'z') ∨ ('0' ≤ c ∧ c ≤ '9') ∨ c = '_' ∨ c = '$') ∧
      definition.name ∉ Declaration.reservedWords ∧
      definition.name ∉ ["any", "string", "number", "boolean"]) ∧
    (∀ definition ∈ catalog.definitions, ∀ field ∈ definition.fields, ∀ name,
      field.shape.referenced? = some name →
      name ∉ ["any", "string", "number", "boolean"] ∧
      ∀ plain : Shape, plain.referenced? = none → field.shape.text ≠ plain.text) ∧
    (Declaration.isIdentifier options.rootName = true →
      (∀ definition ∈ catalog.definitions, Declaration.isIdentifier definition.name = true) ∧
      ∀ definition ∈ catalog.definitions, ∀ field ∈ definition.fields, ∀ name,
        field.shape.referenced? = some name →
        Declaration.isIdentifier name = true ∧ Declaration.keyText name = name) := by
  intro catalog
  have referring : ∀ definition ∈ catalog.definitions, ∀ field ∈ definition.fields, ∀ name,
      field.shape.referenced? = some name → Naming.Continues options.rootName name :=
    fun definition member field inFields name refers =>
      continues_of_mem_references options scope member
        (List.mem_filterMap.2 ⟨field, inFields, refers⟩)
  refine ⟨fun definition member => ?_, fun definition member field inFields name refers => ?_,
    fun identifier => ⟨fun definition member => ?_,
      fun definition member field inFields name refers => ?_⟩⟩
  · have continues := continues_of_mem_others options scope member
    exact ⟨continues.suffix_ranges, continues.not_reserved, continues.not_primitiveWord⟩
  · have continues := referring definition member field inFields name refers
    exact ⟨continues.not_primitiveWord, fun plain refersNot =>
      Shape.text_ne_of_referenced? continues.underscore_mem refers refersNot⟩
  · rcases name_of_mem_ofScope options scope member with root | below
    · rwa [root]
    · exact below.isIdentifier identifier
  · have bare := (referring definition member field inFields name refers).isIdentifier identifier
    exact ⟨bare, Declaration.keyText_of_isIdentifier bare⟩

/-- No key here could name an interface: one is empty, one starts with a digit and leads
to its object through two arrays, two differ only in letters that no name can hold. -/
def awkwardKeys : Scope :=
  ⟨[("", .object []), ("1st", .array [.array [.object []]]), ("é", .object []), ("ж", .object [])]⟩

theorem usable_awkwardKeys :
    let catalog := ofScope {} awkwardKeys
    Declaration.isIdentifier "RootObject" = true ∧
    Inference.names catalog.others =
      ["RootObject__", "RootObject_1st", "RootObject___2", "RootObject___3"] ∧
    "RootObject_1st" ∉ Declaration.reservedWords ∧
    (⟨"1st", .array (.array (.reference "RootObject_1st"))⟩ : Field) ∈ catalog.root.fields ∧
    (Shape.array (.array (.reference "RootObject_1st"))).text ≠ (Shape.array (.array .any)).text ∧
    Declaration.keyText "RootObject_1st" = "RootObject_1st" := by
  intro catalog
  have identifier : Declaration.isIdentifier "RootObject" = true := by decide
  have inOthers : (⟨"RootObject_1st", []⟩ : Definition) ∈ catalog.others := by decide
  have inFields : (⟨"1st", .array (.array (.reference "RootObject_1st"))⟩ : Field) ∈
      catalog.root.fields := by decide
  obtain ⟨below, referring, bare⟩ := usable_ofScope {} awkwardKeys
  exact ⟨identifier, by decide, (below _ inOthers).2.1, inFields,
    (referring _ List.mem_cons_self _ inFields _ rfl).2 _ rfl,
    ((bare identifier).2 _ List.mem_cons_self _ inFields _ rfl).2⟩

end Catalog

end LiveScope
