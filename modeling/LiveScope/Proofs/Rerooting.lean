/- # LiveScope.Proofs.Rerooting — the root's name is a prefix

All names that inference chooses begin with the name of the root, and nothing is
asked of that name but whether two names are equal. So under another root the same
names come out behind another prefix: `firstFree_map` says that the search for a
free name stops at the same number, since a prefix that all names share makes no two
of them equal (`mem_map_root`), and `outline_root` that naming a skeleton commutes
with putting a prefix before every name in use.

The catalogs of a scope under any two roots are thereby one catalog, that of the
empty root, with a prefix before each name (`ofScope_eq_bare`), and either is the
other with its names rerooted (`rerooted_ofScope`).
-/
import LiveScope.Proofs.Declaration.Legible

namespace LiveScope

set_option autoImplicit false

/-! ### Renaming -/

/-- A shape with the name in it replaced. -/
def Shape.renamed (rename : String → String) : Shape → Shape
  | .any => .any
  | .string => .string
  | .number => .number
  | .boolean => .boolean
  | .array element => .array (element.renamed rename)
  | .reference name => .reference (rename name)

/-- The name of a field is no name of a definition and stays. -/
def Field.renamed (rename : String → String) (field : Field) : Field :=
  ⟨field.name, field.shape.renamed rename⟩

def Definition.renamed (rename : String → String) (definition : Definition) : Definition :=
  ⟨rename definition.name, definition.fields.map (Field.renamed rename)⟩

def Catalog.renamed (rename : String → String) (catalog : Catalog) : Catalog :=
  ⟨catalog.root.renamed rename, catalog.others.map (Definition.renamed rename)⟩

section Renamed

variable {inner outer rename : String → String}

theorem Shape.renamed_renamed (step : ∀ name, outer (inner name) = rename name) :
    ∀ shape : Shape, (shape.renamed inner).renamed outer = shape.renamed rename
  | .any | .string | .number | .boolean => rfl
  | .array element => congrArg Shape.array (renamed_renamed step element)
  | .reference name => congrArg Shape.reference (step name)

theorem Definition.renamed_renamed (step : ∀ name, outer (inner name) = rename name)
    (definition : Definition) :
    (definition.renamed inner).renamed outer = definition.renamed rename := by
  have fields (field : Field) :
      (field.renamed inner).renamed outer = field.renamed rename :=
    congrArg (Field.mk field.name) (Shape.renamed_renamed step field.shape)
  simp only [renamed, step, List.map_map, Function.comp_def, fields]

/-- Two renamings in a row are the one that takes both steps at once. -/
theorem Catalog.renamed_renamed (step : ∀ name, outer (inner name) = rename name)
    (catalog : Catalog) : (catalog.renamed inner).renamed outer = catalog.renamed rename := by
  simp only [renamed, List.map_map, Function.comp_def, Definition.renamed_renamed step]

end Renamed

/-! ### Renamed outlines -/

namespace Outline

variable (rename : String → String)

mutual

/-- An outline with the names of its records replaced. -/
def renamed : Outline → Outline
  | .any => .any
  | .string => .string
  | .number => .number
  | .boolean => .boolean
  | .array element => .array element.renamed
  | .record name fields => .record (rename name) (renamedFields fields)

def renamedFields : List (String × Outline) → List (String × Outline)
  | [] => []
  | (key, outline) :: rest => (key, outline.renamed) :: renamedFields rest

end

theorem shape_renamed (outline : Outline) :
    (outline.renamed rename).shape = outline.shape.renamed rename := by
  cases outline with
  | array element => exact congrArg Shape.array (shape_renamed element)
  | _ => rfl

theorem fieldShapes_renamedFields (fields : List (String × Outline)) :
    fieldShapes (renamedFields rename fields) =
      (fieldShapes fields).map (Field.renamed rename) := by
  induction fields with
  | nil => rfl
  | cons field rest ih =>
      simp only [fieldShapes] at ih
      simp only [renamedFields, fieldShapes, List.map_cons, shape_renamed, ih, Field.renamed]

mutual

/-- The definitions of a renamed outline are renamed. -/
theorem definitions_renamed : ∀ outline : Outline, (outline.renamed rename).definitions =
    outline.definitions.map (Definition.renamed rename)
  | .any | .string | .number | .boolean => rfl
  | .array element => definitions_renamed element
  | .record name fields => by
      simp only [renamed, definitions, fieldShapes_renamedFields,
        fieldDefinitions_renamedFields fields, List.map_cons, Definition.renamed]

theorem fieldDefinitions_renamedFields : ∀ fields : List (String × Outline),
    fieldDefinitions (renamedFields rename fields) =
      (fieldDefinitions fields).map (Definition.renamed rename)
  | [] => rfl
  | (_, outline) :: rest => by
      simp only [renamedFields, fieldDefinitions, definitions_renamed outline,
        fieldDefinitions_renamedFields rest, List.map_append]

end

theorem names_renamed (outline : Outline) :
    (outline.renamed rename).names = outline.names.map rename := by
  simp only [names, Inference.names, definitions_renamed, List.map_map]
  rfl

end Outline

/-! ### Names behind a prefix -/

namespace Naming

/-- A name that goes on from the root `old`, going on from `new` instead. -/
def reroot (old new name : String) : String := new ++ String.ofList (name.toList.drop old.length)

theorem reroot_append (old new suffix : String) : reroot old new (old ++ suffix) = new ++ suffix := by
  rw [reroot, String.toList_append, ← String.length_toList, List.drop_left, String.ofList_toList]

variable (root : String) (used : List String)

theorem under_root (owner key : String) : under (root ++ owner) key = root ++ under owner key := by
  simp only [under, String.append_assoc]

theorem numbered_root (base : String) (n : Nat) :
    numbered (root ++ base) n = root ++ numbered base n := by
  simp only [numbered, String.append_assoc]

/-- Behind a prefix the same names are in use. -/
theorem mem_map_root {name : String} : root ++ name ∈ used.map (root ++ ·) ↔ name ∈ used := by
  simp only [List.mem_map, String.append_right_inj, exists_eq_right]

/-- The search stops at the same number. -/
theorem firstFree_map (base : String) : ∀ tries n : Nat,
    firstFree (used.map (root ++ ·)) (root ++ base) tries n = root ++ firstFree used base tries n
  | 0, n => numbered_root root base n
  | tries + 1, n => by
      simp only [firstFree, numbered_root, mem_map_root, firstFree_map base tries (n + 1)]
      split <;> rfl

theorem fresh_map (base : String) :
    fresh (used.map (root ++ ·)) (root ++ base) = root ++ fresh used base := by
  simp only [fresh, mem_map_root, List.length_map, firstFree_map]
  split <;> rfl

end Naming

namespace Skeleton

variable (root : String)

mutual

/-- Naming behind a prefix puts the prefix before each name. -/
theorem outline_root (used : List String) (path : String) : ∀ skeleton : Skeleton,
    skeleton.outline (used.map (root ++ ·)) (root ++ path) =
      (skeleton.outline used path).renamed (root ++ ·)
  | .any | .string | .number | .boolean => rfl
  | .array element => congrArg Outline.array (outline_root used path element)
  | .record fields => by
      have inside := outlineFields_root (used ++ [Naming.fresh used path])
        (Naming.fresh used path) fields
      rw [List.map_append, List.map_singleton] at inside
      simp only [outline, Outline.renamed, Naming.fresh_map, inside]

theorem outlineFields_root (used : List String) (owner : String) :
    ∀ fields : List (String × Skeleton),
      outlineFields (used.map (root ++ ·)) (root ++ owner) fields =
        Outline.renamedFields (root ++ ·) (outlineFields used owner fields)
  | [] => rfl
  | (key, skeleton) :: rest => by
      have here := outline_root used (Naming.under owner key) skeleton
      have later := outlineFields_root
        (used ++ (skeleton.outline used (Naming.under owner key)).names) owner rest
      rw [List.map_append, ← Outline.names_renamed, ← here] at later
      simp only [outlineFields, Outline.renamedFields, Naming.under_root, here] at later ⊢
      rw [later]

end

end Skeleton

/-! ### Catalogs under two roots -/

namespace Catalog

/-- The catalog of a scope under the empty root, which holds the suffixes alone. -/
def bare (scope : Scope) : Catalog := ofScope { rootName := "" } scope

/-- The catalog of a scope is the bare one behind the name of the root. -/
theorem ofScope_eq_bare (options : Options) (scope : Scope) :
    ofScope options scope = (bare scope).renamed (options.rootName ++ ·) := by
  have fields := Skeleton.outlineFields_root options.rootName [""] ""
    (Json.entrySkeletons scope.entries)
  rw [List.map_singleton, String.append_empty] at fields
  simp only [bare, ofScope_eq_outline, Scope.outlines, renamed, Definition.renamed, fields,
    Outline.fieldShapes_renamedFields, Outline.fieldDefinitions_renamedFields,
    String.append_empty]

/-- **The root's name is a pure prefix.** In the catalog of a scope the root bears the
root's name, and every other definition and every reference a name that goes on from it
with an underscore. The catalog under another root is this one with the other root's
name in place of the prefix of each name: the fields are the same, and so are the
numbers that keep names apart. -/
theorem rerooted_ofScope (options rival : Options) (scope : Scope) :
    let catalog := ofScope options scope
    let rename := Naming.reroot options.rootName rival.rootName
    catalog.root.name = options.rootName ∧
    (∀ definition ∈ catalog.others, ∃ suffix,
      definition.name = options.rootName ++ "_" ++ suffix) ∧
    (∀ name ∈ Inference.references catalog.definitions, ∃ suffix,
      name = options.rootName ++ "_" ++ suffix) ∧
    (∀ suffix, rename (options.rootName ++ suffix) = rival.rootName ++ suffix) ∧
    ofScope rival scope = catalog.renamed rename := by
  intro catalog rename
  have written := ofScope_eq_outline options scope
  refine ⟨rfl, fun definition member => ?_, fun name refers => ?_,
    Naming.reroot_append _ _, ?_⟩
  · have below : definition ∈ Outline.fieldDefinitions (scope.outlines options) :=
      (congrArg (definition ∈ ·.others) written).mp member
    obtain ⟨suffix, named, -⟩ :=
      scope.continues_of_mem_fieldNames options (List.mem_map_of_mem below)
    exact ⟨suffix, named⟩
  · obtain ⟨definition, member, inReferences⟩ := List.mem_flatMap.1 refers
    obtain ⟨suffix, named, -⟩ := continues_of_mem_references options scope member inReferences
    exact ⟨suffix, named⟩
  · have step (name : String) : rename (options.rootName ++ name) = rival.rootName ++ name :=
      Naming.reroot_append _ _ name
    rw [ofScope_eq_bare rival, ← renamed_renamed step, ← ofScope_eq_bare options]

/-- Two keys that want one name, below a root whose name occurs in both. -/
def echoingKeys : Scope := ⟨[("a b", .object []), ("a_b", .array [.object []])]⟩

theorem rerooted_echoingKeys :
    let rooted := ofScope { rootName := "a" } echoingKeys
    rooted.others = [⟨"a_a_b", []⟩, ⟨"a_a_b_2", []⟩] ∧
    (∃ suffix, "a_a_b_2" = "a" ++ "_" ++ suffix) ∧
    "a_a_b_2" ∈ Inference.references rooted.definitions ∧
    ofScope { rootName := "" } echoingKeys = rooted.renamed (Naming.reroot "a" "") ∧
    (rooted.renamed (Naming.reroot "a" "")).others = [⟨"_a_b", []⟩, ⟨"_a_b_2", []⟩] := by
  intro rooted
  have referred : "a_a_b_2" ∈ Inference.references rooted.definitions := by decide
  obtain ⟨-, -, references, -, same⟩ :=
    rerooted_ofScope { rootName := "a" } { rootName := "" } echoingKeys
  exact ⟨by decide, references _ referred, referred, same, by decide⟩

end Catalog

end LiveScope
