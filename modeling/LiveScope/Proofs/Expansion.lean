/- # LiveScope.Proofs.Expansion — inference is faithful

A catalog is flat: a nested record stands in it as a name. `Shape.expand?` puts
what a name means in its place, `Definition.expand?` does so for all fields of a
definition, and `Catalog.meaning?` finds what a name means by looking it up. A
lookup may find nothing, or run in a circle; `meaning? depth` gives up below
`depth` names.

Neither happens in the catalog of a scope: the root expands to the skeleton of the
scope, whatever its keys are, and as many levels as there are definitions are
enough for it. `Outline.expand?_shape` says so of every part of an outline.
-/
import LiveScope.Proofs.Outline

namespace LiveScope

set_option autoImplicit false

/-! ### Expansion -/

/-- A shape with its names replaced by what they mean. -/
def Shape.expand? (meaning : String → Option Skeleton) : Shape → Option Skeleton
  | .any => some .any
  | .string => some .string
  | .number => some .number
  | .boolean => some .boolean
  | .array element => (element.expand? meaning).map .array
  | .reference name => meaning name

def Field.expand? (meaning : String → Option Skeleton) (field : Field) :
    Option (String × Skeleton) :=
  (field.shape.expand? meaning).map fun found => (field.name, found)

/-- The record of a definition, its fields expanded in order. -/
def Definition.expand? (meaning : String → Option Skeleton) (definition : Definition) :
    Option Skeleton :=
  (definition.fields.mapM (Field.expand? meaning)).map .record

/-- What a name means: the record of the definition that has it. -/
def Catalog.meaning? (catalog : Catalog) : Nat → String → Option Skeleton
  | 0, _ => none
  | depth + 1, name => (catalog.get? name).bind (Definition.expand? (catalog.meaning? depth))

/-! ### Lookup -/

theorem find?_of_mem {definitions : List Definition}
    (distinct : (Inference.names definitions).Nodup) {definition : Definition}
    (member : definition ∈ definitions) :
    definitions.find? (·.name == definition.name) = some definition := by
  induction definitions with
  | nil => cases member
  | cons first rest ih =>
      obtain ⟨new, restDistinct⟩ := List.nodup_cons.1 distinct
      rcases List.mem_cons.1 member with rfl | later
      · simp
      · have other : first.name ≠ definition.name := by
          intro same
          exact new (List.mem_map.2 ⟨definition, later, same.symm⟩)
        rw [List.find?_cons_of_neg (by simpa using other)]
        exact ih restDistinct later

theorem Catalog.get?_of_mem {catalog : Catalog}
    (distinct : (Inference.names catalog.definitions).Nodup) {definition : Definition}
    (member : definition ∈ catalog.definitions) :
    catalog.get? definition.name = some definition :=
  find?_of_mem distinct member

/-! ### Outlines expand to their skeletons -/

mutual

/-- Where the definitions of an outline are found, its shape means its skeleton. -/
theorem Outline.expand?_shape {catalog : Catalog}
    (distinct : (Inference.names catalog.definitions).Nodup) :
    ∀ (outline : Outline) (depth : Nat), outline.definitions ⊆ catalog.definitions →
      outline.definitions.length ≤ depth →
      outline.shape.expand? (catalog.meaning? depth) = some outline.skeleton
  | .any, _, _, _ | .string, _, _, _ | .number, _, _, _ | .boolean, _, _, _ => rfl
  | .array element, depth, found, deep => by
      have inside := expand?_shape distinct element depth found deep
      simp only [shape, Shape.expand?, inside, Option.map_some, skeleton]
  | .record name fields, depth, found, deep => by
      simp only [definitions, List.cons_subset] at found
      simp only [definitions, List.length_cons] at deep
      obtain ⟨here, below⟩ := found
      cases depth with
      | zero => omega
      | succ depth =>
          have known : catalog.get? name = some ⟨name, fieldShapes fields⟩ :=
            Catalog.get?_of_mem distinct here
          have inside := expand?_fieldShapes distinct fields depth below (Nat.le_of_succ_le_succ deep)
          simp only [shape, Shape.expand?, Catalog.meaning?, known, Option.bind_some,
            Definition.expand?, inside, Option.map_some, skeleton]

theorem Outline.expand?_fieldShapes {catalog : Catalog}
    (distinct : (Inference.names catalog.definitions).Nodup) :
    ∀ (fields : List (String × Outline)) (depth : Nat),
      fieldDefinitions fields ⊆ catalog.definitions → (fieldDefinitions fields).length ≤ depth →
      (fieldShapes fields).mapM (Field.expand? (catalog.meaning? depth)) =
        some (fieldSkeletons fields)
  | [], _, _, _ => rfl
  | (key, outline) :: rest, depth, found, deep => by
      simp only [fieldDefinitions, List.append_subset] at found
      simp only [fieldDefinitions, List.length_append] at deep
      have here := expand?_shape distinct outline depth found.1 (by omega)
      have later := expand?_fieldShapes distinct rest depth found.2 (by omega)
      simp only [fieldShapes] at later
      simp only [fieldShapes, List.map_cons, List.mapM_cons, Field.expand?, here, later,
        Option.map_some, Option.pure_def, Option.bind_eq_bind, Option.bind_some, fieldSkeletons]

end

/-- **Inference is faithful.** The root of a scope's catalog expands to the
skeleton of the scope: the same keys in the same order, and the same type at
every position. -/
theorem Catalog.expand?_ofScope (options : Options) (scope : Scope) (more : Nat) :
    (ofScope options scope).root.expand?
        ((ofScope options scope).meaning? ((ofScope options scope).length + more)) =
      some scope.skeleton := by
  have distinct : (Inference.names (ofScope options scope).definitions).Nodup := by
    rw [definitions_ofScope]
    exact scope.nodup_outline_names options
  have below : Outline.fieldDefinitions (scope.outlines options) ⊆
      (ofScope options scope).definitions := by
    rw [definitions_ofScope]
    exact List.subset_cons_self _ _
  have enough : (Outline.fieldDefinitions (scope.outlines options)).length ≤
      (ofScope options scope).length + more := by
    rw [length, definitions_ofScope, Scope.outline, Outline.definitions, List.length_cons]
    omega
  have inside := Outline.expand?_fieldShapes distinct (scope.outlines options) _ below enough
  have fields : (ofScope options scope).root.fields =
      Outline.fieldShapes (scope.outlines options) := by
    rw [ofScope_eq_outline]
  rw [Definition.expand?, fields, inside, Option.map_some]
  exact congrArg some (scope.skeleton_outline options)

end LiveScope
