/- # LiveScope.Proofs.Outline — inference by way of skeletons and outlines

What inference keeps of a value is its `Skeleton`: the keys of its objects in
order, the first items of its arrays, and the kinds of everything else. An
`Outline` is a skeleton each of whose records bears a name.

Inference falls into three steps: a value has a skeleton (`Json.skeleton`), a
skeleton is named from the outside in (`Skeleton.outline`), and an outline is
written down as a shape with the definitions of its records, each before those
inside it (`Outline.shape`, `Outline.definitions`). `shape_eq_outline` and
`ofScope_eq_outline` say that nothing else happens. So what holds of inference is
shown of outlines:

* `skeleton_outline`: naming changes no skeleton;
* `nodup_outline_names`: the names are chosen apart from each other and from
  those in use.
-/
import LiveScope.Proofs.Naming
import LiveScope.Shape.Inference

namespace LiveScope

set_option autoImplicit false

/-! ### Skeletons -/

/-- The structure of a value, as far as one sample tells it. -/
inductive Skeleton where
  | any
  | string
  | number
  | boolean
  | array (element : Skeleton)
  | record (fields : List (String × Skeleton))
  deriving Inhabited

namespace Json

mutual

def skeleton : Json → Skeleton
  | .null => .any
  | .boolean _ => .boolean
  | .number _ => .number
  | .string _ => .string
  | .array items => .array (elementSkeleton items)
  | .object entries => .record (entrySkeletons entries)

/-- The skeleton of the first item, and `any` where there is none. -/
def elementSkeleton : List Json → Skeleton
  | [] => .any
  | first :: _ => first.skeleton

def entrySkeletons : List (String × Json) → List (String × Skeleton)
  | [] => []
  | (key, value) :: rest => (key, value.skeleton) :: entrySkeletons rest

end

mutual

/-- The objects of a value that inference reaches: those below the fields of
objects and the first items of arrays, and the value itself if it is one. -/
def objectCount : Json → Nat
  | .null | .boolean _ | .number _ | .string _ => 0
  | .array items => elementObjectCount items
  | .object entries => 1 + entryObjectCount entries

def elementObjectCount : List Json → Nat
  | [] => 0
  | first :: _ => first.objectCount

def entryObjectCount : List (String × Json) → Nat
  | [] => 0
  | (_, value) :: rest => value.objectCount + entryObjectCount rest

end

end Json

namespace Scope

/-- The skeleton of a scope is the record of its keys. -/
def skeleton (scope : Scope) : Skeleton := .record (Json.entrySkeletons scope.entries)

/-- The objects strictly below a scope that inference reaches. -/
def objectCount (scope : Scope) : Nat := Json.entryObjectCount scope.entries

end Scope

/-! ### Outlines -/

theorem Inference.names_append (front back : List Definition) :
    names (front ++ back) = names front ++ names back := List.map_append

/-- A skeleton whose records have names. -/
inductive Outline where
  | any
  | string
  | number
  | boolean
  | array (element : Outline)
  | record (name : String) (fields : List (String × Outline))
  deriving Inhabited

namespace Outline

/-- An outline seen from outside: of a record only the name shows. -/
def shape : Outline → Shape
  | .any => .any
  | .string => .string
  | .number => .number
  | .boolean => .boolean
  | .array element => .array element.shape
  | .record name _ => .reference name

/-- The fields of a record as its definition has them. -/
def fieldShapes (fields : List (String × Outline)) : List Field :=
  fields.map fun field => ⟨field.1, field.2.shape⟩

mutual

/-- The definitions of all records of an outline, from the outside in and from
the first field on. -/
def definitions : Outline → List Definition
  | .any | .string | .number | .boolean => []
  | .array element => element.definitions
  | .record name fields => ⟨name, fieldShapes fields⟩ :: fieldDefinitions fields

def fieldDefinitions : List (String × Outline) → List Definition
  | [] => []
  | (_, outline) :: rest => outline.definitions ++ fieldDefinitions rest

end

mutual

/-- The structure below the names. -/
def skeleton : Outline → Skeleton
  | .any => .any
  | .string => .string
  | .number => .number
  | .boolean => .boolean
  | .array element => .array element.skeleton
  | .record _ fields => .record (fieldSkeletons fields)

def fieldSkeletons : List (String × Outline) → List (String × Skeleton)
  | [] => []
  | (key, outline) :: rest => (key, outline.skeleton) :: fieldSkeletons rest

end

def names (outline : Outline) : List String := Inference.names outline.definitions

def fieldNames (fields : List (String × Outline)) : List String :=
  Inference.names (fieldDefinitions fields)

@[simp] theorem names_record (name : String) (fields : List (String × Outline)) :
    (record name fields).names = name :: fieldNames fields := rfl

@[simp] theorem fieldNames_nil : fieldNames [] = [] := rfl

@[simp] theorem fieldNames_cons (key : String) (outline : Outline)
    (rest : List (String × Outline)) :
    fieldNames ((key, outline) :: rest) = outline.names ++ fieldNames rest :=
  Inference.names_append _ _

end Outline

namespace Skeleton

mutual

/-- Name the records of a skeleton that lies at `path`, apart from the names `used`. -/
def outline (used : List String) (path : String) : Skeleton → Outline
  | .any => .any
  | .string => .string
  | .number => .number
  | .boolean => .boolean
  | .array element => .array (element.outline used path)
  | .record fields =>
      .record (Naming.fresh used path)
        (outlineFields (used ++ [Naming.fresh used path]) (Naming.fresh used path) fields)

/-- Name what lies in the fields of the record `owner`, from the first field on. -/
def outlineFields (used : List String) (owner : String) :
    List (String × Skeleton) → List (String × Outline)
  | [] => []
  | (key, skeleton) :: rest =>
      (key, skeleton.outline used (Naming.under owner key)) ::
        outlineFields (used ++ (skeleton.outline used (Naming.under owner key)).names) owner rest

end

end Skeleton

/-! ### Inference in steps -/

namespace Inference

mutual

/-- Inference of a value writes down the outline of its skeleton. -/
theorem shape_eq_outline (used : List String) (path : String) :
    ∀ json : Json, shape used path json =
      ((json.skeleton.outline used path).shape, (json.skeleton.outline used path).definitions)
  | .null | .boolean _ | .number _ | .string _ => rfl
  | .array items => by
      have element := elementShape_eq_outline used path items
      simp only [shape, Json.skeleton, Skeleton.outline, Outline.shape, Outline.definitions,
        element]
  | .object entries => by
      have inside := fields_eq_outline (used ++ [Naming.fresh used path])
        (Naming.fresh used path) entries
      simp only [shape, Naming.claim, Json.skeleton, Skeleton.outline, Outline.shape,
        Outline.definitions, inside]

theorem elementShape_eq_outline (used : List String) (path : String) :
    ∀ items : List Json, elementShape used path items =
      (((Json.elementSkeleton items).outline used path).shape,
        ((Json.elementSkeleton items).outline used path).definitions)
  | [] => rfl
  | first :: _ => shape_eq_outline used path first

theorem fields_eq_outline (used : List String) (owner : String) :
    ∀ entries : List (String × Json), fields used owner entries =
      (Outline.fieldShapes (Skeleton.outlineFields used owner (Json.entrySkeletons entries)),
        Outline.fieldDefinitions (Skeleton.outlineFields used owner (Json.entrySkeletons entries)))
  | [] => rfl
  | (key, value) :: rest => by
      have here := shape_eq_outline used (Naming.under owner key) value
      have later := fields_eq_outline
        (used ++ (value.skeleton.outline used (Naming.under owner key)).names) owner rest
      simp only [Outline.names] at later
      simp only [fields, Json.entrySkeletons, Skeleton.outlineFields, Outline.fieldShapes,
        List.map_cons, Outline.fieldDefinitions, Outline.names, here, later]

end

end Inference

namespace Scope

/-- What lies in the fields of a scope, named below the root. -/
def outlines (options : Options) (scope : Scope) : List (String × Outline) :=
  Skeleton.outlineFields [options.rootName] options.rootName (Json.entrySkeletons scope.entries)

/-- A scope with the names of all its records. -/
def outline (options : Options) (scope : Scope) : Outline :=
  .record options.rootName (scope.outlines options)

end Scope

namespace Catalog

theorem ofScope_eq_outline (options : Options) (scope : Scope) :
    ofScope options scope =
      ⟨⟨options.rootName, Outline.fieldShapes (scope.outlines options)⟩,
        Outline.fieldDefinitions (scope.outlines options)⟩ := by
  simp only [ofScope, Naming.claim_nil, Inference.fields_eq_outline, Scope.outlines]

theorem definitions_ofScope (options : Options) (scope : Scope) :
    (ofScope options scope).definitions = (scope.outline options).definitions := by
  simp only [ofScope_eq_outline, definitions, Scope.outline, Outline.definitions]

end Catalog

/-! ### What naming keeps and what it adds -/

mutual

theorem Skeleton.skeleton_outline (used : List String) (path : String) :
    ∀ skeleton : Skeleton, (skeleton.outline used path).skeleton = skeleton
  | .any | .string | .number | .boolean => rfl
  | .array element => congrArg Skeleton.array (skeleton_outline used path element)
  | .record fields => congrArg Skeleton.record (fieldSkeletons_outlineFields _ _ fields)

theorem Skeleton.fieldSkeletons_outlineFields (used : List String) (owner : String) :
    ∀ fields : List (String × Skeleton),
      Outline.fieldSkeletons (Skeleton.outlineFields used owner fields) = fields
  | [] => rfl
  | (key, skeleton) :: rest => by
      simp only [Skeleton.outlineFields, Outline.fieldSkeletons,
        skeleton_outline used (Naming.under owner key) skeleton,
        fieldSkeletons_outlineFields _ owner rest]

end

theorem Scope.skeleton_outline (options : Options) (scope : Scope) :
    (scope.outline options).skeleton = scope.skeleton := by
  simp only [Scope.outline, Scope.outlines, Outline.skeleton,
    Skeleton.fieldSkeletons_outlineFields, Scope.skeleton]

mutual

/-- The names of an outline are distinct, also from those in use before. -/
theorem Skeleton.nodup_outline_names {used : List String} (distinct : used.Nodup) (path : String) :
    ∀ skeleton : Skeleton, (used ++ (skeleton.outline used path).names).Nodup
  | .any | .string | .number | .boolean => by
      simpa [outline, Outline.names, Outline.definitions, Inference.names] using distinct
  | .array element => nodup_outline_names distinct path element
  | .record fields => by
      have below := nodup_outlineFields_names (Naming.nodup_fresh distinct path)
        (Naming.fresh used path) fields
      rw [List.append_assoc, List.singleton_append] at below
      exact below

theorem Skeleton.nodup_outlineFields_names {used : List String} (distinct : used.Nodup)
    (owner : String) : ∀ fields : List (String × Skeleton),
      (used ++ Outline.fieldNames (Skeleton.outlineFields used owner fields)).Nodup
  | [] => by simpa only [outlineFields, Outline.fieldNames_nil, List.append_nil] using distinct
  | (key, skeleton) :: rest => by
      have later := nodup_outlineFields_names
        (nodup_outline_names distinct (Naming.under owner key) skeleton) owner rest
      simpa only [outlineFields, Outline.fieldNames_cons, List.append_assoc] using later

end

theorem Scope.nodup_outline_names (options : Options) (scope : Scope) :
    (scope.outline options).names.Nodup :=
  Skeleton.nodup_outlineFields_names (List.nodup_singleton options.rootName) options.rootName
    (Json.entrySkeletons scope.entries)

end LiveScope
