/- # LiveScope.Proofs.Tree — the definitions of a scope are a tree

The fields of a definition refer to other definitions by name. `IsTree` says that
these references make a tree of a catalog: names are distinct, a reference leads
to one definition and that one comes later (`forward`), every definition but the
root is referred to once (`owned`), and the catalog lists the tree in the order
in which a walk from the root meets it, a definition before what its fields refer
to and these from the first field on (`preorder`).

The catalog of a scope is such a tree, under the root name of the options, with
one definition for each object that inference reaches; it is one because it is
written from an outline (`Catalog.isTree_of_outline`).
-/
import LiveScope.Proofs.Expansion
import Mathlib.Data.List.Basic

namespace LiveScope

set_option autoImplicit false

/-! ### References -/

/-- The names that the fields of a definition refer to, from the first field on. -/
def Definition.references (definition : Definition) : List String :=
  definition.fields.filterMap (·.shape.referenced?)

/-- A walk along references: the definition of a name and then, for each of its
references in order, the walk from there. -/
def Catalog.walk (catalog : Catalog) : Nat → String → List Definition
  | 0, _ => []
  | depth + 1, name =>
      match catalog.get? name with
      | none => []
      | some definition => definition :: definition.references.flatMap (catalog.walk depth)

namespace Inference

/-- All names that a list of definitions refers to. -/
def references (definitions : List Definition) : List String :=
  definitions.flatMap Definition.references

/-- What the field `k` of the definition `i` refers to. -/
def reference? (definitions : List Definition) (i k : Nat) : Option String :=
  (definitions[i]?).bind fun definition => (definition.fields[k]?).bind (·.shape.referenced?)

/-- What a definition refers to comes later in the list. -/
def Forward : List Definition → Prop
  | [] => True
  | definition :: rest => (∀ name ∈ definition.references, name ∈ names rest) ∧ Forward rest

theorem Forward.append {front back : List Definition} (forward : Forward front)
    (backForward : Forward back) : Forward (front ++ back) := by
  induction front with
  | nil => exact backForward
  | cons definition rest ih =>
      obtain ⟨later, restForward⟩ := forward
      refine ⟨fun name member => ?_, ih restForward⟩
      have within : name ∈ names rest ++ names back :=
        List.mem_append_left _ (later name member)
      exact names_append rest back ▸ within

theorem mem_references_of_reference? {definitions : List Definition} {i k : Nat} {name : String}
    (refers : reference? definitions i k = some name) :
    ∃ definition, definitions[i]? = some definition ∧ name ∈ definition.references := by
  simp only [reference?, Option.bind_eq_some_iff] at refers
  obtain ⟨definition, found, field, fieldFound, same⟩ := refers
  exact ⟨definition, found, List.mem_filterMap.2 ⟨field, List.mem_of_getElem? fieldFound, same⟩⟩

theorem exists_reference? {definitions : List Definition} {name : String}
    (member : name ∈ references definitions) : ∃ i k, reference? definitions i k = some name := by
  obtain ⟨definition, inList, refers⟩ := List.mem_flatMap.1 member
  obtain ⟨field, inFields, same⟩ := List.mem_filterMap.1 refers
  obtain ⟨i, found⟩ := List.mem_iff_getElem?.1 inList
  obtain ⟨k, fieldFound⟩ := List.mem_iff_getElem?.1 inFields
  exact ⟨i, k, by simp only [reference?, found, Option.bind_some, fieldFound, same]⟩

/-- Two places of a list hold elements that are not apart only if they are one. -/
theorem index_unique {α : Type} {apart : α → α → Prop} {list : List α} (pairwise : list.Pairwise apart)
    {i j : Nat} {x y : α} (atI : list[i]? = some x) (atJ : list[j]? = some y)
    (clash : ¬ apart x y ∧ ¬ apart y x) : i = j := by
  obtain ⟨iFits, rfl⟩ := List.getElem?_eq_some_iff.1 atI
  obtain ⟨jFits, rfl⟩ := List.getElem?_eq_some_iff.1 atJ
  have ordered := List.pairwise_iff_getElem.1 pairwise
  rcases Nat.lt_trichotomy i j with before | same | behind
  · exact absurd (ordered i j iFits jFits before) clash.1
  · exact same
  · exact absurd (ordered j i jFits iFits behind) clash.2

/-- In a list of distinct references a place is known by what it refers to. -/
theorem reference?_unique {definitions : List Definition}
    (distinct : (references definitions).Nodup) {i j k l : Nat} {name : String}
    (atI : reference? definitions i k = some name) (atJ : reference? definitions j l = some name) :
    i = j ∧ k = l := by
  obtain ⟨rowsDistinct, rowsApart⟩ := List.nodup_flatMap.1 distinct
  have sameRow : i = j := by
    obtain ⟨row, rowAt, inRow⟩ := mem_references_of_reference? atI
    obtain ⟨other, otherAt, inOther⟩ := mem_references_of_reference? atJ
    exact index_unique rowsApart rowAt otherAt
      ⟨fun disjoint => disjoint inRow inOther, fun disjoint => disjoint inOther inRow⟩
  subst sameRow
  refine ⟨rfl, ?_⟩
  simp only [reference?, Option.bind_eq_some_iff] at atI atJ
  obtain ⟨row, rowAt, field, fieldAt, refers⟩ := atI
  obtain ⟨row', rowAt', other, otherAt, otherRefers⟩ := atJ
  obtain rfl : row = row' := Option.some.inj (rowAt.symm.trans rowAt')
  have fieldsApart := List.pairwise_filterMap.1 (rowsDistinct row (List.mem_of_getElem? rowAt))
  exact index_unique fieldsApart fieldAt otherAt
    ⟨fun apart => apart name refers name otherRefers rfl,
      fun apart => apart name otherRefers name refers rfl⟩

/-- In a list that refers forward, what the definition `i` refers to stands behind it. -/
theorem Forward.exists_later {definitions : List Definition} (forward : Forward definitions)
    {i k : Nat} {name : String} (refers : reference? definitions i k = some name) :
    ∃ j, i < j ∧ (names definitions)[j]? = some name := by
  induction definitions generalizing i with
  | nil => simp [reference?] at refers
  | cons definition rest ih =>
      obtain ⟨later, restForward⟩ := forward
      cases i with
      | zero =>
          obtain ⟨found, same, member⟩ := mem_references_of_reference? refers
          simp only [List.getElem?_cons_zero, Option.some.injEq] at same
          obtain ⟨j, atJ⟩ := List.mem_iff_getElem?.1 (later name (same ▸ member))
          exact ⟨j + 1, Nat.succ_pos j, atJ⟩
      | succ i =>
          obtain ⟨j, lower, atJ⟩ := ih restForward (i := i) (by simpa [reference?] using refers)
          exact ⟨j + 1, Nat.succ_lt_succ lower, atJ⟩

end Inference

/-! ### Outlines -/

namespace Outline

/-- What the fields of a record refer to. -/
def fieldReferences (fields : List (String × Outline)) : List String :=
  (fieldShapes fields).filterMap (·.shape.referenced?)

theorem fieldReferences_cons (key : String) (outline : Outline) (rest : List (String × Outline)) :
    fieldReferences ((key, outline) :: rest) =
      outline.shape.referenced?.toList ++ fieldReferences rest := by
  simp only [fieldReferences, fieldShapes, List.map_cons, List.filterMap_cons]
  cases outline.shape.referenced? <;> rfl

/-- A reference to an outline is to the first of its definitions. -/
theorem referenced?_shape : ∀ outline : Outline, outline.shape.referenced? = outline.names.head?
  | .any | .string | .number | .boolean => rfl
  | .array element => referenced?_shape element
  | .record _ _ => rfl

theorem mem_names_of_referenced? {outline : Outline} {name : String}
    (refers : name ∈ outline.shape.referenced?.toList) : name ∈ outline.names := by
  rw [referenced?_shape, Option.mem_toList] at refers
  exact List.mem_of_head? refers

theorem mem_fieldNames_of_fieldReferences :
    ∀ {fields : List (String × Outline)} {name : String}, name ∈ fieldReferences fields →
      name ∈ fieldNames fields
  | [], name, refers => by cases refers
  | (key, outline) :: rest, name, refers => by
      rw [fieldReferences_cons] at refers
      rw [fieldNames_cons]
      rcases List.mem_append.1 refers with here | later
      · exact List.mem_append_left _ (mem_names_of_referenced? here)
      · exact List.mem_append_right _ (mem_fieldNames_of_fieldReferences later)

mutual

theorem forward_definitions : ∀ outline : Outline, Inference.Forward outline.definitions
  | .any | .string | .number | .boolean => trivial
  | .array element => forward_definitions element
  | .record _ fields =>
      ⟨fun _ refers => mem_fieldNames_of_fieldReferences refers, forward_fieldDefinitions fields⟩

theorem forward_fieldDefinitions :
    ∀ fields : List (String × Outline), Inference.Forward (fieldDefinitions fields)
  | [] => trivial
  | (_, outline) :: rest => (forward_definitions outline).append (forward_fieldDefinitions rest)

end

mutual

/-- Every definition of an outline is referred to once: the first one from
outside, the others from inside. -/
theorem references_perm_names : ∀ outline : Outline,
    (outline.shape.referenced?.toList ++ Inference.references outline.definitions).Perm
      outline.names
  | .any | .string | .number | .boolean => .refl _
  | .array element => references_perm_names element
  | .record name fields => (fieldReferences_perm_fieldNames fields).cons name

theorem fieldReferences_perm_fieldNames : ∀ fields : List (String × Outline),
    (fieldReferences fields ++ Inference.references (fieldDefinitions fields)).Perm
      (fieldNames fields)
  | [] => .refl _
  | (key, outline) :: rest => by
      have here := references_perm_names outline
      have later := fieldReferences_perm_fieldNames rest
      have split : Inference.references (fieldDefinitions ((key, outline) :: rest)) =
          Inference.references outline.definitions ++
            Inference.references (fieldDefinitions rest) := List.flatMap_append
      rw [fieldReferences_cons, fieldNames_cons, split]
      refine List.Perm.trans ?_ (here.append later)
      rw [List.perm_iff_count]
      intro name
      simp only [List.count_append]
      omega

end

mutual

/-- Where the definitions of an outline are found, a walk from it lists them. -/
theorem walk_referenced? {catalog : Catalog}
    (distinct : (Inference.names catalog.definitions).Nodup) :
    ∀ (outline : Outline) (depth : Nat), outline.definitions ⊆ catalog.definitions →
      outline.definitions.length ≤ depth →
      outline.shape.referenced?.toList.flatMap (catalog.walk depth) = outline.definitions
  | .any, _, _, _ | .string, _, _, _ | .number, _, _, _ | .boolean, _, _, _ => rfl
  | .array element, depth, found, deep => walk_referenced? distinct element depth found deep
  | .record name fields, depth, found, deep => by
      simp only [definitions, List.cons_subset] at found
      simp only [definitions, List.length_cons] at deep
      obtain ⟨here, below⟩ := found
      cases depth with
      | zero => omega
      | succ depth =>
          have known : catalog.get? name = some ⟨name, fieldShapes fields⟩ :=
            Catalog.get?_of_mem distinct here
          have inside := walk_fieldReferences distinct fields depth below (Nat.le_of_succ_le_succ deep)
          simp only [shape, Shape.referenced?, Option.toList_some, List.flatMap_singleton,
            Catalog.walk, known, definitions]
          exact congrArg _ inside

theorem walk_fieldReferences {catalog : Catalog}
    (distinct : (Inference.names catalog.definitions).Nodup) :
    ∀ (fields : List (String × Outline)) (depth : Nat),
      fieldDefinitions fields ⊆ catalog.definitions → (fieldDefinitions fields).length ≤ depth →
      (fieldReferences fields).flatMap (catalog.walk depth) = fieldDefinitions fields
  | [], _, _, _ => rfl
  | (key, outline) :: rest, depth, found, deep => by
      simp only [fieldDefinitions, List.append_subset] at found
      simp only [fieldDefinitions, List.length_append] at deep
      have here := walk_referenced? distinct outline depth found.1 (by omega)
      have later := walk_fieldReferences distinct rest depth found.2 (by omega)
      rw [fieldReferences_cons, List.flatMap_append, here, later, fieldDefinitions]

end

end Outline

namespace Skeleton

mutual

/-- An outline has one definition for each object that inference reaches. -/
theorem length_outline_definitions (used : List String) (path : String) :
    ∀ json : Json, (json.skeleton.outline used path).definitions.length = json.objectCount
  | .null | .boolean _ | .number _ | .string _ => rfl
  | .array items => length_elementOutline_definitions used path items
  | .object entries => by
      have below := length_entryOutlines_definitions (used ++ [Naming.fresh used path])
        (Naming.fresh used path) entries
      rw [Json.skeleton, outline, Outline.definitions, List.length_cons, below, Json.objectCount,
        Nat.add_comm]

theorem length_elementOutline_definitions (used : List String) (path : String) :
    ∀ items : List Json, ((Json.elementSkeleton items).outline used path).definitions.length =
      Json.elementObjectCount items
  | [] => rfl
  | first :: _ => length_outline_definitions used path first

theorem length_entryOutlines_definitions (used : List String) (owner : String) :
    ∀ entries : List (String × Json),
      (Outline.fieldDefinitions (outlineFields used owner (Json.entrySkeletons entries))).length =
        Json.entryObjectCount entries
  | [] => rfl
  | (key, value) :: rest => by
      have here := length_outline_definitions used (Naming.under owner key) value
      have later := length_entryOutlines_definitions
        (used ++ (value.skeleton.outline used (Naming.under owner key)).names) owner rest
      rw [Json.entrySkeletons, outlineFields, Outline.fieldDefinitions, List.length_append, here,
        later, Json.entryObjectCount]

end

end Skeleton

/-! ### Trees -/

/-- The references of a catalog make a tree, and the catalog lists it from the
root down. -/
structure Catalog.IsTree (catalog : Catalog) : Prop where
  distinct : (Inference.names catalog.definitions).Nodup
  forward : ∀ i k name, Inference.reference? catalog.definitions i k = some name →
    ∃ j, i < j ∧ ∀ m, (Inference.names catalog.definitions)[m]? = some name ↔ m = j
  owned : ∀ j name, 0 < j → (Inference.names catalog.definitions)[j]? = some name →
    ∃! place : Nat × Nat,
      Inference.reference? catalog.definitions place.1 place.2 = some name
  preorder : ∀ more, catalog.walk (catalog.length + more) catalog.root.name = catalog.definitions

/-- The catalog of an outline with distinct names is a tree. -/
theorem Catalog.isTree_of_outline {catalog : Catalog} {name : String}
    {fields : List (String × Outline)}
    (written : catalog.definitions = (Outline.record name fields).definitions)
    (distinct : (Outline.record name fields).names.Nodup) : catalog.IsTree := by
  have namesEq : Inference.names catalog.definitions = (Outline.record name fields).names :=
    congrArg Inference.names written
  have rootName : catalog.root.name = name :=
    congrArg Definition.name (List.cons.inj written).1
  -- the references are the names below the root, in another order
  have perm : (Inference.references catalog.definitions).Perm (Outline.fieldNames fields) := by
    rw [written]
    exact Outline.fieldReferences_perm_fieldNames fields
  have belowDistinct := (List.nodup_cons.1 distinct).2
  refine ⟨namesEq ▸ distinct, ?_, ?_, ?_⟩
  · intro i k referenced refers
    have forward : Inference.Forward catalog.definitions :=
      written ▸ Outline.forward_definitions (.record name fields)
    obtain ⟨j, later, atJ⟩ := forward.exists_later refers
    refine ⟨j, later, fun m => ⟨fun atM => ?_, fun same => same ▸ atJ⟩⟩
    exact Inference.index_unique (namesEq ▸ distinct) atM atJ
      ⟨fun apart => apart rfl, fun apart => apart rfl⟩
  · intro j referenced positive atJ
    have below : referenced ∈ Outline.fieldNames fields := by
      cases j with
      | zero => omega
      | succ j =>
          rw [namesEq, Outline.names_record, List.getElem?_cons_succ] at atJ
          exact List.mem_of_getElem? atJ
    obtain ⟨i, k, refers⟩ := Inference.exists_reference? (perm.symm.subset below)
    refine ⟨(i, k), refers, fun other otherRefers => ?_⟩
    obtain ⟨sameRow, sameColumn⟩ :=
      Inference.reference?_unique (perm.nodup_iff.2 belowDistinct) otherRefers refers
    exact Prod.ext sameRow sameColumn
  · intro more
    have walked := Outline.walk_referenced? (namesEq ▸ distinct) (.record name fields)
      (catalog.length + more) (fun _ member => written ▸ member)
      (by rw [← written, length]; omega)
    rw [rootName, written, ← walked]
    exact (List.append_nil _).symm

/-- **The definitions of a scope are a tree**, rooted at the name of the options
and listed from the root down, one definition for each object. -/
theorem Catalog.isTree_ofScope (options : Options) (scope : Scope) :
    (Inference.names (ofScope options scope).definitions)[0]? = some options.rootName ∧
      (ofScope options scope).IsTree ∧
      (ofScope options scope).length = 1 + scope.objectCount := by
  have written := definitions_ofScope options scope
  refine ⟨?_, isTree_of_outline written (scope.nodup_outline_names options), ?_⟩
  · rw [written]
    rfl
  · have below := Skeleton.length_entryOutlines_definitions [options.rootName] options.rootName
      scope.entries
    rw [length, written, Scope.outline, Outline.definitions, List.length_cons, Scope.outlines,
      below, Scope.objectCount, Nat.add_comm]

/-- Three keys that want one name. -/
example : Inference.names (Catalog.ofScope {} ⟨[("a b", .object []), ("a-b", .object []),
    ("a_b_2", .array [.object [], .null])]⟩).definitions =
      ["RootObject", "RootObject_a_b", "RootObject_a_b_2", "RootObject_a_b_2_2"] := by decide

end LiveScope
