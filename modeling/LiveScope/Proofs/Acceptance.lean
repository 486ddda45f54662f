/- # LiveScope.Proofs.Acceptance — the definitions of a scope accept it

`Catalog.accepts` says which values a shape admits: `any` admits all, the primitive
shapes the values of their kind, an array shape the arrays all of whose items its
element admits (`accepts_array_iff`), and a name the objects that have, for each field
of the definition of that name, a value which the field admits (`accepts_name_iff`).

Inference looks at the first item of an array only. A value is `Uniform` if nothing is
missed that way, since all items of an array have the skeleton of the first, in every
array at any depth. What a shape admits depends on skeletons alone: where the
definitions of an outline are found, its shape accepts every uniform value with the
skeleton of the outline (`Outline.accepts_of_skeleton`), be it the sample or an item
that was never looked at. So the catalog of a uniform scope accepts the scope.
-/
import LiveScope.Proofs.Expansion
import LiveScope.Proofs.Keys

namespace LiveScope

set_option autoImplicit false

/-! ### Acceptance -/

namespace Catalog

mutual

/-- Does a shape admit a value? -/
def accepts (catalog : Catalog) : Shape → Json → Bool
  | .any, _ => true
  | .string, .string _ => true
  | .number, .number _ => true
  | .boolean, .boolean _ => true
  | .array element, .array items => acceptsItems catalog element items
  | .reference name, .object entries =>
      match catalog.get? name with
      | some definition =>
          definition.fields.all fun field => acceptsEntry catalog field entries
      | none => false
  | _, _ => false

def acceptsItems (catalog : Catalog) (element : Shape) : List Json → Bool
  | [] => true
  | item :: rest => accepts catalog element item && acceptsItems catalog element rest

/-- Does a field admit what an object has under its name? -/
def acceptsEntry (catalog : Catalog) (field : Field) : List (String × Json) → Bool
  | [] => false
  | (key, value) :: rest =>
      if field.name == key then accepts catalog field.shape value
      else acceptsEntry catalog field rest

end

variable {catalog : Catalog}

theorem accepts_array_iff {element : Shape} {items : List Json} :
    catalog.accepts (.array element) (.array items) = true ↔
      ∀ item ∈ items, catalog.accepts element item = true := by
  rw [accepts]
  induction items with
  | nil => simp [acceptsItems]
  | cons item rest ih => simp only [acceptsItems, Bool.and_eq_true, ih, List.forall_mem_cons]

theorem acceptsEntry_iff {field : Field} {entries : List (String × Json)} :
    catalog.acceptsEntry field entries = true ↔
      ∃ value, entries.lookup field.name = some value ∧
        catalog.accepts field.shape value = true := by
  induction entries with
  | nil => simp [acceptsEntry]
  | cons entry rest ih =>
      obtain ⟨key, value⟩ := entry
      rw [acceptsEntry, List.lookup_cons]
      cases field.name == key with
      | true => simp
      | false => simpa using ih

theorem accepts_name_iff {name : String} {entries : List (String × Json)} :
    catalog.accepts (.reference name) (.object entries) = true ↔
      ∃ definition, catalog.get? name = some definition ∧
        ∀ field ∈ definition.fields, ∃ value, entries.lookup field.name = some value ∧
          catalog.accepts field.shape value = true := by
  rw [accepts]
  cases catalog.get? name with
  | none => simp
  | some definition => simp [acceptsEntry_iff]

end Catalog

/-! ### Uniform values -/

namespace Json

/-- The items of every array have one skeleton, that of the first item. -/
inductive Uniform : Json → Prop
  | null : Uniform .null
  | boolean (value : Bool) : Uniform (.boolean value)
  | number (value : Number) : Uniform (.number value)
  | string (text : String) : Uniform (.string text)
  | array {items : List Json} (alike : ∀ item ∈ items, item.skeleton = elementSkeleton items)
      (inside : ∀ item ∈ items, Uniform item) : Uniform (.array items)
  | object {entries : List (String × Json)} (inside : ∀ entry ∈ entries, Uniform entry.2) :
      Uniform (.object entries)

theorem lookup_of_mem {entries : List (String × Json)}
    (distinct : (entries.map Prod.fst).Nodup) {key : String} {value : Json}
    (member : (key, value) ∈ entries) : entries.lookup key = some value := by
  obtain ⟨before, behind, rfl⟩ := List.append_of_mem member
  refine List.lookup_eq_some_iff.2 ⟨before, behind, rfl, fun entry earlier => ?_⟩
  rw [List.map_append, List.nodup_append] at distinct
  obtain ⟨-, -, apart⟩ := distinct
  have differs : entry.1 ≠ key := apart _ (List.mem_map_of_mem earlier) _ List.mem_cons_self
  exact bne_iff_ne.2 (Ne.symm differs)

end Json

/-! ### Outlines accept what has their skeleton -/

namespace Outline

theorem definitions_subset_of_mem {field : String × Outline} {fields : List (String × Outline)}
    (member : field ∈ fields) : field.2.definitions ⊆ fieldDefinitions fields := by
  induction fields with
  | nil => cases member
  | cons first rest ih =>
      rcases List.mem_cons.1 member with rfl | later
      · exact List.subset_append_left _ _
      · exact List.Subset.trans (ih later) (List.subset_append_right _ _)

/-- The fields of a record lie over the entries of an object with its skeleton. -/
theorem exists_entry_of_mem {fields : List (String × Outline)} {entries : List (String × Json)}
    (same : fieldSkeletons fields = Json.entrySkeletons entries) {field : String × Outline}
    (member : field ∈ fields) :
    ∃ value, (field.1, value) ∈ entries ∧ field.2.skeleton = value.skeleton := by
  induction fields generalizing entries with
  | nil => cases member
  | cons first rest ih =>
      cases entries with
      | nil => cases same
      | cons entry entries =>
          obtain ⟨key, value⟩ := entry
          obtain ⟨sameFirst, sameRest⟩ := List.cons.inj same
          obtain ⟨sameKey, sameSkeleton⟩ := Prod.mk.inj sameFirst
          rcases List.mem_cons.1 member with rfl | later
          · exact ⟨value, sameKey ▸ List.mem_cons_self, sameSkeleton⟩
          · obtain ⟨found, inEntries, alike⟩ := ih sameRest later
            exact ⟨found, List.mem_cons_of_mem _ inEntries, alike⟩

/-- Where the definitions of an outline are found, its shape accepts whatever has its
skeleton, if that is uniform. -/
theorem accepts_of_skeleton {catalog : Catalog}
    (distinct : (Inference.names catalog.definitions).Nodup) {json : Json}
    (uniform : json.Uniform) (keys : json.DistinctKeys) {outline : Outline}
    (found : outline.definitions ⊆ catalog.definitions)
    (same : outline.skeleton = json.skeleton) :
    catalog.accepts outline.shape json = true := by
  -- over the value: the same outline is met by every item of an array
  induction uniform generalizing outline with
  | null => cases outline with
    | any => rfl
    | _ => cases same
  | boolean value => cases outline with
    | boolean => rfl
    | _ => cases same
  | number value => cases outline with
    | number => rfl
    | _ => cases same
  | string text => cases outline with
    | string => rfl
    | _ => cases same
  | array alike inside ih => cases outline with
    | array element =>
        have sample := Skeleton.array.inj same
        refine Catalog.accepts_array_iff.2 fun item member => ?_
        cases keys with
        | array keysInside =>
            exact ih item member (keysInside item member) found
              (sample.trans (alike item member).symm)
    | _ => cases same
  | @object entries inside ih => cases outline with
    | record name fields =>
        obtain ⟨here, below⟩ := List.cons_subset.1 found
        refine Catalog.accepts_name_iff.2 ⟨_, Catalog.get?_of_mem distinct here, ?_⟩
        intro shown member
        obtain ⟨field, inFields, rfl⟩ := List.mem_map.1 member
        obtain ⟨value, inEntries, alike⟩ :=
          exists_entry_of_mem (Skeleton.record.inj same) inFields
        cases keys with
        | object keysDistinct keysInside =>
            exact ⟨value, Json.lookup_of_mem keysDistinct inEntries,
              ih _ inEntries (keysInside _ inEntries)
                (List.Subset.trans (definitions_subset_of_mem inFields) below) alike⟩
    | _ => cases same

end Outline

/-! ### Scopes -/

namespace Catalog

/-- **The root of a scope's catalog accepts the scope**, whatever its keys are, if the
items of each of its arrays have one skeleton. In no object has a scope one key twice, if
it was read (`Scope.distinctKeys_parse`). -/
theorem accepts_ofScope (options : Options) {scope : Scope}
    (keys : Json.DistinctKeys (.object scope.entries))
    (uniform : Json.Uniform (.object scope.entries)) :
    (ofScope options scope).accepts (.reference (ofScope options scope).root.name)
      (.object scope.entries) = true := by
  have written := definitions_ofScope options scope
  have distinct : (Inference.names (ofScope options scope).definitions).Nodup := by
    rw [written]
    exact scope.nodup_outline_names options
  have found : (scope.outline options).definitions ⊆ (ofScope options scope).definitions := by
    rw [written]
    exact List.Subset.refl _
  exact Outline.accepts_of_skeleton distinct uniform keys found (scope.skeleton_outline options)

/-- A row with a name and tags. -/
def row (name : String) (tags : List Json) : Json :=
  .object [("name", .string name), ("tags", .array tags)]

/-- Rows of one kind, in which only the second one has a tag. -/
def alikeRows : Scope := ⟨[("rows", .array [row "one" [], row "two" [.null]]), ("note", .null)]⟩

theorem accepts_alikeRows :
    Json.DistinctKeys (.object alikeRows.entries) ∧ Json.Uniform (.object alikeRows.entries) ∧
      (ofScope {} alikeRows).accepts (.reference "RootObject") (.object alikeRows.entries) =
        true := by
  have rowKeys (name : String) {tags : List Json} (inside : ∀ tag ∈ tags, tag.DistinctKeys) :
      (row name tags).DistinctKeys :=
    .object (by simp) (by simpa using ⟨.string name, .array inside⟩)
  have keys : Json.DistinctKeys (.object alikeRows.entries) := by
    have rows : Json.DistinctKeys (.array [row "one" [], row "two" [.null]]) :=
      .array (by simpa using ⟨rowKeys "one" (by simp), rowKeys "two" (by simpa using .null)⟩)
    exact .object (by decide) (by simpa [alikeRows] using ⟨rows, .null⟩)
  have rowUniform (name : String) {tags : List Json} (inside : Json.Uniform (.array tags)) :
      (row name tags).Uniform :=
    .object (by simpa using ⟨.string name, inside⟩)
  have uniform : Json.Uniform (.object alikeRows.entries) := by
    have rows : Json.Uniform (.array [row "one" [], row "two" [.null]]) := by
      refine .array ?_ ?_
      · intro item member
        -- an empty array has the skeleton of an array of nulls
        rcases List.mem_pair.1 member with rfl | rfl <;> rfl
      · simpa using ⟨rowUniform "one" (.array (by simp) (by simp)),
          rowUniform "two" (.array (by simp [Json.elementSkeleton]) (by simpa using .null))⟩
    exact .object (by simpa [alikeRows] using ⟨rows, .null⟩)
  exact ⟨keys, uniform, accepts_ofScope {} keys uniform⟩

/-- An item that is unlike the first is not accepted. -/
example : let scope : Scope := ⟨[("mixed", .array [.string "one", .boolean true])]⟩
    (ofScope {} scope).accepts (.reference "RootObject") (.object scope.entries) = false := by
  decide

end Catalog

end LiveScope
