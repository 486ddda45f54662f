/- # LiveScope.Proofs.RoundTrip — definitions are read back

The JSON of definitions holds texts, arrays and objects of one or two keys, so it fits
whatever names are in it, as long as its shapes are not nested too deeply
(`Definition.fits_listToJson`): a shape opens one level more than there are arrays in it,
and four levels stand around it. Decoding undoes encoding, type by type
(`ofJson?_toJson`). So definitions come back from the text they are exchanged in, the
compact one and the indented one (`Definition.readBack`).
-/
import LiveScope.Proofs.Declaration.Reading
import LiveScope.Proofs.Layout
import LiveScope.Shape.Codec

namespace LiveScope

set_option autoImplicit false

open Json (Fits)

namespace Json.Fits

variable {depth : Nat} {value other : Json}

theorem single (key : String) (fits : Fits depth value) :
    Fits (depth + 1) (.object [(key, value)]) := by
  refine .object (List.pairwise_singleton _ key) fun entry member => ?_
  rw [List.mem_singleton.1 member]
  exact fits

theorem pair {key next : String} (differ : key ≠ next) (fits : Fits depth value)
    (nextFits : Fits depth other) : Fits (depth + 1) (.object [(key, value), (next, other)]) := by
  refine .object (by simp [differ]) fun entry member => ?_
  rcases List.mem_cons.1 member with rfl | later
  · exact fits
  · rw [List.mem_singleton.1 later]
    exact nextFits

end Json.Fits

/-! ### Shapes -/

namespace Shape

/-- The number of arrays around the shape that is no array. -/
def arrays : Shape → Nat
  | .array element => element.arrays + 1
  | .any | .string | .number | .boolean | .reference _ => 0

theorem fits_toJson {shape : Shape} {depth : Nat} (shallow : shape.arrays ≤ depth) :
    Fits (depth + 1) shape.toJson := by
  induction shape generalizing depth with
  | any => exact Fits.single _ (.string _)
  | string => exact Fits.single _ (.string _)
  | number => exact Fits.single _ (.string _)
  | boolean => exact Fits.single _ (.string _)
  | array element ih =>
      obtain ⟨inside, rfl⟩ : ∃ inside, depth = inside + 1 :=
        Nat.exists_eq_add_one_of_ne_zero (by rintro rfl; cases shallow)
      have elementFits := ih (Nat.le_of_succ_le_succ shallow)
      exact Fits.pair (by decide) (.string _) elementFits
  | reference name => exact Fits.pair (by decide) (.string _) (.string name)

theorem ofJson?_toJson (shape : Shape) : ofJson? shape.toJson = some shape := by
  induction shape with
  | any => rfl
  | string => rfl
  | number => rfl
  | boolean => rfl
  | array element ih =>
      have inside : elementOf? [("kind", .string "array"), ("of", element.toJson)] =
          some element := by
        rw [elementOf?, if_neg (by decide), elementOf?, if_pos rfl, ih]
      rw [toJson, ofJson?, inside]
      rfl
  | reference name => rfl

end Shape

/-! ### Fields and definitions -/

namespace Field

theorem fits_toJson {field : Field} {depth : Nat} (shallow : field.shape.arrays ≤ depth) :
    Fits (depth + 2) field.toJson :=
  Fits.pair (by decide) (.string field.name) (Shape.fits_toJson shallow)

theorem ofJson?_toJson (field : Field) : ofJson? field.toJson = some field := by
  show (Shape.ofJson? field.shape.toJson).map (Field.mk field.name) = some field
  rw [Shape.ofJson?_toJson]
  rfl

end Field

namespace Definition

/-- Definitions as they are exchanged; those of a catalog begin with its root. -/
def listToJson (definitions : List Definition) : Json := .array (definitions.map toJson)

theorem fits_toJson {definition : Definition} {depth : Nat}
    (shallow : ∀ field ∈ definition.fields, field.shape.arrays ≤ depth) :
    Fits (depth + 4) definition.toJson := by
  refine Fits.pair (by decide) (.string definition.name) (.array fun json member => ?_)
  obtain ⟨field, inFields, rfl⟩ := List.mem_map.1 member
  exact Field.fits_toJson (shallow field inFields)

theorem fits_listToJson {definitions : List Definition} {depth : Nat}
    (shallow : ∀ definition ∈ definitions, ∀ field ∈ definition.fields,
      field.shape.arrays ≤ depth) : Fits (depth + 5) (listToJson definitions) := by
  refine .array fun json member => ?_
  obtain ⟨definition, known, rfl⟩ := List.mem_map.1 member
  exact fits_toJson (shallow definition known)

theorem ofJson?_toJson (definition : Definition) : ofJson? definition.toJson = some definition := by
  have fields : (definition.fields.map Field.toJson).mapM Field.ofJson? = some definition.fields :=
    Reading.mapM_map_of_reads _ _ fun field _ => field.ofJson?_toJson
  show ((definition.fields.map Field.toJson).mapM Field.ofJson?).map
    (Definition.mk definition.name) = some definition
  rw [fields]
  rfl

theorem listOfJson?_listToJson (definitions : List Definition) :
    listOfJson? (listToJson definitions) = some definitions :=
  Reading.mapM_map_of_reads _ _ fun definition _ => definition.ofJson?_toJson

/-- **Definitions are read back.** Whatever the names of definitions, fields and references
are, if no shape has more than 122 arrays around each other, both the compact text of the
definitions and the indented one, with or without a line break at its end, are read as JSON
that stands for the same definitions: all of them in order, with the same fields in order
and the same shapes. A catalog is exchanged as its definitions, and comes back as itself. -/
theorem readBack (definitions : List Definition)
    (shallow : ∀ definition ∈ definitions, ∀ field ∈ definition.fields,
      field.shape.arrays ≤ 122) :
    let written := listToJson definitions
    ∀ text ∈ [written.compact, written.pretty, written.pretty ++ "\n"],
      ∃ json, Json.parse text = .ok json ∧ listOfJson? json = some definitions ∧
        ∀ catalog : Catalog, catalog.definitions = definitions →
          catalog.toJson = written ∧ Catalog.ofJson? json = some catalog := by
  intro written text member
  have fits : Fits Json.Reader.depthLimit written := fits_listToJson shallow
  refine ⟨written, ?_, listOfJson?_listToJson definitions, ?_⟩
  · simp only [List.mem_cons, List.not_mem_nil, or_false] at member
    rcases member with rfl | rfl | rfl
    · exact fits.parse_compact
    · exact fits.parse_pretty
    · refine Json.parse_of_reads (fits.reads_pretty 0) "\n" fun c lineBreak => ?_
      rw [List.mem_singleton.1 lineBreak]
      decide
  · rintro catalog rfl
    refine ⟨rfl, ?_⟩
    rw [Catalog.ofJson?, listOfJson?_listToJson, Option.bind_some,
      Catalog.ofDefinitions?_definitions]

/-- Texts that have to be escaped, as many arrays as can be read, and no fields at all. -/
def awkward : List Definition :=
  [⟨"\"\\\n", [⟨"\x00é", Nat.repeat .array 122 (.reference "\x1F")⟩, ⟨"", .any⟩]⟩, ⟨"", []⟩]

theorem readBack_awkward :
    (∀ definition ∈ awkward, ∀ field ∈ definition.fields, field.shape.arrays ≤ 122) ∧
    ∃ json, Json.parse (listToJson awkward).pretty = .ok json ∧
      listOfJson? json = some awkward := by
  have shallow : ∀ definition ∈ awkward, ∀ field ∈ definition.fields,
      field.shape.arrays ≤ 122 := by decide +kernel
  obtain ⟨json, parsed, read, -⟩ :=
    readBack awkward shallow _ (List.mem_cons_of_mem _ List.mem_cons_self)
  exact ⟨shallow, json, parsed, read⟩

end Definition

end LiveScope
