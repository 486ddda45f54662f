/- # LiveScope.Proofs.Declaration.Legible — chosen names are legible

Every name that inference chooses continues the name of the root by an underscore
and characters of a word (`Naming.Continues`): so does the path of a field, and so
does a numbered candidate. If the root's name is an identifier such a name is one
too, and it is never the word of a primitive shape, since none has an underscore.
All names and references of a scope's catalog are therefore legible
(`Catalog.isLegible_ofScope`), whatever the keys are.
-/
import LiveScope.Proofs.Declaration.Lines
import LiveScope.Proofs.Tree

namespace LiveScope

set_option autoImplicit false

namespace Naming

/-! ### Names that continue a name -/

/-- `name` is `owner` followed by an underscore and characters of a word. -/
def Continues (owner name : String) : Prop :=
  ∃ suffix, name = owner ++ "_" ++ suffix ∧ ∀ c ∈ suffix.toList, isWordChar c = true

theorem wordChars_fragment (key : String) : ∀ c ∈ (fragment key).toList, isWordChar c = true := by
  unfold fragment
  split
  · intro c member
    rw [List.mem_singleton.1 member]
    decide
  · intro c member
    rw [String.toList_ofList] at member
    obtain ⟨d, -, rfl⟩ := List.mem_map.1 member
    split
    · assumption
    · decide

theorem wordChars_toString (n : Nat) : ∀ c ∈ (toString n).toList, isWordChar c = true := by
  intro c member
  rw [Nat.toString_eq_repr, Nat.toList_repr] at member
  have digit := Nat.isDigit_of_mem_toDigits (by decide) (by decide) member
  simp only [isWordChar, Char.isAlphanum, digit, Bool.or_true, Bool.true_or]

theorem continues_under (owner key : String) : Continues owner (under owner key) :=
  ⟨fragment key, rfl, wordChars_fragment key⟩

namespace Continues

variable {root owner name : String}

/-- A name that goes on goes on from the same root. -/
theorem append (continues : Continues root name) {more : String}
    (wordChars : ∀ c ∈ more.toList, isWordChar c = true) :
    Continues root (name ++ "_" ++ more) := by
  obtain ⟨suffix, rfl, suffixWord⟩ := continues
  refine ⟨suffix ++ "_" ++ more, by simp only [String.append_assoc], ?_⟩
  intro c member
  simp only [String.toList_append, List.mem_append] at member
  rcases member with (inSuffix | underscore) | inMore
  · exact suffixWord c inSuffix
  · rw [List.mem_singleton.1 underscore]
    decide
  · exact wordChars c inMore

theorem under (continues : Continues root owner) (key : String) :
    Continues root (Naming.under owner key) :=
  continues.append (wordChars_fragment key)

theorem fresh {base : String} (continues : Continues root base) (used : List String) :
    Continues root (Naming.fresh used base) := by
  rcases fresh_spec used base with ⟨-, same⟩ | ⟨-, n, -, same, -, -⟩
  · rwa [same]
  · rw [same]
    exact continues.append (wordChars_toString n)

theorem underscore_mem (continues : Continues owner name) : '_' ∈ name.toList := by
  obtain ⟨suffix, rfl, -⟩ := continues
  simp

theorem isIdentifier (continues : Continues owner name)
    (identifier : Declaration.isIdentifier owner = true) :
    Declaration.isIdentifier name = true := by
  obtain ⟨suffix, rfl, suffixWord⟩ := continues
  unfold Declaration.isIdentifier at identifier ⊢
  cases chars : owner.toList with
  | nil => simp [chars, Declaration.isIdentifierChars] at identifier
  | cons first rest =>
      simp only [chars, Declaration.isIdentifierChars, Bool.and_eq_true, List.all_eq_true]
        at identifier
      obtain ⟨start, restWord⟩ := identifier
      have underscore : isWordChar '_' = true := by decide
      simp only [String.toList_append, chars, List.cons_append, List.append_assoc,
        Declaration.isIdentifierChars, start, Bool.true_and, List.all_append, Bool.and_eq_true,
        List.all_eq_true]
      exact ⟨restWord, fun c single => List.mem_singleton.1 single ▸ underscore, suffixWord⟩

theorem not_primitive (continues : Continues owner name) : primitiveWords.contains name = false := by
  have plain : ∀ word ∈ primitiveWords, '_' ∉ word.toList := by decide
  rw [List.contains_eq_mem, decide_eq_false_iff_not]
  exact fun member => plain name member continues.underscore_mem

end Continues

end Naming

/-! ### Names of outlines -/

mutual

/-- The names below a path that continues the root do so too. -/
theorem Skeleton.continues_outline {root path : String} (below : Naming.Continues root path)
    (used : List String) : ∀ skeleton : Skeleton,
      ∀ name ∈ (skeleton.outline used path).names, Naming.Continues root name
  | .any | .string | .number | .boolean => fun _ member => by cases member
  | .array element => continues_outline below used element
  | .record fields => by
      have chosen := below.fresh used
      intro name member
      rcases List.mem_cons.1 member with rfl | inside
      · exact chosen
      · exact continues_outlineFields chosen.under _ fields name inside

theorem Skeleton.continues_outlineFields {root owner : String}
    (below : ∀ key, Naming.Continues root (Naming.under owner key)) (used : List String) :
    ∀ fields : List (String × Skeleton),
      ∀ name ∈ Outline.fieldNames (outlineFields used owner fields), Naming.Continues root name
  | [] => fun _ member => by cases member
  | (key, skeleton) :: rest => by
      intro name member
      rw [outlineFields, Outline.fieldNames_cons] at member
      rcases List.mem_append.1 member with here | later
      · exact continues_outline (below key) used skeleton name here
      · exact continues_outlineFields below _ rest name later

end

theorem Scope.continues_of_mem_fieldNames (options : Options) (scope : Scope) {name : String}
    (member : name ∈ Outline.fieldNames (scope.outlines options)) :
    Naming.Continues options.rootName name :=
  Skeleton.continues_outlineFields (Naming.continues_under _) _ _ name member

namespace Catalog

variable (options : Options) (scope : Scope)

/-- A definition of a scope is the root or bears a name that continues the root's. -/
theorem name_of_mem_ofScope {definition : Definition}
    (member : definition ∈ (ofScope options scope).definitions) :
    definition.name = options.rootName ∨ Naming.Continues options.rootName definition.name := by
  rw [definitions_ofScope] at member
  rcases List.mem_cons.1 member with rfl | inside
  · exact .inl rfl
  · exact .inr (scope.continues_of_mem_fieldNames options (List.mem_map_of_mem inside))

/-- What a definition of a scope refers to bears a name that continues the root's. -/
theorem continues_of_mem_references {definition : Definition}
    (member : definition ∈ (ofScope options scope).definitions) {name : String}
    (refers : name ∈ definition.references) : Naming.Continues options.rootName name := by
  refine scope.continues_of_mem_fieldNames options ?_
  -- all references together are the names below the root
  refine (Outline.fieldReferences_perm_fieldNames (scope.outlines options)).subset ?_
  rw [definitions_ofScope] at member
  exact List.mem_flatMap.2 ⟨definition, member, refers⟩

theorem isLegible_ofScope (identifier : Declaration.isIdentifier options.rootName = true) :
    (ofScope options scope).isLegible = true := by
  simp only [isLegible, Definition.isLegible, List.all_eq_true, Bool.and_eq_true]
  intro definition member
  constructor
  · rcases name_of_mem_ofScope options scope member with root | below
    · rwa [root]
    · exact below.isIdentifier identifier
  · intro field inFields
    cases refers : field.shape.referenced? with
    | none => rw [Shape.isLegible, refers, Option.all_none]
    | some name =>
        have below := continues_of_mem_references options scope member
          (List.mem_filterMap.2 ⟨field, inFields, refers⟩)
        rw [Shape.isLegible, refers, Option.all_some, below.isIdentifier identifier,
          below.not_primitive]
        rfl

end Catalog

end LiveScope
