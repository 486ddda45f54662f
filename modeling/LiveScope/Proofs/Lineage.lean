/- # LiveScope.Proofs.Lineage — every name comes from one field

Inference keeps a list of the names in use, which no catalog shows. It is always the
names of the definitions that stand before the one to be named: `Descends` says of a
definition that a field of an earlier one refers to it and that its name was chosen
for the path of that field, against the names of all earlier definitions. This holds
of every definition of an outline but the first (`Skeleton.lineage_outline`), which
is named after the path of the outline itself.

A tree has no second field that refers to the same definition, so in the catalog of a
scope the field that gave the name is the field that refers to it
(`Catalog.named_ofScope`).
-/
import LiveScope.Proofs.Tree

namespace LiveScope

set_option autoImplicit false

namespace Naming

theorem isWordChar_iff {c : Char} : isWordChar c = true ↔
    ('A' ≤ c ∧ c ≤ 'Z') ∨ ('a' ≤ c ∧ c ≤ 'z') ∨ ('0' ≤ c ∧ c ≤ '9') ∨ c = '_' ∨ c = '$' := by
  have ranges : isWordChar c = ((decide ('A' ≤ c ∧ c ≤ 'Z') ||
      (decide ('a' ≤ c) && decide (c ≤ 'z')) || (decide ('0' ≤ c) && decide (c ≤ '9'))) ||
      c == '_' || c == '$') := rfl
  simp only [ranges, Bool.or_eq_true, Bool.and_eq_true, decide_eq_true_eq, beq_iff_eq, or_assoc]

/-- A fragment has a character for each character of the key, and at least one. -/
theorem toList_fragment (key : String) : (fragment key).toList =
    if key = "" then ['_'] else key.toList.map fun c => if isWordChar c then c else '_' := by
  unfold fragment
  by_cases empty : key = ""
  · rw [if_pos empty, if_pos (String.isEmpty_iff.2 empty)]
    rfl
  · rw [if_neg empty, if_neg (fun isEmpty => empty (String.isEmpty_iff.1 isEmpty)),
      String.toList_ofList]

end Naming

/-! ### Where a name comes from -/

namespace Inference

/-- A field of an earlier definition refers to `definition`, which is named after the
path of that field, apart from the names `used` and those of all earlier definitions. -/
def Descends (used : List String) (earlier : List Definition) (definition : Definition) : Prop :=
  ∃ owner ∈ earlier, ∃ field ∈ owner.fields, field.shape.referenced? = some definition.name ∧
    definition.name = Naming.fresh (used ++ names earlier) (Naming.under owner.name field.name)

/-- What stands before counts as in use. -/
theorem Descends.behind {used : List String} (ahead : List Definition)
    {earlier : List Definition} {definition : Definition}
    (descends : Descends (used ++ names ahead) earlier definition) :
    Descends used (ahead ++ earlier) definition := by
  obtain ⟨owner, inEarlier, field, inFields, refers, named⟩ := descends
  refine ⟨owner, List.mem_append_right _ inEarlier, field, inFields, refers, ?_⟩
  rw [names_append, ← List.append_assoc]
  exact named

/-- A definition in one of two lists that stand one behind the other. -/
theorem split_append {ahead behind front back : List Definition} {definition : Definition}
    (split : ahead ++ behind = front ++ definition :: back) :
    (∃ between, ahead = front ++ definition :: between) ∨
      ∃ between, front = ahead ++ between ∧ behind = between ++ definition :: back := by
  rcases List.append_eq_append_iff.1 split with ⟨between, same, behindSame⟩ | ⟨tail, same, tailSame⟩
  · exact .inr ⟨between, same, behindSame⟩
  · cases tail with
    | nil => exact .inr ⟨[], by rw [same, List.append_nil, List.append_nil], tailSame.symm⟩
    | cons first between =>
        obtain ⟨rfl, -⟩ := List.cons.inj tailSame
        exact .inl ⟨between, same⟩

end Inference

mutual

/-- The first definition of an outline is named after its path, every other one after
a field that refers to it. -/
theorem Skeleton.lineage_outline (used : List String) (path : String) :
    ∀ (skeleton : Skeleton) {front back : List Definition} {definition : Definition},
      (skeleton.outline used path).definitions = front ++ definition :: back →
      (front = [] ∧ definition.name = Naming.fresh used path) ∨
        Inference.Descends used front definition
  | .any, _, _, _, split | .string, _, _, _, split | .number, _, _, _, split
  | .boolean, _, _, _, split => by cases (List.append_eq_nil_iff.1 split.symm).2
  | .array element, _, _, _, split => lineage_outline used path element split
  | .record fields, front, back, definition, split => by
      let name := Naming.fresh used path
      cases front with
      | nil =>
          obtain ⟨rfl, -⟩ := List.cons.inj split
          exact .inl ⟨rfl, rfl⟩
      | cons first front =>
          obtain ⟨rfl, inside⟩ := List.cons.inj split
          refine .inr ?_
          rcases lineage_outlineFields (used ++ [name]) name fields inside with
            ⟨field, inFields, refers, named⟩ | descends
          · refine ⟨_, List.mem_cons_self, field, inFields, refers, ?_⟩
            rw [named, List.append_assoc]
            rfl
          · exact Inference.Descends.behind [_] descends

/-- A definition below the fields of a record is named after one of these fields, if
that field refers to it, or else after a field further down. -/
theorem Skeleton.lineage_outlineFields (used : List String) (owner : String) :
    ∀ (fields : List (String × Skeleton)) {front back : List Definition}
      {definition : Definition},
      Outline.fieldDefinitions (outlineFields used owner fields) = front ++ definition :: back →
      (∃ field ∈ Outline.fieldShapes (outlineFields used owner fields),
        field.shape.referenced? = some definition.name ∧ definition.name =
          Naming.fresh (used ++ Inference.names front) (Naming.under owner field.name)) ∨
        Inference.Descends used front definition
  | [], _, _, _, split => by cases (List.append_eq_nil_iff.1 split.symm).2
  | (key, skeleton) :: rest, front, back, definition, split => by
      let first := skeleton.outline used (Naming.under owner key)
      have shapes : Outline.fieldShapes (outlineFields used owner ((key, skeleton) :: rest)) =
          ⟨key, first.shape⟩ ::
            Outline.fieldShapes (outlineFields (used ++ first.names) owner rest) := rfl
      rcases Inference.split_append split with ⟨between, here⟩ | ⟨between, rfl, later⟩
      · rcases lineage_outline used (Naming.under owner key) skeleton here with
          ⟨rfl, named⟩ | descends
        · refine .inl ⟨⟨key, first.shape⟩, ?_, ?_, ?_⟩
          · rw [shapes]
            exact List.mem_cons_self
          · show first.shape.referenced? = some definition.name
            rw [Outline.referenced?_shape, Outline.names, here]
            rfl
          · rw [named]
            exact congrArg (Naming.fresh · _) (List.append_nil used).symm
        · exact .inr descends
      · rcases lineage_outlineFields (used ++ first.names) owner rest later with
          ⟨field, inRest, refers, named⟩ | descends
        · refine .inl ⟨field, ?_, refers, ?_⟩
          · rw [shapes]
            exact List.mem_cons_of_mem _ inRest
          · rw [named, Inference.names_append, List.append_assoc]
            rfl
        · exact .inr descends.behind

end

/-- Below the root of a scope every name descends from an earlier definition. -/
theorem Scope.descends_of_split (options : Options) (scope : Scope)
    {front back : List Definition} {definition : Definition}
    (split : (Catalog.ofScope options scope).definitions = front ++ definition :: back)
    (below : front ≠ []) : Inference.Descends [] front definition := by
  rw [Catalog.definitions_ofScope] at split
  cases front with
  | nil => exact absurd rfl below
  | cons first front =>
      obtain ⟨rfl, inside⟩ := List.cons.inj split
      rcases Skeleton.lineage_outlineFields [options.rootName] options.rootName
          (Json.entrySkeletons scope.entries) inside with
        ⟨field, inFields, refers, named⟩ | descends
      · exact ⟨_, List.mem_cons_self, field, inFields, refers, named⟩
      · exact Inference.Descends.behind [_] descends

/-! ### The field that refers to a definition -/

namespace Inference

theorem reference?_of_mem {definitions : List Definition} {owner : Definition} {field : Field}
    {name : String} (member : owner ∈ definitions) (inFields : field ∈ owner.fields)
    (refers : field.shape.referenced? = some name) :
    ∃ i k, definitions[i]? = some owner ∧ owner.fields[k]? = some field ∧
      reference? definitions i k = some name := by
  obtain ⟨i, found⟩ := List.mem_iff_getElem?.1 member
  obtain ⟨k, fieldFound⟩ := List.mem_iff_getElem?.1 inFields
  exact ⟨i, k, found, fieldFound, by simp only [reference?, found, Option.bind_some, fieldFound,
    refers]⟩

/-- Where a name is referred to once, one field of one definition refers to it. -/
theorem same_of_refers {definitions : List Definition} {name : String}
    (once : ∃! place : Nat × Nat, reference? definitions place.1 place.2 = some name)
    {owner other : Definition} {field rival : Field}
    (member : owner ∈ definitions) (inFields : field ∈ owner.fields)
    (refers : field.shape.referenced? = some name)
    (otherMember : other ∈ definitions) (rivalInFields : rival ∈ other.fields)
    (rivalRefers : rival.shape.referenced? = some name) : owner = other ∧ field = rival := by
  obtain ⟨i, k, found, fieldFound, here⟩ := reference?_of_mem member inFields refers
  obtain ⟨j, l, otherFound, rivalFound, there⟩ :=
    reference?_of_mem otherMember rivalInFields rivalRefers
  obtain ⟨rfl, rfl⟩ := Prod.mk.inj (once.unique here there)
  obtain rfl := Option.some.inj (found.symm.trans otherFound)
  exact ⟨rfl, Option.some.inj (fieldFound.symm.trans rivalFound)⟩

end Inference

namespace Catalog

/-- **A definition bears the name of the field that refers to it.** In the catalog of a
scope one field of one definition refers to each definition but the first. The name is
made of the name of that field's owner, an underscore and the fragment of the field's
name, through however many arrays the field refers; if an earlier definition bears that
name already, the least number from two on is appended that no earlier definition bears.
A fragment is the field's name with an underscore for each character that cannot stand
in an identifier, and one underscore for an empty name. -/
theorem named_ofScope (options : Options) (scope : Scope) :
    let definitions := (ofScope options scope).definitions
    (∀ i definition, 0 < i → definitions[i]? = some definition →
      (∃! place : Nat × Nat,
        Inference.reference? definitions place.1 place.2 = some definition.name) ∧
      ∀ owner ∈ definitions, ∀ field ∈ owner.fields,
        field.shape.referenced? = some definition.name →
        let base := owner.name ++ "_" ++ Naming.fragment field.name
        let earlier := Inference.names (definitions.take i)
        (base ∉ earlier → definition.name = base) ∧
        (base ∈ earlier → ∃ n, 2 ≤ n ∧ definition.name = base ++ "_" ++ toString n ∧
          definition.name ∉ earlier ∧
          ∀ m, 2 ≤ m → m < n → base ++ "_" ++ toString m ∈ earlier)) ∧
    ∀ key, (Naming.fragment key).toList =
      if key = "" then ['_']
      else key.toList.map fun c =>
        if ('A' ≤ c ∧ c ≤ 'Z') ∨ ('a' ≤ c ∧ c ≤ 'z') ∨ ('0' ≤ c ∧ c ≤ '9') ∨ c = '_' ∨ c = '$'
        then c else '_' := by
  intro definitions
  refine ⟨fun i definition positive found => ?_, fun key => ?_⟩
  · have tree : (ofScope options scope).IsTree :=
      isTree_of_outline (definitions_ofScope options scope) (scope.nodup_outline_names options)
    have once := tree.owned i definition.name positive (by
      rw [Inference.names, List.getElem?_map, found, Option.map_some])
    refine ⟨once, fun owner member field inFields refers => ?_⟩
    -- the field that the name was chosen for is this one, since no other refers here
    obtain ⟨fits, same⟩ := List.getElem?_eq_some_iff.1 found
    have split : definitions = definitions.take i ++ definition :: definitions.drop (i + 1) := by
      rw [← same, List.getElem_cons_drop, List.take_append_drop]
    have below : definitions.take i ≠ [] := by
      rw [Ne, List.take_eq_nil_iff]
      rintro (atRoot | empty)
      · omega
      · rw [empty] at fits
        exact absurd fits (Nat.not_lt_zero i)
    obtain ⟨parent, inEarlier, source, inParent, sourceRefers, named⟩ :=
      scope.descends_of_split options split below
    obtain ⟨rfl, rfl⟩ := Inference.same_of_refers once member inFields refers
      (List.mem_of_mem_take inEarlier) inParent sourceRefers
    rw [List.nil_append] at named
    rcases Naming.fresh_spec (Inference.names (definitions.take i))
        (Naming.under owner.name field.name) with ⟨free, chosen⟩ | ⟨taken, n, lower, chosen, free, least⟩
    · exact ⟨fun _ => named.trans chosen, fun clash => absurd clash free⟩
    · refine ⟨fun unused => absurd taken unused, fun _ => ⟨n, lower, named.trans chosen, ?_, least⟩⟩
      rw [named, chosen]
      exact free
  · simp only [Naming.toList_fragment, Naming.isWordChar_iff]

/-- Two keys that want one name; the second leads to its object through two arrays. -/
def collidingKeys : Scope :=
  ⟨[("a b", .object []), ("a-b", .array [.array [.object [("", .object [])]]])]⟩

theorem named_collidingKeys :
    let definitions := (ofScope {} collidingKeys).definitions
    0 < 2 ∧ definitions[2]? = some ⟨"RootObject_a_b_2", [⟨"", .reference "RootObject_a_b_2__"⟩]⟩ ∧
    (∃! place : Nat × Nat,
      Inference.reference? definitions place.1 place.2 = some "RootObject_a_b_2") ∧
    "RootObject_a_b" ∈ Inference.names (definitions.take 2) ∧
    ∃ n, 2 ≤ n ∧ "RootObject_a_b_2" = "RootObject_a_b" ++ "_" ++ toString n ∧
      ∀ m, 2 ≤ m → m < n →
        "RootObject_a_b" ++ "_" ++ toString m ∈ Inference.names (definitions.take 2) := by
  intro definitions
  have found : definitions[2]? =
      some ⟨"RootObject_a_b_2", [⟨"", .reference "RootObject_a_b_2__"⟩]⟩ := by decide
  have taken : "RootObject_a_b" ∈ Inference.names (definitions.take 2) := by decide
  have inFields : (⟨"a-b", .array (.array (.reference "RootObject_a_b_2"))⟩ : Field) ∈
      (ofScope {} collidingKeys).root.fields := by decide
  obtain ⟨once, named⟩ := (named_ofScope {} collidingKeys).1 2 _ (by decide) found
  obtain ⟨n, lower, numbered, -, least⟩ :=
    (named (ofScope {} collidingKeys).root List.mem_cons_self _ inFields rfl).2 taken
  exact ⟨by decide, found, once, taken, n, lower, numbered, least⟩

end Catalog

end LiveScope
