/- # LiveScope.Proofs.Extension — later keys disturb no earlier type

Inference goes through the keys of a scope once and chooses each name against the names
of the definitions so far, so what comes first does not depend on what follows.
`fields_append` says this of the fields of a record: the entries in front are inferred as
if nothing followed, and those behind as if all names in front were in use.

A scope that is extended by further keys keeps its definitions, in order and under their
names; the root gains fields at its end, and new definitions stand behind all others
(`ofScope_extended`). That the new values lie at paths which earlier names were made of
makes no difference.
-/
import LiveScope.Proofs.Expansion
import LiveScope.Proofs.Keys

namespace LiveScope

set_option autoImplicit false

/-- A scope with further entries behind its own. -/
def Scope.extended (scope : Scope) (more : List (String × Json)) : Scope := ⟨scope.entries ++ more⟩

namespace Inference

/-- What stands behind is inferred with the names in front in use, and changes nothing
in front. -/
theorem fields_append (owner : String) (back : List (String × Json)) :
    ∀ (used : List String) (front : List (String × Json)),
      let ahead := fields used owner front
      let behind := fields (used ++ names ahead.2) owner back
      fields used owner (front ++ back) = (ahead.1 ++ behind.1, ahead.2 ++ behind.2)
  | used, [] => by
      show fields used owner back = ([] ++ (fields (used ++ []) owner back).1,
        [] ++ (fields (used ++ []) owner back).2)
      rw [List.append_nil, List.nil_append, List.nil_append]
  | used, (key, value) :: rest => by
      have later := fields_append owner back
        (used ++ names (shape used (Naming.under owner key) value).2) rest
      simp only at later
      simp only [List.cons_append, fields, later, names_append, List.append_assoc]

/-- The names of added definitions are distinct, also from those in use. -/
theorem nodup_names_fields {used : List String} (distinct : used.Nodup) (owner : String)
    (entries : List (String × Json)) :
    (used ++ names (fields used owner entries).2).Nodup := by
  rw [fields_eq_outline]
  exact Skeleton.nodup_outlineFields_names distinct owner _

end Inference

namespace Catalog

theorem nodup_names (options : Options) (scope : Scope) :
    (Inference.names (ofScope options scope).definitions).Nodup :=
  Inference.nodup_names_fields (List.nodup_singleton options.rootName) options.rootName
    scope.entries

/-- **Further keys disturb nothing.** The catalog of a scope with further keys is that of
the scope, with fields for these keys at the end of the root and new definitions at the
end of the catalog. No new definition bears the name of an earlier one, so what an
earlier name means stays as it was. -/
theorem ofScope_extended (options : Options) (scope : Scope) (more : List (String × Json)) :
    let before := ofScope options scope
    let after := ofScope options (scope.extended more)
    ∃ fields added,
      after = ⟨⟨before.root.name, before.root.fields ++ fields⟩, before.others ++ added⟩ ∧
      fields.map Field.name = more.map Prod.fst ∧
      (∀ definition ∈ added, definition.name ∉ Inference.names before.definitions) ∧
      ∀ definition ∈ before.others, before.get? definition.name = some definition ∧
        after.get? definition.name = some definition := by
  intro before after
  let used := Inference.names before.definitions
  let behind := Inference.fields used options.rootName more
  have same : after = ⟨⟨before.root.name, before.root.fields ++ behind.1⟩,
      before.others ++ behind.2⟩ := by
    simp only [after, ofScope, Scope.extended, Inference.fields_append]
    rfl
  refine ⟨behind.1, behind.2, same, Inference.fieldNames_fields _ _ _, ?_, ?_⟩
  · have distinct : (used ++ Inference.names behind.2).Nodup :=
      Inference.nodup_names_fields (nodup_names options scope) options.rootName more
    intro definition member taken
    exact (List.nodup_append.1 distinct).2.2 _ taken _ (List.mem_map_of_mem member) rfl
  · intro definition member
    have inAfter : definition ∈ after.definitions := by
      rw [same]
      exact List.mem_cons_of_mem _ (List.mem_append_left _ member)
    exact ⟨get?_of_mem (nodup_names options scope) (List.mem_cons_of_mem _ member),
      get?_of_mem (nodup_names options _) inAfter⟩

end Catalog

end LiveScope
