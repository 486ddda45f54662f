/- # LiveScope.Proofs.Declaration.Change — documents change with the skeleton

The document of a scope tells its skeleton and nothing else. What inference writes
down depends on the skeleton alone (`Catalog.ofScope_of_skeleton`), and the
skeleton is what the root's name means in the catalog (`Catalog.meaning?_rootName`),
which can be read back from the text. So two scopes have one text exactly if they
have one skeleton (`Document.text_eq_iff_skeleton`): values, later items of arrays
and the way a number is written never show, while keys, their order, their nesting
and the kinds of first items always do.

Therefore a mounted editor installs another document exactly if an update brings
another skeleton under another identity (`Editor.redeclares_iff`).
-/
import LiveScope.Proofs.Declaration.Legible
import LiveScope.Proofs.Declaration.Reading
import LiveScope.Proofs.Installation.Editor

namespace LiveScope

set_option autoImplicit false

/-! ### The skeleton decides the document -/

theorem Json.keys_entrySkeletons (entries : List (String × Json)) :
    (entrySkeletons entries).map Prod.fst = entries.map Prod.fst := by
  induction entries with
  | nil => rfl
  | cons entry rest ih =>
      obtain ⟨key, value⟩ := entry
      rw [entrySkeletons, List.map_cons, ih, List.map_cons]

namespace Scope

variable {s t : Scope}

theorem entrySkeletons_of_skeleton (same : s.skeleton = t.skeleton) :
    Json.entrySkeletons s.entries = Json.entrySkeletons t.entries :=
  Skeleton.record.inj same

theorem keys_of_skeleton (same : s.skeleton = t.skeleton) : s.keys = t.keys := by
  rw [keys, keys, ← Json.keys_entrySkeletons, entrySkeletons_of_skeleton same,
    Json.keys_entrySkeletons]

end Scope

namespace Catalog

variable {s t : Scope}

/-- Two inference runs over one skeleton choose the same names step by step. -/
theorem ofScope_of_skeleton (options : Options) (same : s.skeleton = t.skeleton) :
    ofScope options s = ofScope options t := by
  have outlines : s.outlines options = t.outlines options := by
    rw [Scope.outlines, Scope.outlines, Scope.entrySkeletons_of_skeleton same]
  rw [ofScope_eq_outline, ofScope_eq_outline, outlines]

/-! ### The document tells the skeleton -/

/-- In the catalog of a scope the root's name means the skeleton of the scope. -/
theorem meaning?_rootName (options : Options) (scope : Scope) :
    (ofScope options scope).meaning? (ofScope options scope).length options.rootName =
      some scope.skeleton := by
  have written := definitions_ofScope options scope
  have distinct : (Inference.names (ofScope options scope).definitions).Nodup := by
    rw [written]
    exact scope.nodup_outline_names options
  have means := Outline.expand?_shape distinct (scope.outline options)
    (ofScope options scope).length (fun _ member => written ▸ member)
    (Nat.le_of_eq (congrArg List.length written.symm))
  rw [scope.skeleton_outline] at means
  exact means

theorem skeleton_of_ofScope {options : Options} (same : ofScope options s = ofScope options t) :
    s.skeleton = t.skeleton := by
  have first := meaning?_rootName options s
  have second := meaning?_rootName options t
  rw [same, second] at first
  exact (Option.some.inj first).symm

end Catalog

namespace Document

variable {options : Options} {s t : Scope}

theorem ofScope_of_skeleton (options : Options) (same : s.skeleton = t.skeleton) :
    ofScope options s = ofScope options t := by
  rw [ofScope, ofScope, Scope.keys_of_skeleton same, Catalog.ofScope_of_skeleton options same]

/-- A text is read back, so it is the text of one catalog. -/
theorem skeleton_of_text (identifier : Declaration.isIdentifier options.rootName = true)
    (inLine : IsLine options.indent)
    (same : (ofScope options s).text = (ofScope options t).text) : s.skeleton = t.skeleton := by
  have read := Reading.document?_ofCatalog inLine s.keys
    (Catalog.isLegible_ofScope options s identifier)
  have read' := Reading.document?_ofCatalog inLine t.keys
    (Catalog.isLegible_ofScope options t identifier)
  have texts : (ofCatalog options.indent s.keys (Catalog.ofScope options s)).text =
      (ofCatalog options.indent t.keys (Catalog.ofScope options t)).text := same
  rw [texts, read'] at read
  have catalogs := congrArg Prod.snd (Option.some.inj read)
  exact (Catalog.skeleton_of_ofScope catalogs).symm

theorem ofScope_eq_iff (identifier : Declaration.isIdentifier options.rootName = true)
    (inLine : IsLine options.indent) :
    ofScope options s = ofScope options t ↔ s.skeleton = t.skeleton :=
  ⟨fun same => skeleton_of_text identifier inLine (congrArg text same),
    ofScope_of_skeleton options⟩

theorem isLine_of_blank {indent : String}
    (blank : ∀ c ∈ indent.toList, c = ' ' ∨ c = '\t') : IsLine indent := by
  intro broken
  rcases blank '\n' broken with same | same <;> exact absurd same (by decide)

/-- **Texts change with the skeleton.** Two scopes have one text exactly if they
have one skeleton, and then they declare the same constants. -/
theorem text_eq_iff_skeleton (identifier : Declaration.isIdentifier options.rootName = true)
    (blank : ∀ c ∈ options.indent.toList, c = ' ' ∨ c = '\t') (s t : Scope) :
    ((ofScope options s).text = (ofScope options t).text ↔ s.skeleton = t.skeleton) ∧
    ((ofScope options s).text = (ofScope options t).text →
      (ofScope options s).bindings = (ofScope options t).bindings) := by
  have told (same : (ofScope options s).text = (ofScope options t).text) :
      s.skeleton = t.skeleton := skeleton_of_text identifier (isLine_of_blank blank) same
  constructor
  · constructor
    · exact told
    · intro same
      rw [ofScope_of_skeleton options same]
  · intro same
    rw [ofScope_of_skeleton options (told same)]

/-- A sample of a scope. -/
def sample : Scope :=
  ⟨[("rows", .array [.object [("id", .number (.integer 1))], .null]), ("tags", .array [])]⟩

/-- Another number, other later items, and a null for the item that was missing. -/
def resample : Scope :=
  ⟨[("rows", .array [.object [("id", .number (.integer (-70)))]]),
    ("tags", .array [.null, .boolean true])]⟩

/-- The sample with its keys in the other order. -/
def reordered : Scope := ⟨sample.entries.reverse⟩

theorem text_eq_samples :
    Declaration.isIdentifier "Root" = true ∧
    (∀ c ∈ "\t".toList, c = ' ' ∨ c = '\t') ∧
    (ofScope ⟨"Root", "\t"⟩ sample).text = (ofScope ⟨"Root", "\t"⟩ resample).text ∧
    (ofScope ⟨"Root", "\t"⟩ sample).text ≠ (ofScope ⟨"Root", "\t"⟩ reordered).text := by
  have identifier : Declaration.isIdentifier "Root" = true := by decide
  have blank : ∀ c ∈ "\t".toList, c = ' ' ∨ c = '\t' :=
    fun c member => .inr (List.mem_singleton.1 member)
  have changes := @text_eq_iff_skeleton ⟨"Root", "\t"⟩ identifier blank sample
  refine ⟨identifier, blank, (changes resample).1.2 rfl, fun same => ?_⟩
  have bindings := (changes reordered).2 same
  exact absurd bindings (by decide)

end Document

namespace Editor

/-- A mounted editor installs another document exactly if an update brings a scope
of another identity and another skeleton. -/
theorem redeclares_iff {editor : Editor} {props : Props}
    (identifier : Declaration.isIdentifier editor.options.rootName = true)
    (inLine : IsLine editor.options.indent) :
    editor.redeclares props = true ↔ editor.isMounted = true ∧
      props.scope.identity ≠ editor.props.scope.identity ∧
      props.scope.scope.skeleton ≠ editor.props.scope.scope.skeleton := by
  simp only [redeclares, Bool.and_eq_true, bne_iff_ne, ne_eq,
    Document.ofScope_eq_iff identifier inLine, and_assoc]

end Editor

end LiveScope
