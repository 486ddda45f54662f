/- # LiveScope.Proofs.Keys — no object repeats a key

A text may write a key as often as it likes; a value that was read from it has
each key once in every object, at any depth (`distinctKeys_parse`). Entries are
only ever put into an object by `upsert`, which keeps its keys distinct; the loops
of the reader keep what each of their rounds keeps (`itemsFrom_keeps`,
`entriesFrom_keeps`), and one that keeps up with the loop at each entry keeps up
with it to the end (`entriesFrom_follows`).

Inference makes a field of every entry and nothing else, so the fields of every
definition of such a scope have distinct names (`Catalog.nodup_fieldNames`), and
those of the root are the keys of the scope (`Catalog.fieldNames_root`).
-/
import LiveScope.Scope
import LiveScope.Shape.Inference

namespace LiveScope

set_option autoImplicit false

theorem ok_of_bind {ε α β : Type} {read : Except ε α} {next : α → Except ε β} {answer : β}
    (answers : read.bind next = .ok answer) :
    ∃ found, read = .ok found ∧ next found = .ok answer := by
  cases read with
  | ok found => exact ⟨found, rfl, answers⟩
  | error _ => cases answers

theorem ok_of_map {ε α β : Type} {read : Except ε α} {make : α → β} {answer : β}
    (answers : read.map make = .ok answer) : ∃ found, read = .ok found ∧ make found = answer := by
  cases read with
  | ok found => exact ⟨found, rfl, Except.ok.inj answers⟩
  | error _ => cases answers

theorem mapError_eq_ok_iff {ε δ α : Type} {answer : Except ε α} {tell : ε → δ} {found : α} :
    answer.mapError tell = .ok found ↔ answer = .ok found := by
  constructor
  · intro told
    cases answer with
    | ok _ =>
        cases told
        rfl
    | error _ => cases told
  · rintro rfl
    rfl

namespace Json

/-- In no object of a value do two entries have one key. -/
inductive DistinctKeys : Json → Prop
  | null : DistinctKeys .null
  | boolean (value : Bool) : DistinctKeys (.boolean value)
  | number (value : Number) : DistinctKeys (.number value)
  | string (text : String) : DistinctKeys (.string text)
  | array {items : List Json} (inside : ∀ item ∈ items, DistinctKeys item) :
      DistinctKeys (.array items)
  | object {entries : List (String × Json)} (distinct : (entries.map Prod.fst).Nodup)
      (inside : ∀ entry ∈ entries, DistinctKeys entry.2) : DistinctKeys (.object entries)

theorem mem_upsert {key : String} {value : Json} {entry : String × Json}
    {entries : List (String × Json)} (member : entry ∈ upsert key value entries) :
    entry = (key, value) ∨ entry ∈ entries := by
  induction entries with
  | nil => exact .inl (List.mem_singleton.1 member)
  | cons first rest ih =>
      simp only [upsert] at member
      split at member
      · rcases List.mem_cons.1 member with rfl | later
        · exact .inl rfl
        · exact .inr (List.mem_cons_of_mem _ later)
      · rcases List.mem_cons.1 member with rfl | later
        · exact .inr List.mem_cons_self
        · exact (ih later).imp_right (List.mem_cons_of_mem _)

/-- An entry may be set to any value with distinct keys. -/
theorem DistinctKeys.upsert {entries : List (String × Json)} {value : Json}
    (before : DistinctKeys (.object entries)) (key : String) (new : value.DistinctKeys) :
    DistinctKeys (.object (Json.upsert key value entries)) := by
  cases before with
  | object distinct inside =>
      apply DistinctKeys.object (nodup_upsert key value distinct)
      intro entry member
      rcases mem_upsert member with rfl | old
      · exact new
      · exact inside entry old

/-! ### Reading -/

namespace Reader

section Loops

variable {σ : Type} {P : σ → Prop} {final : σ} {rest : List Char}

/-- What every item keeps, the loop over the items keeps. -/
theorem itemsFrom_keeps {step : σ → Reader σ}
    (keeps : ∀ state text next left, P state → step state text = .ok (next, left) → P next)
    (fuel : Nat) (isFirst : Bool) {state : σ} {text : List Char} (before : P state)
    (read : itemsFrom step fuel isFirst state text = .ok (final, rest)) : P final := by
  induction fuel generalizing isFirst state text with
  | zero => cases read
  | succ fuel ih =>
      have goesOn {found : List Char} (read : ((step state found).bind fun answer =>
          itemsFrom step fuel false answer.1 answer.2) = .ok (final, rest)) : P final := by
        obtain ⟨answer, stepped, read⟩ := ok_of_bind read
        exact ih false (keeps state found answer.1 answer.2 before stepped) read
      simp only [itemsFrom] at read
      split at read
      · cases read
      · split at read
        · cases read
          exact before
        · split at read
          · exact goesOn read
          · split at read
            · split at read
              · cases read
              · split at read
                · cases read
                · exact goesOn read
            · cases read

/-- Where one step goes another can follow, whole objects can be followed: what the loop over
the entries makes with the one, it makes with the other from the same text. -/
theorem entriesFrom_follows {τ : Type} {R : σ → τ → Prop} {keys : Care}
    {step : σ → String → Reader σ} {other : τ → String → Reader τ}
    (follows : ∀ state shadow key text next left, R state shadow →
      step state key text = .ok (next, left) →
        ∃ shadowNext, other shadow key text = .ok (shadowNext, left) ∧ R next shadowNext)
    (fuel : Nat) (isFirst : Bool) {state : σ} {shadow : τ} {text : List Char}
    (related : R state shadow)
    (read : entriesFrom keys step fuel isFirst state text = .ok (final, rest)) :
    ∃ shadowFinal, entriesFrom keys other fuel isFirst shadow text = .ok (shadowFinal, rest) ∧
      R final shadowFinal := by
  induction fuel generalizing isFirst state shadow text with
  | zero => cases read
  | succ fuel ih =>
      have goesOn {quoted : List Char} (read : ((string keys quoted).bind fun named =>
          (step state named.1 named.2).bind fun answer =>
            entriesFrom keys step fuel false answer.1 answer.2) = .ok (final, rest)) :
          ∃ shadowFinal, ((string keys quoted).bind fun named =>
            (other shadow named.1 named.2).bind fun answer =>
              entriesFrom keys other fuel false answer.1 answer.2) = .ok (shadowFinal, rest) ∧
            R final shadowFinal := by
        obtain ⟨named, key, read⟩ := ok_of_bind read
        obtain ⟨answer, stepped, read⟩ := ok_of_bind read
        obtain ⟨shadowNext, followed, nextRelated⟩ :=
          follows state shadow named.1 named.2 answer.1 answer.2 related stepped
        obtain ⟨shadowFinal, later, finalRelated⟩ := ih false nextRelated read
        refine ⟨shadowFinal, ?_, finalRelated⟩
        simp only [key, followed, Except.bind]
        exact later
      simp only [entriesFrom] at read ⊢
      split at read
      · cases read
      · split at read
        · next ends =>
            cases read
            rw [if_pos ends]
            exact ⟨shadow, rfl, related⟩
        · next more =>
            rw [if_neg more]
            split at read
            · next first =>
                rw [if_pos first]
                split at read
                · next quote =>
                    rw [if_pos quote]
                    exact goesOn read
                · cases read
            · next first =>
                rw [if_neg first]
                split at read
                · next comma =>
                    rw [if_pos comma]
                    split at read
                    · cases read
                    · split at read
                      · next quote =>
                          rw [if_pos quote]
                          exact goesOn read
                      · split at read <;> cases read
                · cases read

/-- What every entry keeps, the loop over the entries keeps. -/
theorem entriesFrom_keeps {keys : Care} {step : σ → String → Reader σ}
    (keeps : ∀ state key text next left, P state → step state key text = .ok (next, left) →
      P next)
    (fuel : Nat) (isFirst : Bool) {state : σ} {text : List Char} (before : P state)
    (read : entriesFrom keys step fuel isFirst state text = .ok (final, rest)) : P final := by
  have follows : ∀ state shadow key text next left, (state = shadow ∧ P state) →
      step state key text = .ok (next, left) →
        ∃ shadowNext, step shadow key text = .ok (shadowNext, left) ∧
          (next = shadowNext ∧ P next) := by
    rintro state _ key text next left ⟨rfl, holds⟩ stepped
    exact ⟨next, stepped, rfl, keeps state key text next left holds stepped⟩
  obtain ⟨_, -, -, kept⟩ := entriesFrom_follows follows fuel isFirst ⟨rfl, before⟩ read
  exact kept

end Loops

/-- A value that is made of whatever was found, all such values having distinct keys. -/
theorem distinctKeys_of_map {α : Type} (make : α → Json)
    (distinct : ∀ answer, (make answer).DistinctKeys) {found : Except Fault (α × List Char)}
    {json : Json} {rest : List Char}
    (read : (found.map fun (answer, left) => (make answer, left)) = .ok (json, rest)) :
    json.DistinctKeys := by
  obtain ⟨⟨answer, left⟩, -, same⟩ := ok_of_map read
  cases same
  exact distinct answer

/-- Only the values inside decide: the keys of the value itself are set one by one. -/
theorem distinctKeys_valueWith {care : Care} {inner : Option (Reader Json)}
    (inside : ∀ item, inner = some item → ∀ text json left, item text = .ok (json, left) →
      json.DistinctKeys)
    {text rest : List Char} {json : Json} (read : valueWith care inner text = .ok (json, rest)) :
    json.DistinctKeys := by
  unfold valueWith at read
  split at read
  · cases read
  · exact distinctKeys_of_map (fun _ => .null) (fun _ => .null) read
  · exact distinctKeys_of_map (fun _ => .boolean true) (fun _ => .boolean true) read
  · exact distinctKeys_of_map (fun _ => .boolean false) (fun _ => .boolean false) read
  · exact distinctKeys_of_map .number .number read
  · exact distinctKeys_of_map .string .string read
  · split at read
    · cases read
    · next item =>
        obtain ⟨⟨found, left⟩, itemsRead, same⟩ := ok_of_map read
        cases same
        have all : ∀ json ∈ found, json.DistinctKeys := by
          refine itemsFrom_keeps (P := fun found => ∀ json ∈ found, json.DistinctKeys) ?_ _ true
            (fun _ member => by cases member) itemsRead
          intro state text next left before stepped
          obtain ⟨⟨value, after⟩, valueRead, same⟩ := ok_of_map stepped
          cases same
          intro json member
          rcases List.mem_cons.1 member with rfl | old
          · exact inside item rfl text _ _ valueRead
          · exact before json old
        exact .array fun json member => all json (List.mem_reverse.1 member)
  · split at read
    · cases read
    · next item =>
        obtain ⟨⟨found, left⟩, entriesRead, same⟩ := ok_of_map read
        cases same
        have empty : DistinctKeys (.object []) := .object List.nodup_nil (by simp)
        refine entriesFrom_keeps (P := fun found => DistinctKeys (.object found)) ?_ _ true empty
          entriesRead
        intro state key text next left before stepped
        obtain ⟨⟨_, afterColon⟩, -, stepped⟩ := ok_of_bind stepped
        obtain ⟨⟨value, after⟩, valueRead, same⟩ := ok_of_map stepped
        cases same
        exact before.upsert key (inside item rfl afterColon _ _ valueRead)
  · split at read
    · exact distinctKeys_of_map .number .number read
    · cases read

theorem distinctKeys_value {care : Care} (depth : Nat) {text rest : List Char} {json : Json}
    (read : value care depth text = .ok (json, rest)) : json.DistinctKeys := by
  induction depth generalizing text rest json with
  | zero =>
      refine distinctKeys_valueWith ?_ read
      intro item absent
      cases absent
  | succ depth ih =>
      refine distinctKeys_valueWith ?_ read
      intro item same text json left itemRead
      cases same
      exact ih itemRead

theorem whole_eq_ok_iff {α : Type} {reader : Reader α} {text : List Char} {answer : α} :
    whole reader text = .ok answer ↔
      ∃ rest, reader text = .ok (answer, rest) ∧ skipSpace rest = [] := by
  constructor
  · intro read
    obtain ⟨⟨found, rest⟩, read, ended⟩ := ok_of_bind read
    dsimp only at ended
    split at ended
    · next nothing =>
        cases ended
        exact ⟨rest, read, nothing⟩
    · cases ended
  · rintro ⟨rest, read, nothing⟩
    simp only [whole, read, Except.bind, nothing]

end Reader

/-- However often a text repeats its keys, the value that it is read as does not. -/
theorem distinctKeys_parse {source : String} {json : Json} (parsed : parse source = .ok json) :
    json.DistinctKeys := by
  obtain ⟨rest, read, -⟩ := Reader.whole_eq_ok_iff.1 (mapError_eq_ok_iff.1 parsed)
  exact Reader.distinctKeys_value _ read

end Json

theorem Scope.distinctKeys_parse {source : String} {scope : Scope}
    (parsed : Scope.parse source = .ok scope) : Json.DistinctKeys (.object scope.entries) := by
  unfold Scope.parse at parsed
  split at parsed
  · next json read =>
      have distinct := Json.distinctKeys_parse read
      cases json with
      | object entries =>
          cases parsed
          exact distinct
      | _ => cases parsed
  · cases parsed

theorem Scope.nodup_keys {scope : Scope} (distinct : Json.DistinctKeys (.object scope.entries)) :
    scope.keys.Nodup := by
  cases distinct with
  | object distinct inside => exact distinct

/-! ### Inference -/

namespace Inference

/-- A field for each entry, in order. -/
theorem fieldNames_fields (used : List String) (owner : String) (entries : List (String × Json)) :
    (fields used owner entries).1.map (·.name) = entries.map Prod.fst := by
  induction entries generalizing used with
  | nil => rfl
  | cons entry rest ih =>
      obtain ⟨key, value⟩ := entry
      simp only [fields, List.map_cons, ih]

mutual

theorem nodup_fieldNames_shape (used : List String) (path : String) :
    ∀ json : Json, json.DistinctKeys →
      ∀ definition ∈ (shape used path json).2, definition.fieldNames.Nodup
  | .null, _, _, member | .boolean _, _, _, member | .number _, _, _, member
  | .string _, _, _, member => by cases member
  | .array items, distinct, definition, member => by
      cases distinct with
      | array inside => exact nodup_fieldNames_elementShape used path items inside definition member
  | .object entries, distinct, definition, member => by
      cases distinct with
      | object keysDistinct inside =>
          rcases List.mem_cons.1 member with rfl | below
          · show List.Nodup (List.map (·.name) (fields _ _ entries).1)
            rw [fieldNames_fields]
            exact keysDistinct
          · exact nodup_fieldNames_fields _ _ entries inside definition below

theorem nodup_fieldNames_elementShape (used : List String) (path : String) :
    ∀ items : List Json, (∀ item ∈ items, item.DistinctKeys) →
      ∀ definition ∈ (elementShape used path items).2, definition.fieldNames.Nodup
  | [], _, _, member => by cases member
  | first :: _, inside, definition, member =>
      nodup_fieldNames_shape used path first (inside first List.mem_cons_self) definition member

theorem nodup_fieldNames_fields (used : List String) (owner : String) :
    ∀ entries : List (String × Json), (∀ entry ∈ entries, entry.2.DistinctKeys) →
      ∀ definition ∈ (fields used owner entries).2, definition.fieldNames.Nodup
  | [], _, _, member => by cases member
  | (key, value) :: rest, inside, definition, member => by
      rcases List.mem_append.1 member with here | later
      · exact nodup_fieldNames_shape used _ value (inside (key, value) List.mem_cons_self)
          definition here
      · exact nodup_fieldNames_fields _ owner rest
          (fun entry inRest => inside entry (List.mem_cons_of_mem _ inRest)) definition later

end

end Inference

namespace Catalog

theorem fieldNames_root (options : Options) (scope : Scope) :
    (ofScope options scope).root.fieldNames = scope.keys :=
  Inference.fieldNames_fields _ _ _

theorem nodup_fieldNames (options : Options) {scope : Scope}
    (distinct : Json.DistinctKeys (.object scope.entries)) :
    ∀ definition ∈ (ofScope options scope).definitions, definition.fieldNames.Nodup := by
  intro definition member
  rcases List.mem_cons.1 member with rfl | below
  · rw [fieldNames_root]
    exact Scope.nodup_keys distinct
  · cases distinct with
    | object keysDistinct inside =>
        exact Inference.nodup_fieldNames_fields _ _ _ inside definition below

end Catalog

end LiveScope
