/- # LiveScope.Json.Value — JSON values

An object is the list of its entries in the order of the text. A key that is
written twice keeps the place of its first entry and takes the last value:
`upsert` is that rule: `keys_upsert` says what it does to the keys, `lookup_upsert`
what is found under them.
-/
import LiveScope.Json.Number

namespace LiveScope

set_option autoImplicit false

inductive Json where
  | null
  | boolean (value : Bool)
  | number (value : Json.Number)
  | string (text : String)
  | array (items : List Json)
  | object (entries : List (String × Json))
  deriving Inhabited

namespace Json

/-- The six kinds of value. -/
inductive Kind where
  | object
  | array
  | string
  | number
  | boolean
  | null
  deriving DecidableEq, Repr

def Kind.name : Kind → String
  | .object => "object"
  | .array => "array"
  | .string => "string"
  | .number => "number"
  | .boolean => "boolean"
  | .null => "null"

def kind : Json → Kind
  | .null => .null
  | .boolean _ => .boolean
  | .number _ => .number
  | .string _ => .string
  | .array _ => .array
  | .object _ => .object

/-- Set a key: in its place if it is there, else at the end. -/
def upsert (key : String) (value : Json) : List (String × Json) → List (String × Json)
  | [] => [(key, value)]
  | entry :: rest =>
      if entry.1 = key then (key, value) :: rest else entry :: upsert key value rest

/-- The entries of an object; none for every other value. -/
def entries : Json → List (String × Json)
  | .object entries => entries
  | _ => []

def get? (json : Json) (key : String) : Option Json :=
  json.entries.lookup key

def text? : Json → Option String
  | .string text => some text
  | _ => none

def flag? : Json → Option Bool
  | .boolean value => some value
  | _ => none

def items? : Json → Option (List Json)
  | .array items => some items
  | _ => none

/-- The name of a choice: a string, or an object with that single key and value
null. -/
def choice? : Json → Option String
  | .string name => some name
  | .object [(name, .null)] => some name
  | _ => none

/-- A record as the values of its fields, in their order: an object, whose other
keys do not matter, or an array, which may leave trailing fields out. -/
def record? (names : List String) : Json → Option (List (Option Json))
  | .object entries => some (names.map fun name => entries.lookup name)
  | .array items =>
      if items.length ≤ names.length then
        some (items.map some ++ List.replicate (names.length - items.length) none)
      else none
  | _ => none

theorem keys_upsert (key : String) (value : Json) (entries : List (String × Json)) :
    (upsert key value entries).map Prod.fst =
      if key ∈ entries.map Prod.fst then entries.map Prod.fst
      else entries.map Prod.fst ++ [key] := by
  induction entries with
  | nil => simp [upsert]
  | cons entry rest ih =>
      by_cases same : entry.1 = key
      · simp [upsert, same]
      · have other : key ≠ entry.1 := fun h => same h.symm
        by_cases later : key ∈ rest.map Prod.fst
        · simp only [upsert, same, if_false, List.map_cons, ih, List.mem_cons, other, false_or,
            later, if_true]
        · simp only [upsert, same, if_false, List.map_cons, ih, List.mem_cons, other, false_or,
            later, List.cons_append]

theorem nodup_upsert (key : String) (value : Json) {entries : List (String × Json)}
    (distinct : (entries.map Prod.fst).Nodup) :
    ((upsert key value entries).map Prod.fst).Nodup := by
  rw [keys_upsert]
  split
  · exact distinct
  · next fresh =>
      rw [List.nodup_append]
      exact ⟨distinct, by simp, by
        intro a memA b memB
        rw [List.mem_singleton.1 memB]
        intro same
        exact fresh (same ▸ memA)⟩

theorem lookup_cons (first other : String) (kept : Json) (rest : List (String × Json)) :
    List.lookup other ((first, kept) :: rest) =
      if other = first then some kept else rest.lookup other := by
  rw [List.lookup_cons]
  by_cases found : other = first
  · rw [if_pos found, found, beq_self_eq_true]
  · rw [if_neg found, beq_false_of_ne found]

theorem lookup_upsert (key other : String) (value : Json) (entries : List (String × Json)) :
    (upsert key value entries).lookup other =
      if other = key then some value else entries.lookup other := by
  induction entries with
  | nil => rw [upsert, lookup_cons, List.lookup_nil]
  | cons entry rest ih =>
      obtain ⟨first, kept⟩ := entry
      by_cases same : first = key
      · subst same
        rw [upsert, if_pos rfl, lookup_cons, lookup_cons]
        split <;> rfl
      · rw [upsert, if_neg same, lookup_cons, lookup_cons, ih]
        by_cases found : other = key
        · have elsewhere : other ≠ first := fun clash => same (clash.symm.trans found)
          rw [if_neg elsewhere, if_pos found, if_pos found]
        · rw [if_neg found, if_neg found]

end Json

end LiveScope
