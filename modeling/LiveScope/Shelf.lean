/- # LiveScope.Shelf — named things in the order of their names

A shelf holds at most one thing under each name, sorted by name; names are
ordered by code points, which is the order of their bytes. `get?` is the view of
a shelf. What the operations do to the view:

* `get?_insert`: the inserted name gives the new thing, every other name what it
  gave before;
* `get?_erase`: the erased name gives nothing, every other name what it gave.

`size_insert` and `size_erase` say how many things there are afterwards.
-/
namespace LiveScope

set_option autoImplicit false

structure Shelf (α : Type) where
  entries : List (String × α)
  sorted : entries.Pairwise (fun a b => a.1 < b.1)

namespace Shelf

variable {α : Type}

def empty : Shelf α := ⟨[], .nil⟩

instance : Inhabited (Shelf α) := ⟨empty⟩

def names (shelf : Shelf α) : List String := shelf.entries.map Prod.fst

def values (shelf : Shelf α) : List α := shelf.entries.map Prod.snd

def size (shelf : Shelf α) : Nat := shelf.entries.length

/-! ### Insertion -/

def insertEntry (name : String) (value : α) : List (String × α) → List (String × α)
  | [] => [(name, value)]
  | entry :: rest =>
      if name < entry.1 then (name, value) :: entry :: rest
      else if name = entry.1 then (name, value) :: rest
      else entry :: insertEntry name value rest

theorem mem_insertEntry {name : String} {value : α} {entry : String × α} :
    ∀ {entries : List (String × α)}, entry ∈ insertEntry name value entries →
      entry.1 = name ∨ entry ∈ entries
  | [], member => by
      simp only [insertEntry, List.mem_singleton] at member
      exact .inl (by rw [member])
  | first :: rest, member => by
      simp only [insertEntry] at member
      split at member
      · rcases List.mem_cons.1 member with rfl | member
        · exact .inl rfl
        · exact .inr member
      · split at member
        · rcases List.mem_cons.1 member with rfl | member
          · exact .inl rfl
          · exact .inr (List.mem_cons_of_mem _ member)
        · rcases List.mem_cons.1 member with rfl | member
          · exact .inr List.mem_cons_self
          · rcases mem_insertEntry member with same | member
            · exact .inl same
            · exact .inr (List.mem_cons_of_mem _ member)

theorem sorted_insertEntry (name : String) (value : α) {entries : List (String × α)}
    (sorted : entries.Pairwise (fun a b => a.1 < b.1)) :
    (insertEntry name value entries).Pairwise (fun a b => a.1 < b.1) := by
  induction entries with
  | nil => exact List.pairwise_singleton _ _
  | cons first rest ih =>
      obtain ⟨below, restSorted⟩ := List.pairwise_cons.1 sorted
      simp only [insertEntry]
      split
      · next before =>
          refine List.pairwise_cons.2 ⟨?_, sorted⟩
          intro entry member
          rcases List.mem_cons.1 member with rfl | member
          · exact before
          · exact String.lt_trans before (below entry member)
      · next notBefore =>
          split
          · next same => exact List.pairwise_cons.2 ⟨same ▸ below, restSorted⟩
          · next other =>
              refine List.pairwise_cons.2 ⟨?_, ih restSorted⟩
              intro entry member
              rcases mem_insertEntry member with same | member
              · rw [same]
                rcases Std.lt_trichotomy name first.1 with lt | eq | gt
                · exact absurd lt notBefore
                · exact absurd eq other
                · exact gt
              · exact below entry member

/-- Put a thing under a name, in place of what is there. -/
def insert (shelf : Shelf α) (name : String) (value : α) : Shelf α :=
  ⟨insertEntry name value shelf.entries, sorted_insertEntry name value shelf.sorted⟩

/-- Take away what is under a name. -/
def erase (shelf : Shelf α) (name : String) : Shelf α :=
  ⟨shelf.entries.filter (·.1 != name), shelf.sorted.filter _⟩

/-! ### The view -/

/-- The first thing under a name in a list of entries. -/
def find (name : String) : List (String × α) → Option α
  | [] => none
  | entry :: rest => if entry.1 = name then some entry.2 else find name rest

def get? (shelf : Shelf α) (name : String) : Option α := find name shelf.entries

def contains (shelf : Shelf α) (name : String) : Bool := (shelf.get? name).isSome

theorem find_insertEntry (name other : String) (value : α) :
    ∀ entries : List (String × α),
      find other (insertEntry name value entries) =
        if name = other then some value else find other entries
  | [] => rfl
  | first :: rest => by
      simp only [insertEntry]
      split
      · rfl
      · split
        · next same =>
            simp only [find, ← same]
            split <;> rfl
        · next differs =>
            simp only [find, find_insertEntry name other value rest]
            split
            · next here => rw [if_neg (here ▸ differs)]
            · rfl

theorem find_filter (name other : String) :
    ∀ entries : List (String × α),
      find other (entries.filter (·.1 != name)) =
        if name = other then none else find other entries
  | [] => by simp [find]
  | first :: rest => by
      have rest_eq := find_filter name other rest
      by_cases same : first.1 = name
      · rw [List.filter_cons_of_neg (by simp [same]), rest_eq]
        split
        · rfl
        · next differs => rw [find, if_neg (same ▸ differs)]
      · rw [List.filter_cons_of_pos (by simpa using same), find, find, rest_eq]
        split
        · next here => rw [if_neg (fun e => same (here.trans e.symm))]
        · rfl

theorem get?_insert (shelf : Shelf α) (name other : String) (value : α) :
    (shelf.insert name value).get? other =
      if name = other then some value else shelf.get? other :=
  find_insertEntry name other value shelf.entries

theorem get?_erase (shelf : Shelf α) (name other : String) :
    (shelf.erase name).get? other = if name = other then none else shelf.get? other :=
  find_filter name other shelf.entries

theorem find_eq_some_iff {name : String} {value : α} :
    ∀ {entries : List (String × α)}, entries.Pairwise (fun a b => a.1 < b.1) →
      (find name entries = some value ↔ (name, value) ∈ entries)
  | [], _ => by simp [find]
  | (first, kept) :: rest, sorted => by
      obtain ⟨below, restSorted⟩ := List.pairwise_cons.1 sorted
      simp only [find, List.mem_cons, Prod.mk.injEq]
      split
      · next same =>
          subst same
          constructor
          · intro equal
            cases equal
            exact .inl ⟨rfl, rfl⟩
          · rintro (⟨-, rfl⟩ | member)
            · rfl
            · exact absurd (below _ member) (String.lt_irrefl first)
      · next other =>
          rw [find_eq_some_iff restSorted]
          constructor
          · exact .inr
          · rintro (⟨same, -⟩ | member)
            · exact absurd same.symm other
            · exact member

theorem get?_eq_some_iff {shelf : Shelf α} {name : String} {value : α} :
    shelf.get? name = some value ↔ (name, value) ∈ shelf.entries :=
  find_eq_some_iff shelf.sorted

theorem nodup_names (shelf : Shelf α) : shelf.names.Nodup := by
  refine List.pairwise_map.2 (shelf.sorted.imp ?_)
  intro first second before same
  exact String.lt_irrefl first.1 (same ▸ before)

@[simp] theorem get?_insert_self (shelf : Shelf α) (name : String) (value : α) :
    (shelf.insert name value).get? name = some value := by
  rw [get?_insert, if_pos rfl]

@[simp] theorem get?_erase_self (shelf : Shelf α) (name : String) :
    (shelf.erase name).get? name = none := by
  rw [get?_erase, if_pos rfl]

/-! ### Telling things apart -/

theorem name_eq_of_mem {β : Type} {key : α → β} {entries : List (String × α)}
    (distinct : (entries.map (key ·.2)).Nodup) {entry rival : String × α}
    (member : entry ∈ entries) (rivalMember : rival ∈ entries)
    (same : key entry.2 = key rival.2) : entry.1 = rival.1 := by
  induction entries with
  | nil => cases member
  | cons first rest ih =>
      obtain ⟨apart, restDistinct⟩ := List.nodup_cons.1 distinct
      have others {kept : String × α} (later : kept ∈ rest) : key first.2 ≠ key kept.2 :=
        fun clash => apart (List.mem_map.2 ⟨kept, later, clash.symm⟩)
      rcases List.mem_cons.1 member with rfl | later <;>
        rcases List.mem_cons.1 rivalMember with rfl | rivalLater
      · rfl
      · exact absurd same (others rivalLater)
      · exact absurd same.symm (others later)
      · exact ih restDistinct later rivalLater

/-- Where no two things have one key, a key says under which name a thing is. -/
theorem name_eq_of_key {β : Type} {key : α → β} {shelf : Shelf α}
    (distinct : (shelf.values.map key).Nodup) {name other : String} {value rival : α}
    (found : shelf.get? name = some value) (rivalFound : shelf.get? other = some rival)
    (same : key value = key rival) : name = other := by
  rw [values, List.map_map] at distinct
  exact name_eq_of_mem distinct (get?_eq_some_iff.1 found) (get?_eq_some_iff.1 rivalFound) same

/-! ### How many there are -/

theorem find_of_below {name : String} {entries : List (String × α)}
    (below : ∀ entry ∈ entries, name < entry.1) : find name entries = none := by
  induction entries with
  | nil => rfl
  | cons first rest ih =>
      have differs : first.1 ≠ name :=
        fun same => String.lt_irrefl name (same ▸ below first List.mem_cons_self)
      rw [find, if_neg differs]
      exact ih fun entry member => below entry (List.mem_cons_of_mem _ member)

theorem length_insertEntry (name : String) (value : α) {entries : List (String × α)}
    (sorted : entries.Pairwise (fun a b => a.1 < b.1)) :
    (insertEntry name value entries).length =
      if (find name entries).isSome then entries.length else entries.length + 1 := by
  induction entries with
  | nil => rfl
  | cons first rest ih =>
      obtain ⟨below, restSorted⟩ := List.pairwise_cons.1 sorted
      simp only [insertEntry]
      split
      · next before =>
          have absent : find name (first :: rest) = none := by
            refine find_of_below fun entry member => ?_
            rcases List.mem_cons.1 member with rfl | later
            · exact before
            · exact String.lt_trans before (below entry later)
          simp [absent]
      · split
        · next same => simp [find, same]
        · next differs =>
            rw [List.length_cons, ih restSorted, find, if_neg (Ne.symm differs)]
            split <;> rfl

theorem length_filter_of_found {name : String} {entries : List (String × α)}
    (sorted : entries.Pairwise (fun a b => a.1 < b.1)) (here : (find name entries).isSome) :
    (entries.filter (·.1 != name)).length + 1 = entries.length := by
  induction entries with
  | nil => cases here
  | cons first rest ih =>
      obtain ⟨below, restSorted⟩ := List.pairwise_cons.1 sorted
      by_cases same : first.1 = name
      · have others : rest.filter (·.1 != name) = rest := by
          refine List.filter_eq_self.2 fun entry member => bne_iff_ne.2 fun clash => ?_
          have before := below entry member
          rw [same, clash] at before
          exact String.lt_irrefl name before
        rw [List.filter_cons_of_neg (by simp [same]), others, List.length_cons]
      · rw [find, if_neg same] at here
        rw [List.filter_cons_of_pos (by simpa using same), List.length_cons, ih restSorted here,
          List.length_cons]

theorem size_insert (shelf : Shelf α) (name : String) (value : α) :
    (shelf.insert name value).size =
      if shelf.contains name then shelf.size else shelf.size + 1 :=
  length_insertEntry name value shelf.sorted

theorem size_erase {shelf : Shelf α} {name : String} (here : shelf.contains name = true) :
    (shelf.erase name).size + 1 = shelf.size :=
  length_filter_of_found shelf.sorted here

end Shelf

end LiveScope
