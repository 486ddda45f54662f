/- # LiveScope.Proofs.Claiming — how long the search for a free name goes on

Whoever takes a name tries the base and then its numbered candidates, with nothing
to stop it but a free one: `Search` says so, without any bound. It goes through
consecutive numbers (`search_range'`), all but the last of which are taken; the base
is taken too and is no candidate (`length_of_base_mem`). So there are at most as many
tries as there are names in use, and the bound that `firstFree` is given never shows:
the name that is taken is the one the search stops at (`claim_stops`).
-/
import LiveScope.Proofs.Naming
import Mathlib.Algebra.Ring.Nat
import Mathlib.Data.Finset.Card

namespace LiveScope.Naming

set_option autoImplicit false

/-- The search for a free name from the `n`-th candidate on: the numbers it tries, one
after the other, up to the first that is free. -/
inductive Search (used : List String) (base : String) : Nat → List Nat → Prop
  | stop {n : Nat} (free : numbered base n ∉ used) : Search used base n [n]
  | next {n : Nat} {tried : List Nat} (taken : numbered base n ∈ used)
      (later : Search used base (n + 1) tried) : Search used base n (n :: tried)

variable {used : List String} {base : String}

/-- If the candidates before a free one are taken, the search tries them all, and stops
there. -/
theorem search_range' (count : Nat) {start : Nat}
    (taken : ∀ m, start ≤ m → m < start + count → numbered base m ∈ used)
    (free : numbered base (start + count) ∉ used) :
    Search used base start (List.range' start (count + 1)) := by
  induction count generalizing start with
  | zero => exact .stop free
  | succ count ih =>
      refine .next (taken start (Nat.le_refl _) (by omega)) (ih ?_ ?_)
      · exact fun m lower upper => taken m (by omega) (by omega)
      · rwa [Nat.add_right_comm]

theorem base_ne_numbered (base : String) (n : Nat) : base ≠ numbered base n := by
  intro same
  have lengths := congrArg String.length same
  have underscore : "_".length = 1 := rfl
  rw [numbered, String.length_append, String.length_append] at lengths
  omega

/-- Names that hold the base and `count` of its candidates in a row are more than
`count`, however often a name is listed. -/
theorem length_of_base_mem {start count : Nat} (taken : base ∈ used)
    (row : ∀ m, start ≤ m → m < start + count → numbered base m ∈ used) :
    count < used.toFinset.card := by
  have others : ∀ m, start ≤ m → m < start + count →
      numbered base m ∈ (used.toFinset.erase base).toList := by
    intro m lower upper
    rw [Finset.mem_toList, Finset.mem_erase, List.mem_toFinset]
    exact ⟨(base_ne_numbered base m).symm, row m lower upper⟩
  have bound := length_of_numbered_mem base start others
  rw [Finset.length_toList, Finset.card_erase_of_mem (List.mem_toFinset.2 taken)] at bound
  have filled : 0 < used.toFinset.card := Finset.card_pos.2 ⟨base, List.mem_toFinset.2 taken⟩
  omega

theorem toFinset_claim (used : List String) (base : String) :
    (claim used base).2.toFinset = insert (claim used base).1 used.toFinset := by
  ext name
  simp only [claim, List.toFinset_append, List.toFinset_cons, List.toFinset_nil, Finset.mem_union,
    Finset.mem_insert, List.mem_toFinset, Finset.notMem_empty, or_false]
  exact or_comm

/-- A claimed name was free and is the only one that is added to the names in use. It is
the base, or the search goes through no more numbers than there were names, and it is the
candidate at the last of them. So the numbers stay below the count of names and two, and
a counter of 32 bits with a sign holds them all if there are fewer than `2 ^ 31 - 2`
names. -/
theorem claim_stops (used : List String) (base : String) :
    (claim used base).1 ∉ used ∧
      (claim used base).2.toFinset = insert (claim used base).1 used.toFinset ∧
      ((base ∉ used ∧ (claim used base).1 = base) ∨
        (base ∈ used ∧ ∃ tried last, Search used base 2 tried ∧ tried.getLast? = some last ∧
          (claim used base).1 = numbered base last ∧
          tried.length ≤ used.toFinset.card ∧
          (∀ n ∈ tried, n ≤ used.toFinset.card + 1) ∧
          (used.toFinset.card < 2 ^ 31 - 2 → ∀ n ∈ tried, (Int32.ofNat n).toInt = n))) := by
  refine ⟨fresh_not_mem used base, toFinset_claim used base, ?_⟩
  rcases fresh_spec used base with ⟨free, same⟩ | ⟨taken, last, lower, same, free, below⟩
  · exact .inl ⟨free, same⟩
  · obtain ⟨count, rfl⟩ : ∃ count, last = 2 + count := Nat.exists_eq_add_of_le lower
    have fewer : count < used.toFinset.card := length_of_base_mem taken below
    have within : ∀ n ∈ List.range' 2 (count + 1), n ≤ used.toFinset.card + 1 := by
      intro n member
      obtain ⟨-, upper⟩ := List.mem_range'_1.1 member
      omega
    refine .inr ⟨taken, List.range' 2 (count + 1), 2 + count, search_range' count below free, ?_,
      same, ?_, within, ?_⟩
    · rw [List.range'_concat, List.getLast?_concat, Nat.one_mul]
    · rw [List.length_range']
      exact fewer
    · intro few n member
      have bound := within n member
      exact Int32.toInt_ofNat_of_lt (by omega)

/-- The base is in use, and so are two of its candidates and one name that only looks
like the next. -/
theorem claim_stops_crowded :
    (claim ["a", "a_2", "a_3", "a_04"] "a").1 = "a_4" ∧
      (claim ["a", "a_2", "a_3", "a_04"] "a").1 ∉ ["a", "a_2", "a_3", "a_04"] ∧
      ∃ tried last, Search ["a", "a_2", "a_3", "a_04"] "a" 2 tried ∧ tried.getLast? = some last ∧
        (claim ["a", "a_2", "a_3", "a_04"] "a").1 = numbered "a" last ∧
        ∀ n ∈ tried, (Int32.ofNat n).toInt = n := by
  obtain ⟨free, -, ⟨absent, -⟩ | ⟨-, tried, last, search, atEnd, named, -, -, held⟩⟩ :=
    claim_stops ["a", "a_2", "a_3", "a_04"] "a"
  · exact absurd List.mem_cons_self absent
  · exact ⟨by decide +kernel, free, tried, last, search, atEnd, named, held (by decide)⟩

end LiveScope.Naming
