/- # LiveScope.Proofs.Naming — a chosen name is free

The search for a free name tries the base and then the numbered candidates from
two on. Distinct numbers give distinct candidates (`numbered_inj`), so among
`used.length + 1` of them one is free, and the bound on the search never cuts it
short: `firstFree_spec` says what the search stops at, `fresh_spec` what a name
is, `fresh_not_mem` that it is free.
-/
import LiveScope.Shape.Naming
import Mathlib.Data.List.Nodup

namespace LiveScope.Naming

set_option autoImplicit false

/-! ### Numbered candidates -/

theorem toString_inj {m n : Nat} : toString m = toString n ↔ m = n := by
  refine ⟨fun same => ?_, congrArg toString⟩
  simp only [Nat.toString_eq_repr] at same
  have digits := congrArg (fun shown => Nat.ofDigitChars 10 shown.toList 0) same
  simpa using digits

theorem numbered_inj {base : String} {m n : Nat} :
    numbered base m = numbered base n ↔ m = n := by
  rw [numbered, numbered, String.append_right_inj, toString_inj]

/-- A list of names that holds `count` numbered candidates in a row is at least
that long. -/
theorem length_of_numbered_mem {used : List String} (base : String) (start : Nat) {count : Nat}
    (taken : ∀ m, start ≤ m → m < start + count → numbered base m ∈ used) :
    count ≤ used.length := by
  let candidates := (List.range' start count).map (numbered base)
  have distinct : candidates.Nodup := by
    refine List.Nodup.map ?_ (List.nodup_range' 1)
    intro m n same
    exact numbered_inj.1 same
  have within : candidates ⊆ used := by
    intro name member
    obtain ⟨m, inRange, rfl⟩ := List.mem_map.1 member
    obtain ⟨lower, upper⟩ := List.mem_range'_1.1 inRange
    exact taken m lower upper
  have bound := distinct.length_le_of_subset within
  simpa [candidates] using bound

/-! ### The search -/

/-- The search stops at the least free number, or at the last one it may try. -/
theorem firstFree_eq_numbered (used : List String) (base : String) :
    ∀ tries start : Nat, ∃ n, start ≤ n ∧ firstFree used base tries start = numbered base n ∧
      (∀ m, start ≤ m → m < n → numbered base m ∈ used) ∧
      (numbered base n ∉ used ∨ n = start + tries)
  | 0, start => ⟨start, Nat.le_refl _, rfl, by intro m lower upper; omega, .inr rfl⟩
  | tries + 1, start => by
      simp only [firstFree]
      split
      · next taken =>
          obtain ⟨n, lower, found, below, stop⟩ :=
            firstFree_eq_numbered used base tries (start + 1)
          refine ⟨n, by omega, found, ?_, ?_⟩
          · intro m from_ upper
            rcases Nat.eq_or_lt_of_le from_ with rfl | later
            · exact taken
            · exact below m later upper
          · exact stop.imp_right fun last => by omega
      · next free =>
          exact ⟨start, Nat.le_refl _, rfl, by intro m lower upper; omega, .inl free⟩

/-- As many tries as there are used names are enough. -/
theorem firstFree_spec (used : List String) (base : String) (start : Nat) :
    ∃ n, start ≤ n ∧ firstFree used base used.length start = numbered base n ∧
      numbered base n ∉ used ∧ ∀ m, start ≤ m → m < n → numbered base m ∈ used := by
  obtain ⟨n, lower, found, below, stop⟩ := firstFree_eq_numbered used base used.length start
  refine ⟨n, lower, found, ?_, below⟩
  rcases stop with free | last
  · exact free
  · -- with the last candidate taken too there would be more candidates than names
    intro taken
    have crowded : used.length + 1 ≤ used.length :=
      length_of_numbered_mem base start fun m from_ upper => by
        rcases Nat.lt_or_ge m n with earlier | atLast
        · exact below m from_ earlier
        · have : m = n := by omega
          exact this ▸ taken
    omega

/-- A chosen name is the base if that is free, and else the base with the least
number from two on that makes it free. -/
theorem fresh_spec (used : List String) (base : String) :
    (base ∉ used ∧ fresh used base = base) ∨
      (base ∈ used ∧ ∃ n, 2 ≤ n ∧ fresh used base = numbered base n ∧
        numbered base n ∉ used ∧ ∀ m, 2 ≤ m → m < n → numbered base m ∈ used) := by
  unfold fresh
  split
  · next taken => exact .inr ⟨taken, firstFree_spec used base 2⟩
  · next free => exact .inl ⟨free, rfl⟩

theorem fresh_not_mem (used : List String) (base : String) : fresh used base ∉ used := by
  rcases fresh_spec used base with ⟨free, same⟩ | ⟨-, n, -, same, free, -⟩
  · rwa [same]
  · rwa [same]

/-- A used name set grows by names that were not in it. -/
theorem nodup_fresh {used : List String} (distinct : used.Nodup) (base : String) :
    (used ++ [fresh used base]).Nodup := by
  rw [List.nodup_append]
  refine ⟨distinct, by simp, ?_⟩
  intro name member other single same
  rw [List.mem_singleton.1 single] at same
  exact fresh_not_mem used base (same ▸ member)

end LiveScope.Naming
