/- # LiveScope.Proofs.Numerals — padded texts and what digits stand for

What digits and numerals stand for is read off tables here and not from a reader
(`IsDigit`, `IsHexDigit`, `IsNumeral`); the readers agree with the tables. Trimming
undoes padding (`Pads.trim_eq`) and gives a text of which the given one is a padding
(`pads_trim`). Numbers are written with `marks`, none of which is a blank or a comma.
-/
import LiveScope.Text.Blank
import LiveScope.Text.Digits
import Mathlib.Data.List.Forall2
import Mathlib.Data.List.TakeWhile
import Mathlib.Data.Nat.Digits.Defs
import Mathlib.Tactic.IntervalCases

namespace LiveScope

set_option autoImplicit false

namespace Text

/-! ### Padding -/

/-- The text is the core with any number of blanks before and behind it. -/
def Pads (core text : List Char) : Prop :=
  ∃ front back, text = front ++ core ++ back ∧
    (∀ c ∈ front, isBlank c) ∧ ∀ c ∈ back, isBlank c

theorem trim_of_ends {text : List Char} (head : ∀ c ∈ text.head?, isBlank c = false)
    (last : ∀ c ∈ text.getLast?, isBlank c = false) : trim text = text := by
  have unpadded : ∀ other : List Char, (∀ c ∈ other.head?, isBlank c = false) →
      other.dropWhile isBlank = other := by
    intro other bare
    cases other with
    | nil => rfl
    | cons c rest => rw [List.dropWhile_cons, bare c rfl]; rfl
  rw [trim, trimWhile, unpadded text head, unpadded text.reverse, List.reverse_reverse]
  rwa [List.head?_reverse]

theorem trim_of_solid {text : List Char} (solid : ∀ c ∈ text, isBlank c = false) :
    trim text = text :=
  trim_of_ends (fun c found => solid c (List.mem_of_mem_head? found))
    fun c found => solid c (List.mem_of_mem_getLast? found)

theorem pads_trim (text : List Char) : Pads (trim text) text := by
  let rest := text.dropWhile isBlank
  refine ⟨text.takeWhile isBlank, (rest.reverse.takeWhile isBlank).reverse, ?_,
    fun c => List.mem_takeWhile_imp, fun c found => ?_⟩
  · have behind : trim text ++ (rest.reverse.takeWhile isBlank).reverse = rest := by
      rw [trim, trimWhile, ← List.reverse_append, List.takeWhile_append_dropWhile,
        List.reverse_reverse]
    rw [List.append_assoc, behind, List.takeWhile_append_dropWhile]
  · exact List.mem_takeWhile_imp (List.mem_reverse.1 found)

namespace Pads

variable {core text : List Char}

theorem trim_eq (pads : Pads core text) : trim text = trim core := by
  obtain ⟨front, back, rfl, blankFront, blankBack⟩ := pads
  rw [trim, trim, trimWhile, trimWhile, List.append_assoc,
    List.dropWhile_append_of_pos blankFront, List.dropWhile_append]
  split
  · next blank =>
      rw [List.isEmpty_iff.1 blank, List.dropWhile_eq_nil_iff.2 blankBack]
  · have blankBehind : ∀ c ∈ back.reverse, isBlank c :=
      fun c found => blankBack c (List.mem_reverse.1 found)
    rw [List.reverse_append, List.dropWhile_append_of_pos blankBehind]

theorem mem (pads : Pads core text) {c : Char} (found : c ∈ text) : isBlank c ∨ c ∈ core := by
  obtain ⟨front, back, rfl, blankFront, blankBack⟩ := pads
  rcases List.mem_append.1 found with found | found
  · rcases List.mem_append.1 found with found | found
    · exact .inl (blankFront c found)
    · exact .inr found
  · exact .inl (blankBack c found)

end Pads

/-! ### Digits -/

/-- The decimal digit with this value. -/
def IsDigit (c : Char) (value : Nat) : Prop := "0123456789".toList[value]? = some c

theorem IsDigit.lt_ten {c : Char} {value : Nat} (digit : IsDigit c value) : value < 10 :=
  (List.getElem?_eq_some_iff.1 digit).1

/-- A hexadecimal digit with this value, in either case. -/
def IsHexDigit (c : Char) (value : Nat) : Prop :=
  "0123456789abcdef".toList[value]? = some c ∨ "0123456789ABCDEF".toList[value]? = some c

/-- A row of decimal digits and the number it stands for, the first digit counting most. -/
def IsNumeral (text : List Char) (value : Nat) : Prop :=
  text ≠ [] ∧ ∃ digits, List.Forall₂ IsDigit text digits ∧
    value = Nat.ofDigits 10 digits.reverse

/-- The characters of a range are found by their places in it. -/
theorem exists_offset {first last c : Char} (lower : first ≤ c) (upper : c ≤ last) :
    ∃ offset ≤ last.toNat - first.toNat, c = Char.ofNat (first.toNat + offset) := by
  have behind : first.toNat ≤ c.toNat := Char.le_def.1 lower
  have ahead : c.toNat ≤ last.toNat := Char.le_def.1 upper
  refine ⟨c.toNat - first.toNat, by omega, ?_⟩
  rw [Nat.add_sub_cancel' behind, Char.ofNat_toNat]

theorem digit?_eq_some {c : Char} {value : Nat} : digit? c = some value ↔ IsDigit c value := by
  constructor
  · intro read
    rw [digit?, Option.ite_none_right_eq_some] at read
    obtain ⟨⟨lower, upper⟩, place⟩ := read
    obtain ⟨offset, within, rfl⟩ := exists_offset lower upper
    replace within : offset ≤ 9 := within
    interval_cases offset <;> cases place <;> rfl
  · intro listed
    have below := listed.lt_ten
    interval_cases value <;> cases listed <;> rfl

theorem hexDigit?_eq_some {c : Char} {value : Nat} :
    hexDigit? c = some value ↔ IsHexDigit c value := by
  constructor
  · intro read
    rw [hexDigit?] at read
    split at read
    · next bounds =>
        obtain ⟨offset, within, rfl⟩ := exists_offset bounds.1 bounds.2
        replace within : offset ≤ 9 := within
        interval_cases offset <;> cases read <;> exact .inl rfl
    split at read
    · next bounds =>
        obtain ⟨offset, within, rfl⟩ := exists_offset bounds.1 bounds.2
        replace within : offset ≤ 5 := within
        interval_cases offset <;> cases read <;> exact .inl rfl
    split at read
    · next bounds =>
        obtain ⟨offset, within, rfl⟩ := exists_offset bounds.1 bounds.2
        replace within : offset ≤ 5 := within
        interval_cases offset <;> cases read <;> exact .inr rfl
    · cases read
  · rintro (listed | listed)
    all_goals
      have below : value < 16 := (List.getElem?_eq_some_iff.1 listed).1
      interval_cases value <;> cases listed <;> rfl

theorem ofDigits_eq (digits : List Nat) : ofDigits digits = Nat.ofDigits 10 digits.reverse := by
  rw [Nat.ofDigits_eq_foldr, List.foldr_reverse, ofDigits]
  simp only [Nat.add_comm, Nat.mul_comm, Nat.cast_id]

theorem ofDigits_lt {digits : List Nat} (small : ∀ d ∈ digits, d < 10) :
    ofDigits digits < 10 ^ digits.length := by
  rw [ofDigits_eq, ← List.length_reverse]
  exact Nat.ofDigits_lt_base_pow_length (by decide) fun d found => small d (List.mem_reverse.1 found)

/-- Zeros ahead of a numeral do not count. -/
theorem ofDigits_dropWhile (digits : List Nat) :
    ofDigits (digits.dropWhile (· == 0)) = ofDigits digits := by
  induction digits with
  | nil => rfl
  | cons d rest ih =>
      by_cases zero : d = 0
      · subst zero
        exact ih
      · rw [List.dropWhile_cons_of_neg (by simpa using zero)]

/-- A numeral has no more digits than its value needs, once zeros ahead are dropped. -/
theorem pow_length_le {digits : List Nat} (nonzero : ofDigits digits ≠ 0) :
    10 ^ (digits.dropWhile (· == 0)).length ≤ 10 * ofDigits digits := by
  rw [← ofDigits_dropWhile] at nonzero ⊢
  cases lead : digits.dropWhile (· == 0) with
  | nil =>
      rw [lead] at nonzero
      exact absurd rfl nonzero
  | cons d rest =>
      have positive : d ≠ 0 := by
        have kept := List.head?_dropWhile_not (· == 0) digits
        rw [lead] at kept
        simpa using kept
      rw [ofDigits_eq, List.reverse_cons, Nat.ofDigits_append, Nat.ofDigits_singleton,
        List.length_reverse, List.length_cons, Nat.pow_succ, Nat.mul_comm]
      refine Nat.mul_le_mul_left 10 (le_trans ?_ (Nat.le_add_left _ _))
      exact Nat.le_mul_of_pos_right _ (Nat.pos_of_ne_zero positive)

theorem mapM_eq_some {α β : Type} {f : α → Option β} {xs : List α} {ys : List β} :
    xs.mapM f = some ys ↔ List.Forall₂ (fun x y => f x = some y) xs ys := by
  induction xs generalizing ys with
  | nil => simp [eq_comm]
  | cons x xs ih =>
      simp only [List.mapM_cons, Option.bind_eq_bind, Option.bind_eq_some_iff,
        List.forall₂_cons_left_iff, ih]
      constructor
      · rintro ⟨y, first, rest, others, joined⟩
        cases joined
        exact ⟨y, rest, first, others, rfl⟩
      · rintro ⟨y, rest, first, others, rfl⟩
        exact ⟨y, first, rest, others, rfl⟩

/-- The characters that numbers are written with, in base ten or sixteen. -/
def marks : List Char := "+-.0123456789abcdefABCDEF".toList

theorem mark_solid {c : Char} (mark : c ∈ marks) : isBlank c = false ∧ c ≠ ',' := by
  have all : marks.all fun c => !isBlank c && c != ',' := by decide
  simpa using List.all_eq_true.1 all c mark

theorem IsDigit.mark {c : Char} {value : Nat} (digit : IsDigit c value) : c ∈ marks := by
  have within : List.Sublist "0123456789".toList marks := by decide
  exact within.subset (List.mem_of_getElem? digit)

theorem IsHexDigit.mark {c : Char} {value : Nat} (digit : IsHexDigit c value) : c ∈ marks := by
  have lower : List.Sublist "0123456789abcdef".toList marks := by decide
  have upper : List.Sublist "0123456789ABCDEF".toList marks := by decide
  rcases digit with listed | listed
  · exact lower.subset (List.mem_of_getElem? listed)
  · exact upper.subset (List.mem_of_getElem? listed)

theorem mem_marks_of_forall₂ {R : Char → Nat → Prop} {text : List Char} {digits : List Nat}
    (marked : ∀ {c value}, R c value → c ∈ marks) (row : List.Forall₂ R text digits) :
    ∀ c ∈ text, c ∈ marks := by
  induction row with
  | nil => exact fun c found => nomatch found
  | cons first _ ih => exact List.forall_mem_cons.2 ⟨marked first, ih⟩

theorem IsNumeral.mem_marks {text : List Char} {value : Nat} (numeral : IsNumeral text value) :
    ∀ c ∈ text, c ∈ marks := by
  obtain ⟨-, digits, row, -⟩ := numeral
  exact mem_marks_of_forall₂ IsDigit.mark row

theorem mem_takeSign {c : Char} {text : List Char} (found : c ∈ text) :
    c ∈ marks ∨ c ∈ (takeSign text).2 := by
  fun_cases takeSign text
  case case3 => exact .inr found
  all_goals
    rcases List.mem_cons.1 found with rfl | found
    · exact .inl (by decide)
    · exact .inr found

theorem lt_ten_of_mem_takeDigits {text : List Char} {d : Nat}
    (found : d ∈ (takeDigits text).1) : d < 10 := by
  fun_induction takeDigits text with
  | case1 => cases found
  | case2 first rest value read more left taken ih =>
      rcases List.mem_cons.1 found with rfl | found
      · exact (digit?_eq_some.1 read).lt_ten
      · exact ih (by rwa [taken])
  | case3 => cases found

theorem mem_takeDigits {c : Char} {text : List Char} (found : c ∈ text) :
    c ∈ marks ∨ c ∈ (takeDigits text).2 := by
  fun_induction takeDigits text with
  | case1 => exact .inr found
  | case2 first rest d read more left taken ih =>
      rcases List.mem_cons.1 found with rfl | found
      · exact .inl (digit?_eq_some.1 read).mark
      · simpa only [taken] using ih found
  | case3 => exact .inr found

end Text

end LiveScope
