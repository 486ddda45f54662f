/- # LiveScope.Proofs.Palette.Range — which alphas are in range

An alpha counts by the binary64 number nearest to it, with its sign (`Alpha.nearest?`).
The check of its range does without that number in two cases, where computing it would
take long: if the first digit other than zero stands far behind the point, and if it
stands before the last place in front of it. The check is right in both
(`Alpha.inRange_iff`): a quotient below `2^-1126` is nearest to zero, and one that is two
or more has a nearest number above one, unless it lies beyond the largest.
-/
import LiveScope.Palette.Alpha
import LiveScope.Proofs.Numerals
import Mathlib.Algebra.Order.Field.Rat
import Mathlib.Algebra.Order.Field.Power
import Mathlib.Tactic.Ring
import Mathlib.Tactic.Positivity

namespace LiveScope

set_option autoImplicit false

/-! ### Magnitudes -/

namespace Binary64

/-- The magnitude as a rational number. -/
def value (x : Binary64) : ℚ := x.mantissa * 2 ^ x.exponent

theorem value_nonneg (x : Binary64) : 0 ≤ x.value :=
  mul_nonneg (Nat.cast_nonneg _) (zpow_nonneg (by decide) _)

theorem value_eq_zero {x : Binary64} : x.value = 0 ↔ x.isZero = true := by
  have base : (2 : ℚ) ^ x.exponent ≠ 0 := zpow_ne_zero _ (by decide)
  rw [value, mul_eq_zero_iff_right base, Nat.cast_eq_zero, isZero, beq_iff_eq]

theorem two_zpow (exponent : Int) :
    (2 : ℚ) ^ exponent = (2 ^ exponent.toNat : Nat) / (2 ^ (-exponent).toNat : Nat) := by
  rw [Nat.cast_pow, Nat.cast_pow, Nat.cast_ofNat, ← zpow_natCast, ← zpow_natCast,
    ← zpow_sub₀ two_ne_zero, Int.toNat_sub_toNat_neg]

theorem value_le_one {x : Binary64} : x.value ≤ 1 ↔ x.toQuotient.1 ≤ x.toQuotient.2 := by
  have positive : (0 : ℚ) < (2 ^ (-x.exponent).toNat : Nat) := by positivity
  rw [value, two_zpow, ← mul_div_assoc, div_le_one positive, ← Nat.cast_mul, Nat.cast_le]
  rfl

/-! ### Rounding -/

theorem div_le_divideToEven (num den : Nat) : num / den ≤ divideToEven num den := by
  rw [divideToEven]
  split
  · exact Nat.le_refl _
  · split
    · exact Nat.le_succ _
    · exact Nat.le_add_right _ _

theorem divideToEven_of_small {num den : Nat} (small : 2 * num < den) :
    divideToEven num den = 0 := by
  have below : num < den := by omega
  rw [divideToEven, Nat.mod_eq_of_lt below, if_pos small, Nat.div_eq_of_lt below]

theorem exponentOf_le (num den : Nat) : exponentOf num den ≤
    max ((num.log2 : Int) - (den.log2 : Int) - 52) leastExponent := by
  simp only [exponentOf]
  split <;> omega

theorem leastExponent_le_exponentOf (num den : Nat) : leastExponent ≤ exponentOf num den :=
  le_max_right _ _

/-- A quotient that is as good as zero. -/
theorem ofQuotient?_of_tiny {num den gap : Nat} (wide : 1126 ≤ gap)
    (tiny : num * 2 ^ gap ≤ den) : ofQuotient? num den = some zero := by
  rw [ofQuotient?]
  split
  · rfl
  · next nonzero =>
      have apart : num.log2 + gap ≤ den.log2 := by
        refine Nat.le_of_lt_succ ((Nat.pow_lt_pow_iff_right (a := 2) (by decide)).1 ?_)
        calc 2 ^ (num.log2 + gap) = 2 ^ num.log2 * 2 ^ gap := Nat.pow_add _ _ _
          _ ≤ num * 2 ^ gap := Nat.mul_le_mul_right _ (Nat.log2_self_le nonzero)
          _ ≤ den := tiny
          _ < 2 ^ (den.log2 + 1) := Nat.lt_log2_self
      have least : exponentOf num den = leastExponent := by
        have bound := exponentOf_le num den
        have := leastExponent_le_exponentOf num den
        simp only [leastExponent] at *
        omega
      have small : 2 * (scaleDown num den leastExponent).1 <
          (scaleDown num den leastExponent).2 := by
        have places : (-leastExponent).toNat + 1 < gap := Nat.lt_of_lt_of_le (by decide) wide
        calc 2 * (num * Nat.pow 2 (-leastExponent).toNat)
            = num * 2 ^ ((-leastExponent).toNat + 1) := by rw [Nat.pow_eq, Nat.pow_succ]; ring
          _ < num * 2 ^ gap := Nat.mul_lt_mul_of_pos_left
              (Nat.pow_lt_pow_right (by decide) places) (Nat.pos_of_ne_zero nonzero)
          _ ≤ den := tiny
          _ = den * Nat.pow 2 leastExponent.toNat := (Nat.mul_one den).symm
      simp only [least, divideToEven_of_small small]
      rfl

/-- A quotient of two or more is no less than two in units of its exponent. -/
theorem two_le_scaled {num den : Nat} (positive : 0 < den) (least : 2 * den ≤ num) :
    2 * (den * 2 ^ (exponentOf num den).toNat) ≤ num := by
  let shift := (exponentOf num den).toNat
  have nonzero : num ≠ 0 := by omega
  have bound := exponentOf_le num den
  -- a positive exponent is at most the difference of the lengths less 52, where the
  -- quotient has bits to spare
  by_cases inside : shift = 0
  · show 2 * (den * 2 ^ shift) ≤ num
    rwa [inside, Nat.pow_zero, Nat.mul_one]
  · have apart : den.log2 + 1 + (shift + 1) ≤ num.log2 := by
      simp only [shift, leastExponent] at *
      omega
    calc 2 * (den * 2 ^ shift) = den * 2 ^ (shift + 1) := by ring
      _ ≤ 2 ^ (den.log2 + 1) * 2 ^ (shift + 1) :=
          Nat.mul_le_mul_right _ (Nat.le_of_lt Nat.lt_log2_self)
      _ = 2 ^ (den.log2 + 1 + (shift + 1)) := (Nat.pow_add _ _ _).symm
      _ ≤ 2 ^ num.log2 := Nat.pow_le_pow_right (by decide) apart
      _ ≤ num := Nat.log2_self_le nonzero

theorem value_of_ofQuotient? {num den : Nat} {x : Binary64} (nonzero : num ≠ 0)
    (found : ofQuotient? num den = some x) :
    let scaled := scaleDown num den (exponentOf num den)
    x.value = divideToEven scaled.1 scaled.2 * 2 ^ exponentOf num den := by
  intro scaled
  rw [ofQuotient?, if_neg nonzero] at found
  simp only [Option.ite_none_right_eq_some, Option.some.injEq] at found
  obtain ⟨-, rfl⟩ := found
  split
  · next carried =>
      have mantissa : divideToEven scaled.1 scaled.2 = 2 ^ 53 := carried
      simp only [value, mantissa, Nat.pow_eq, Nat.cast_pow, Nat.cast_ofNat]
      rw [zpow_add_one₀ two_ne_zero]
      ring
  · rfl

/-- A quotient of two or more does not round to one. -/
theorem one_lt_of_ofQuotient? {num den : Nat} {x : Binary64} (positive : 0 < den)
    (least : 2 * den ≤ num) (found : ofQuotient? num den = some x) : 1 < x.value := by
  have nonzero : num ≠ 0 := by omega
  let shift := exponentOf num den
  let units := divideToEven (num * 2 ^ (-shift).toNat) (den * 2 ^ shift.toNat)
  have value : x.value = units * 2 ^ shift := value_of_ofQuotient? nonzero found
  have enough : 2 * 2 ^ (-shift).toNat ≤ units := by
    refine le_trans ((Nat.le_div_iff_mul_le (by positivity)).2 ?_) (div_le_divideToEven _ _)
    calc 2 * 2 ^ (-shift).toNat * (den * 2 ^ shift.toNat)
        = 2 * (den * 2 ^ shift.toNat) * 2 ^ (-shift).toNat := by ring
      _ ≤ num * 2 ^ (-shift).toNat := Nat.mul_le_mul_right _ (two_le_scaled positive least)
  have two : (2 : ℚ) ≤ units * 2 ^ shift := by
    have scaled : 2 * 2 ^ (-shift).toNat ≤ units * 2 ^ shift.toNat :=
      le_trans enough (Nat.le_mul_of_pos_right _ (by positivity))
    rw [two_zpow, ← mul_div_assoc, le_div_iff₀ (by positivity)]
    exact_mod_cast scaled
  rw [value]
  exact lt_of_lt_of_le one_lt_two two

end Binary64

/-! ### Alphas -/

namespace Palette.Alpha

open Text (ofDigits takeDigits)

variable {alpha : Alpha}

/-- The binary64 number nearest to the alpha, with its sign, if there is one: numbers
beyond the largest are nearest to none. -/
def nearest? (alpha : Alpha) : Option ℚ :=
  alpha.magnitude?.map fun x => if alpha.negative then -x.value else x.value

/-- An alpha that counts as zero is nearest to zero. -/
theorem magnitude?_of_isZero (small : ∀ d ∈ alpha.digits, d < 10)
    (vanishes : alpha.isZero = true) : alpha.magnitude? = some .zero := by
  rw [isZero, Bool.or_eq_true, beq_iff_eq, decide_eq_true_eq] at vanishes
  rcases vanishes with zero | behind
  · rw [magnitude?, zero, Nat.zero_mul]
    rfl
  · let lead := (alpha.digits.dropWhile (· == 0)).length
    have below : ofDigits alpha.digits < 10 ^ lead := by
      rw [← Text.ofDigits_dropWhile]
      exact Text.ofDigits_lt fun d found => small d ((List.dropWhile_sublist _).subset found)
    have whole : alpha.power.toNat = 0 := by
      simp only [reach, negligible] at behind
      omega
    obtain ⟨gap, wide, places⟩ : ∃ gap, 400 ≤ gap ∧ lead + gap = (-alpha.power).toNat := by
      simp only [reach, negligible] at behind
      exact ⟨(-alpha.power).toNat - lead, by omega, by omega⟩
    refine Binary64.ofQuotient?_of_tiny (by omega : 1126 ≤ 3 * gap) ?_
    calc ofDigits alpha.digits * Nat.pow 10 alpha.power.toNat * 2 ^ (3 * gap)
        = ofDigits alpha.digits * (2 ^ 3) ^ gap := by
          rw [whole, Nat.pow_mul]
          exact congrArg (· * _) (Nat.mul_one _)
      _ ≤ 10 ^ lead * 10 ^ gap :=
          Nat.mul_le_mul (Nat.le_of_lt below) (Nat.pow_le_pow_left (by decide) gap)
      _ = 10 ^ (lead + gap) := (Nat.pow_add _ _ _).symm
      _ = Nat.pow 10 (-alpha.power).toNat := by rw [places, Nat.pow_eq]

/-- An alpha with a digit before the last place in front of the point is nearest to a
number above one, if to any. -/
theorem one_lt_of_reach {x : Binary64} (nonzero : ofDigits alpha.digits ≠ 0)
    (far : 1 < alpha.reach) (found : alpha.magnitude? = some x) : 1 < x.value := by
  let lead := (alpha.digits.dropWhile (· == 0)).length
  let whole := alpha.power.toNat
  let behind := (-alpha.power).toNat
  have places : behind + 2 ≤ lead + whole := by
    simp only [reach] at far
    omega
  refine Binary64.one_lt_of_ofQuotient? (Nat.pow_pos (by decide)) ?_ found
  -- tenfold, since the first digit only bounds ten times the number by its length
  have tenfold : 10 * (2 * 10 ^ behind) ≤ 10 * (ofDigits alpha.digits * 10 ^ whole) :=
    calc 10 * (2 * 10 ^ behind) ≤ 10 ^ (behind + 2) := by rw [Nat.pow_add]; omega
      _ ≤ 10 ^ (lead + whole) := Nat.pow_le_pow_right (by decide) places
      _ = 10 ^ lead * 10 ^ whole := Nat.pow_add _ _ _
      _ ≤ 10 * ofDigits alpha.digits * 10 ^ whole :=
          Nat.mul_le_mul_right _ (Text.pow_length_le nonzero)
      _ = 10 * (ofDigits alpha.digits * 10 ^ whole) := Nat.mul_assoc _ _ _
  exact Nat.le_of_mul_le_mul_left tenfold (by decide)

theorem atMostOne_iff {x : Binary64} : atMostOne x = true ↔ x.value ≤ 1 := by
  rw [Binary64.value_le_one]
  exact decide_eq_true_iff

/-- What the check asks of a magnitude is that with the sign it lies between zero and one. -/
theorem nearest?_within_iff :
    (∃ a, alpha.nearest? = some a ∧ 0 ≤ a ∧ a ≤ 1) ↔ ∃ x, alpha.magnitude? = some x ∧
      (if alpha.negative then x.isZero else atMostOne x) = true := by
  simp only [nearest?, Option.map_eq_some_iff]
  have within (x : Binary64) : (if alpha.negative then x.isZero else atMostOne x) = true ↔
      0 ≤ (if alpha.negative then -x.value else x.value) ∧
        (if alpha.negative then -x.value else x.value) ≤ 1 := by
    have positive := x.value_nonneg
    cases alpha.negative with
    | true =>
        rw [if_pos rfl, if_pos rfl, ← Binary64.value_eq_zero, neg_nonneg]
        constructor
        · intro zero
          exact ⟨le_of_eq zero, by rw [zero, neg_zero]; exact zero_le_one⟩
        · rintro ⟨atMostZero, -⟩
          exact le_antisymm atMostZero positive
    | false =>
        rw [if_neg Bool.false_ne_true, if_neg Bool.false_ne_true, atMostOne_iff]
        exact (and_iff_right positive).symm
  constructor
  · rintro ⟨a, ⟨x, found, rfl⟩, bounds⟩
    exact ⟨x, found, (within x).2 bounds⟩
  · rintro ⟨x, found, passes⟩
    exact ⟨_, ⟨x, found, rfl⟩, (within x).1 passes⟩

/-- **The check of the range is right.** It holds of the alphas whose nearest number lies
between zero and one. -/
theorem inRange_iff (small : ∀ d ∈ alpha.digits, d < 10) :
    alpha.inRange = true ↔ ∃ a, alpha.nearest? = some a ∧ 0 ≤ a ∧ a ≤ 1 := by
  rw [nearest?_within_iff, inRange]
  split
  · next vanishes =>
      refine iff_of_true rfl ⟨.zero, magnitude?_of_isZero small vanishes, ?_⟩
      have value : Binary64.zero.value = 0 := Binary64.value_eq_zero.2 rfl
      split
      · rfl
      · exact atMostOne_iff.2 (le_of_eq_of_le value zero_le_one)
  · next remains =>
      have nonzero : ofDigits alpha.digits ≠ 0 := by
        intro zero
        exact remains (by rw [isZero, zero]; rfl)
      split
      · next far =>
          refine iff_of_false Bool.false_ne_true ?_
          rintro ⟨x, found, passes⟩
          have great := one_lt_of_reach nonzero far found
          split at passes
          · rw [Binary64.value_eq_zero.2 passes] at great
            exact absurd great (not_lt.2 zero_le_one)
          · exact absurd (atMostOne_iff.1 passes) (not_le.2 great)
      · split
        · next x found => simp only [found, Option.some.injEq, exists_eq_left']
        · next overflow => simp [overflow]

theorem small_of_mem_takeFraction {text : List Char} {d : Nat}
    (found : d ∈ (takeFraction text).1) : d < 10 := by
  unfold takeFraction at found
  split at found
  · exact Text.lt_ten_of_mem_takeDigits found
  · cases found

theorem small_of_parse {text : List Char} (read : parse text = some alpha) :
    ∀ d ∈ alpha.digits, d < 10 := by
  simp only [parse, Option.ite_none_left_eq_some, Option.map_eq_some_iff] at read
  obtain ⟨-, power, -, rfl⟩ := read
  intro d found
  rcases List.mem_append.1 found with found | found
  · exact Text.lt_ten_of_mem_takeDigits found
  · exact small_of_mem_takeFraction found

end Palette.Alpha

end LiveScope
