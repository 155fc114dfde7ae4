import Docbase.Proofs.Binary64.Integer
import Docbase.Proofs.Binary64.Scientific
import Mathlib.Order.WithBot

/-!
All numbers on one line. An integer stands at its value, a double at its exact value or, from
`2 ^ 53` up to `10 ^ 19`, at the integer that its decimal spells, and NaN below all others.
Each of the three comparisons agrees with the order of that line, so together they are one
order. What joins them is that a spelled integer reads back as its double: rounding keeps the
order, so the spelled integers of two doubles are ordered as the doubles are.
-/
namespace Docbase

namespace Binary64

/-- The distance from zero at which a double stands. -/
def reach (x : Binary64) : ℚ := if x.isSpelled then x.shortest.toRat else wordValue x.magnitude

/-- Where a double other than NaN stands. -/
def place (x : Binary64) : ℚ := if x.isNegative then -x.reach else x.reach

theorem reach_roundsTo (x : Binary64) : RoundsTo x.reach x.magnitude := by
  unfold reach
  split
  · exact shortest_roundsTo x
  · exact roundsTo_wordValue x.magnitude

theorem reach_congr (x y : Binary64) (h : x.magnitude = y.magnitude) : x.reach = y.reach := by
  have hsignificand : x.significand = y.significand := by rw [significand, significand, h]
  have hexponent : x.exponent = y.exponent := by rw [exponent, exponent, h]
  have hinterval : RoundingInterval.ofBinary64 x = RoundingInterval.ofBinary64 y := by
    simp only [RoundingInterval.ofBinary64, hsignificand, hexponent]
  have hshortest : x.shortest = y.shortest := by
    rw [shortest, shortest, hsignificand, hinterval]
  have hspelled : x.isSpelled = y.isSpelled := by rw [isSpelled, isSpelled, h]
  rw [reach, reach, hshortest, hspelled, h]

/-- The doubles stand in the order of their magnitudes on either side of zero. -/
theorem cmp_reach (x y : Binary64) : cmp x.reach y.reach = cmp x.magnitude y.magnitude := by
  rcases lt_trichotomy x.magnitude y.magnitude with h | h | h
  · rw [(cmp_eq_lt_iff _ _).mpr h,
      (cmp_eq_lt_iff _ _).mpr ((reach_roundsTo x).lt (reach_roundsTo y) h)]
  · rw [reach_congr x y h, h, cmp_self_eq_eq, cmp_self_eq_eq]
  · rw [(cmp_eq_gt_iff _ _).mpr h,
      (cmp_eq_gt_iff _ _).mpr ((reach_roundsTo y).lt (reach_roundsTo x) h)]

theorem reach_pos (x : Binary64) (h : 0 < x.magnitude) : 0 < x.reach :=
  (reach_roundsTo x).pos h

theorem not_isSpelled_zero (x : Binary64) (h : x.magnitude = 0) : x.isSpelled = false := by
  rw [← Bool.not_eq_true, isSpelled_iff, abs_toRat, h, wordValue_zero]
  norm_num

theorem reach_zero (x : Binary64) (h : x.magnitude = 0) : x.reach = 0 := by
  simp [reach, not_isSpelled_zero x h, h]

theorem abs_place (x : Binary64) : |x.place| = x.reach := by
  have hnonneg : 0 ≤ x.reach := by
    rcases Nat.eq_zero_or_pos x.magnitude with h | h
    · rw [reach_zero x h]
    · exact (reach_pos x h).le
  unfold place
  split
  · rw [abs_neg, abs_of_nonneg hnonneg]
  · exact abs_of_nonneg hnonneg

theorem place_of_not_isSpelled (x : Binary64) (h : x.isSpelled = false) :
    x.place = x.toRat := by
  simp [place, reach, toRat_eq, h]

theorem compare_rank_place (x y : Binary64) :
    compare x.rank y.rank = cmp x.place y.place :=
  cmp_signed _ _ _ _ _ _ (reach_pos x) (reach_zero x) (reach_pos y) (reach_zero y)
    (cmp_reach x y)

theorem totalCompare_eq (x y : Binary64) :
    x.totalCompare y =
      cmp (if x.isNaN then ⊥ else (x.place : WithBot ℚ))
        (if y.isNaN then ⊥ else (y.place : WithBot ℚ)) := by
  unfold totalCompare
  cases x.isNaN <;> cases y.isNaN
  · exact (compare_rank_place x y).trans
      (WithBot.coe_strictMono.cmp_map_eq x.place y.place).symm
  · exact ((cmp_eq_gt_iff _ _).mpr (WithBot.bot_lt_coe x.place)).symm
  · exact ((cmp_eq_lt_iff _ _).mpr (WithBot.bot_lt_coe y.place)).symm
  · exact (cmp_self_eq_eq (⊥ : WithBot ℚ)).symm

/-- A double from `2 ^ 53` on has no fractional part. -/
theorem wordValue_of_isSpelled (x : Binary64) (h : x.isSpelled = true) :
    ∃ n : ℕ, wordValue x.magnitude = n := by
  obtain ⟨hlow, -⟩ := (isSpelled_iff x).mp h
  rw [abs_toRat, ← magnitude_value] at hlow
  have hexponent : 0 ≤ x.exponent := by
    by_contra hneg
    have hm : (x.significand : ℚ) < 2 ^ 53 := by exact_mod_cast mantissa_lt x.magnitude
    have hpow := zpow_le_one_of_nonpos₀ (show (1 : ℚ) ≤ 2 by norm_num) (not_le.mp hneg).le
    have hprod := mul_le_mul_of_nonneg_left hpow (Nat.cast_nonneg' x.significand)
    linarith
  obtain ⟨k, hk⟩ := Int.eq_ofNat_of_zero_le hexponent
  refine ⟨x.significand * 2 ^ k, ?_⟩
  rw [← magnitude_value, hk, zpow_natCast]
  push_cast
  rfl

theorem isFinite_of_isSpelled (x : Binary64) (h : x.isSpelled = true) :
    x.isFinite = true := by
  obtain ⟨-, hhigh⟩ := (isSpelled_iff x).mp h
  obtain ⟨w, hw, hvalue⟩ := exists_word_wide
  rw [abs_toRat, ← hvalue, wordValue_strictMono.lt_iff_lt] at hhigh
  exact decide_eq_true (hhigh.trans hw)

/-- A spelled double stands at the integer of its decimal. -/
theorem shortestInt?_of_isSpelled (x : Binary64) (h : x.isSpelled = true) :
    ∃ n : ℤ, x.shortestInt? = some n ∧ x.place = n := by
  obtain ⟨m, hm⟩ := wordValue_of_isSpelled x h
  obtain ⟨k, hk⟩ := Int.eq_ofNat_of_zero_le (exponent_shortest x m hm)
  have hvalue : x.shortest.toRat = (x.shortest.digits * pow10 k : ℕ) := by
    rw [Decimal.toRat, hk, zpow_natCast, pow10_eq]
    push_cast
    rfl
  obtain ⟨hlow, hhigh⟩ := (isSpelled_iff x).mp h
  obtain ⟨u, -, hu⟩ := exists_word_wide
  have hlimit : x.shortest.toRat < 10 ^ 19 := by
    rw [abs_toRat, ← hu] at hhigh
    rw [← hu]
    exact (shortest_roundsTo x).lt_wordValue u hhigh
  have hpos : 0 < x.magnitude := by
    rw [Nat.pos_iff_ne_zero]
    intro hzero
    rw [abs_toRat, hzero, wordValue_zero] at hlow
    norm_num at hlow
  rw [hvalue] at hlimit
  refine ⟨_, shortestInt?_eq x hpos (isFinite_of_isSpelled x h) k hk (by exact_mod_cast hlimit), ?_⟩
  rw [place, reach, if_pos h, hvalue]
  cases x.isNegative <;> simp

/-- The double `2 ^ 53` spells itself. -/
theorem place_exactLimit (x : Binary64) (h : |x.toRat| = 2 ^ 53) : x.place = x.toRat := by
  have hmagnitude : x.magnitude = (ofInt exactLimit).magnitude := by
    apply wordValue_strictMono.injective
    rw [← abs_toRat, h, wordValue_exactLimit]
  have hdecimal : (ofInt exactLimit).shortest = ⟨2 ^ 53, 0⟩ := by decide +kernel
  have hspelled : (ofInt exactLimit).isSpelled = true := by decide +kernel
  have hreach : x.reach = wordValue x.magnitude := by
    rw [reach_congr x _ hmagnitude, reach, if_pos hspelled, hdecimal, hmagnitude,
      wordValue_exactLimit]
    norm_num [Decimal.toRat]
  rw [place, toRat_eq, hreach]

theorem reach_gt_exactLimit (x : Binary64) (h : 2 ^ 53 < |x.toRat|) : 2 ^ 53 < x.reach := by
  rw [abs_toRat, ← wordValue_exactLimit] at h
  rw [← wordValue_exactLimit]
  exact (reach_roundsTo x).wordValue_lt _ h

/-- An integer up to `2 ^ 53` lies on the same side of a spelled double and of its decimal. -/
theorem cmp_place_of_small (i : ℤ) (x : Binary64) (hi : i.natAbs ≤ 2 ^ 53)
    (hx : x.isSpelled = true) : cmp (i : ℚ) x.toRat = cmp (i : ℚ) x.place := by
  obtain ⟨hlow, -⟩ := (isSpelled_iff x).mp hx
  rcases hlow.eq_or_lt with heq | hlt
  · rw [place_exactLimit x heq.symm]
  · have habs : |(i : ℚ)| ≤ 2 ^ 53 := by
      rw [abs_intCast]
      exact_mod_cast hi
    have hreach := reach_gt_exactLimit x hlt
    rw [abs_toRat] at hlt
    obtain ⟨hi', hi''⟩ := abs_le.mp habs
    rw [place, toRat_eq]
    cases x.isNegative with
    | true =>
      rw [if_pos rfl, if_pos rfl, (cmp_eq_gt_iff _ _).mpr (by linarith),
        (cmp_eq_gt_iff _ _).mpr (by linarith)]
    | false =>
      rw [if_neg Bool.false_ne_true, if_neg Bool.false_ne_true,
        (cmp_eq_lt_iff _ _).mpr (by linarith), (cmp_eq_lt_iff _ _).mpr (by linarith)]

/-- Every branch of the comparison of an integer with a double follows the places. -/
theorem compareSpelled_eq (i : ℤ) (x : Binary64) (hi : i.natAbs ≤ 2 ^ 63) :
    x.compareSpelled i =
      cmp ((i : ℚ) : WithBot ℚ) (if x.isNaN then ⊥ else (x.place : WithBot ℚ)) := by
  unfold compareSpelled
  by_cases hnan : x.isNaN = true
  · rw [if_pos hnan, if_pos hnan, (cmp_eq_gt_iff _ _).mpr (WithBot.bot_lt_coe _)]
  rw [if_neg hnan, if_neg hnan, WithBot.coe_strictMono.cmp_map_eq, compare_rank]
  by_cases hspelled : x.isSpelled = true
  · by_cases hsmall : i.natAbs ≤ exactLimit
    · rw [if_pos (by simp [hsmall]), compare_ofInt i x hi (Or.inl hsmall),
        cmp_place_of_small i x hsmall hspelled]
    · obtain ⟨n, hn, hplace⟩ := shortestInt?_of_isSpelled x hspelled
      rw [if_neg (by simp [hsmall, hspelled]), hn, hplace, Int.cast_strictMono.cmp_map_eq,
        cmp_eq_compare i n]
  · rw [Bool.not_eq_true] at hspelled
    rw [if_pos (by simp [hspelled]), place_of_not_isSpelled x hspelled]
    apply compare_ofInt i x hi
    right
    rw [← Bool.not_eq_true, isSpelled_iff, not_and_or, not_le, not_lt] at hspelled
    exact hspelled

end Binary64

namespace Numeric

/-- The place of a number, NaN being lowest. -/
def place : Numeric → WithBot ℚ
  | .int i => ((i : ℚ) : WithBot ℚ)
  | .double x => if x.isNaN then ⊥ else (x.place : WithBot ℚ)

/-- The numbers that occur in values: their integers have 64 bits. -/
def Fits : Numeric → Prop
  | .int i => i.natAbs ≤ 2 ^ 63
  | .double _ => True

/-- Numbers of every pair of widths are compared by their places. -/
theorem compare_eq_cmp_place (a b : Numeric) (ha : a.Fits) (hb : b.Fits) :
    a.compare b = cmp a.place b.place := by
  cases a with
  | int i =>
    cases b with
    | int j =>
      rw [place, place, WithBot.coe_strictMono.cmp_map_eq, Int.cast_strictMono.cmp_map_eq,
        cmp_eq_compare]
      rfl
    | double y => exact y.compareSpelled_eq i ha
  | double x =>
    cases b with
    | int j =>
      rw [← cmp_swap]
      exact congrArg Ordering.swap (x.compareSpelled_eq j hb)
    | double y => exact x.totalCompare_eq y

end Numeric

theorem Value.numeric?_fits (v : Value) (n : Numeric) (h : v.numeric? = some n) : n.Fits := by
  cases v <;> simp only [Value.numeric?, Option.some.injEq, reduceCtorEq] at h
  case int32 i =>
    subst h
    have := i.toInt_lt
    have := i.le_toInt
    simp only [Numeric.Fits]
    omega
  case int64 i =>
    subst h
    have := i.toInt_lt
    have := i.le_toInt
    simp only [Numeric.Fits]
    omega
  case double x =>
    subst h
    trivial

end Docbase
