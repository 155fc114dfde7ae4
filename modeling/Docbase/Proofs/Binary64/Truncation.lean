import Docbase.Proofs.Binary64.Integer

/-!
Truncation drops the fractional part: the distance of the integer from zero is that of the
double, rounded down, and the integer is on the same side of zero.
-/
namespace Docbase.Binary64

theorem natAbs_truncate (x : Binary64) :
    x.truncate.natAbs =
      if x.exponent < 0 then x.significand / pow2 (-x.exponent).toNat
      else x.significand * pow2 x.exponent.toNat := by
  set whole : ℕ := if x.exponent < 0 then x.significand / pow2 (-x.exponent).toNat
    else x.significand * pow2 x.exponent.toNat
  have htruncate : x.truncate = if x.isNegative then -(whole : ℤ) else whole := rfl
  rw [htruncate]
  cases x.isNegative
  · exact Int.natAbs_natCast whole
  · exact (Int.natAbs_neg whole).trans (Int.natAbs_natCast whole)

theorem natAbs_truncate_spec (x : Binary64) :
    (x.truncate.natAbs : ℚ) ≤ |x.toRat| ∧ |x.toRat| < x.truncate.natAbs + 1 := by
  rw [natAbs_truncate, abs_toRat]
  split
  · next he =>
    obtain ⟨hlow, hhigh, -, -⟩ :=
      quotient_spec x.significand (pow2 (-x.exponent).toNat) (Nat.two_pow_pos _)
    have hvalue : (x.significand : ℚ) / (pow2 (-x.exponent).toNat : ℕ) =
        wordValue x.magnitude := by
      rw [significand_scaled x he, pow2_eq, mul_div_cancel_right₀ _ (by positivity)]
    rw [hvalue] at hlow hhigh
    exact ⟨hlow, hhigh⟩
  · next he =>
    obtain ⟨n, hn⟩ := Int.eq_ofNat_of_zero_le (not_lt.mp he)
    have hvalue : ((x.significand * pow2 x.exponent.toNat : ℕ) : ℚ) = wordValue x.magnitude := by
      rw [← magnitude_value, hn, Int.toNat_natCast, zpow_natCast, pow2_eq]
      push_cast
      rfl
    rw [hvalue]
    exact ⟨le_rfl, lt_add_one _⟩

theorem truncate_eq_zero_iff (x : Binary64) : x.truncate = 0 ↔ |x.toRat| < 1 := by
  obtain ⟨hlow, hhigh⟩ := natAbs_truncate_spec x
  rw [← Int.natAbs_eq_zero]
  constructor
  · intro h
    rw [h] at hhigh
    simpa using hhigh
  · intro h
    have hlt : (x.truncate.natAbs : ℚ) < 1 := hlow.trans_lt h
    exact Nat.lt_one_iff.mp (by exact_mod_cast hlt)

/-- A number rounded toward zero. -/
def wholePart (q : ℚ) : ℤ := if 0 ≤ q then ⌊q⌋ else ⌈q⌉

theorem wholePart_intCast (i : ℤ) : wholePart i = i := by
  rw [wholePart, Int.floor_intCast, Int.ceil_intCast, ite_self]

/-- The integer on the same side of zero that is less than one closer to it. -/
theorem wholePart_eq (q : ℚ) (n : ℕ) (hlow : (n : ℚ) ≤ |q|) (hhigh : |q| < n + 1) :
    wholePart q = if 0 ≤ q then (n : ℤ) else -n := by
  unfold wholePart
  split
  · next hq =>
    rw [abs_of_nonneg hq] at hlow hhigh
    exact Int.floor_eq_iff.mpr ⟨by exact_mod_cast hlow, by exact_mod_cast hhigh⟩
  · next hq =>
    rw [abs_of_neg (not_le.mp hq)] at hlow hhigh
    rw [Int.ceil_eq_iff]
    push_cast
    exact ⟨by linarith, by linarith⟩

theorem truncate_eq_wholePart (x : Binary64) : x.truncate = wholePart x.toRat := by
  obtain ⟨hlow, hhigh⟩ := natAbs_truncate_spec x
  have hmagnitude := wordValue_nonneg x.magnitude
  have hsigned : x.truncate =
      if x.isNegative then -(x.truncate.natAbs : ℤ) else x.truncate.natAbs := by
    rw [natAbs_truncate]
    rfl
  rw [wholePart_eq _ _ hlow hhigh]
  refine hsigned.trans ?_
  cases hsign : x.isNegative with
  | false =>
    have hnonneg : 0 ≤ x.toRat := by simpa [toRat_eq, hsign] using hmagnitude
    simp [hnonneg]
  | true =>
    have hnonpos : x.toRat ≤ 0 := by simpa [toRat_eq, hsign] using hmagnitude
    rw [if_pos rfl]
    by_cases hzero : 0 ≤ x.toRat
    · -- A negative zero is on both sides.
      have htruncate : x.truncate = 0 := by
        rw [truncate_eq_zero_iff, le_antisymm hnonpos hzero]
        simp
      simp [htruncate]
    · rw [if_neg hzero]

end Docbase.Binary64
