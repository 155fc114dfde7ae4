import Docbase.Proofs.Binary64.Integer
import Docbase.Proofs.Binary64.Shortest

/-!
Decimals as doubles. A decimal that rounds to a finite magnitude is read as it, also where
the exponent alone decides.
-/
namespace Docbase.Binary64

theorem wordValue_infinityWord : wordValue infinityWord = 2 ^ (1024 : ℤ) := by
  have hbinade : binade infinityWord = 2046 := by decide
  have hmantissa : mantissa infinityWord = 2 ^ 52 := by decide
  rw [wordValue_eq, hbinade, hmantissa, pow_mul_unit 2046 972 (by norm_num)]
  rw [Nat.cast_pow, Nat.cast_ofNat, ← zpow_natCast, ← zpow_add₀ two_ne_zero]
  rfl

/-- A tenth to some power is below an eighth to the same. -/
theorem pow_ten_le (k : ℕ) : (10 : ℚ) ^ (-k : ℤ) ≤ 2 ^ (-(3 * k : ℕ) : ℤ) := by
  rw [zpow_neg, zpow_neg, zpow_natCast, zpow_natCast, pow_mul]
  gcongr
  norm_num

theorem lt_of_decimalLimit (digits : ℕ) (exponent : ℤ) (hd : digits ≠ 0)
    (h : decimalLimit < exponent) : 2 ^ (1024 : ℤ) < (digits : ℚ) * 10 ^ exponent := by
  have hone : (1 : ℚ) ≤ digits := by exact_mod_cast Nat.one_le_iff_ne_zero.mpr hd
  calc (2 : ℚ) ^ (1024 : ℤ) < 2 ^ ((3 * 400 : ℕ) : ℤ) :=
        zpow_lt_zpow_right₀ one_lt_two (by norm_num)
    _ = (2 ^ 3) ^ 400 := by rw [zpow_natCast, pow_mul]
    _ ≤ 10 ^ (400 : ℤ) := pow_le_pow_left₀ (by norm_num) (by norm_num) 400
    _ ≤ 10 ^ exponent := zpow_le_zpow_right₀ (by norm_num) h.le
    _ ≤ digits * 10 ^ exponent := le_mul_of_one_le_left (by positivity) hone

theorem lt_of_decimalLimit_neg (digits : ℕ) (exponent : ℤ)
    (h : exponent < -decimalLimit - digits.log2) :
    2 * ((digits : ℚ) * 10 ^ exponent) < 2 ^ (-1074 : ℤ) := by
  have hdigits : (digits : ℚ) < 2 ^ (digits.log2 + 1) := by
    exact_mod_cast Nat.lt_log2_self
  have hlimit : decimalLimit = 400 := rfl
  obtain ⟨k, hk⟩ : ∃ k : ℕ, exponent = -k := ⟨exponent.natAbs, by omega⟩
  calc 2 * ((digits : ℚ) * 10 ^ exponent)
      ≤ 2 * (2 ^ (digits.log2 + 1) * 2 ^ (-(3 * k : ℕ) : ℤ)) := by
        rw [hk]
        gcongr
        exact pow_ten_le k
    _ = 2 ^ ((digits.log2 + 2 : ℕ) - (3 * k : ℕ) : ℤ) := by
        rw [sub_eq_add_neg, zpow_add₀ two_ne_zero, zpow_natCast, pow_succ' 2 (digits.log2 + 1)]
        ring
    _ < 2 ^ (-1074 : ℤ) := zpow_lt_zpow_right₀ one_lt_two (by push_cast; omega)

theorem ofDecimal_eq (negative : Bool) (digits : ℕ) (exponent : ℤ) (w : ℕ)
    (hw : w < infinityWord) (h : RoundsTo ((digits : ℚ) * 10 ^ exponent) w) :
    ofDecimal negative digits exponent = ofMagnitude negative w := by
  unfold ofDecimal
  dsimp only
  split_ifs with hdigits hhigh hlow hpos
  · rw [hdigits, Nat.cast_zero, zero_mul] at h
    rw [h.unique roundsTo_zero]
  · have hvalue := lt_of_decimalLimit digits exponent hdigits hhigh
    have hupper := h.upper
    have hlast := wordValue_strictMono.monotone (Nat.succ_le_of_lt hw)
    have hprevious := wordValue_strictMono hw
    rw [wordValue_infinityWord] at hlast hprevious
    linarith
  · have hvalue := lt_of_decimalLimit_neg digits exponent hlow
    have hsmall : RoundsTo ((digits : ℚ) * 10 ^ exponent) 0 := by
      refine ⟨?_, ?_, by norm_num⟩
      · simp only [Nat.zero_sub, wordValue_zero, add_zero]
        positivity
      · have hunit : wordValue 1 = 2 ^ (-1074 : ℤ) := by
          simp [wordValue, units, mantissa, binade, unit]
        rw [wordValue_zero, zero_add, hunit]
        exact hvalue.le
    rw [h.unique hsmall]
  · obtain ⟨k, rfl⟩ := Int.eq_ofNat_of_zero_le hpos
    rw [ofRatio, nearestMagnitude_eq _ 1 w one_pos hw]
    simpa [pow10_eq] using h
  · obtain ⟨k, hk⟩ : ∃ k : ℕ, exponent = -k := ⟨exponent.natAbs, by omega⟩
    rw [hk] at h ⊢
    rw [ofRatio, nearestMagnitude_eq _ _ w (by simp [pow10_eq]) hw]
    simpa [pow10_eq, div_eq_mul_inv] using h

end Docbase.Binary64
