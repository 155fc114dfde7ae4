import Docbase.Proofs.Binary64.Rounding
import Docbase.Value.Order

/-!
Integers as doubles and doubles as integers. An integer up to `2 ^ 53` is a double exactly;
the double of one beyond is no smaller than `2 ^ 53`. A double without a fractional part is
the integer to which it truncates, and the doubles whose decimal is read as an integer are
those from `2 ^ 53` up to `10 ^ 19`.
-/
namespace Docbase.Binary64

theorem infinityWord_lt : infinityWord < 2 ^ 63 := by decide

theorem word_ofMagnitude (negative : Bool) (w : ℕ) (hw : w < 2 ^ 63) :
    (ofMagnitude negative w).word = w + if negative then 2 ^ 63 else 0 := by
  have hmod : w % 2 ^ 63 = w := Nat.mod_eq_of_lt hw
  unfold ofMagnitude word
  rw [UInt64.toNat_ofNat', pow2_eq, hmod]
  apply Nat.mod_eq_of_lt
  cases negative
  · simp only [Bool.false_eq_true, if_false]
    omega
  · simp only [if_true]
    omega

theorem magnitude_ofMagnitude (negative : Bool) (w : ℕ) (hw : w < 2 ^ 63) :
    (ofMagnitude negative w).magnitude = w := by
  rw [magnitude, word_ofMagnitude negative w hw, pow2_eq]
  cases negative <;> simp <;> omega

theorem isNegative_ofMagnitude (negative : Bool) (w : ℕ) (hw : w < 2 ^ 63) :
    (ofMagnitude negative w).isNegative = negative := by
  rw [isNegative, word_ofMagnitude negative w hw, pow2_eq]
  cases negative <;> simp
  omega

theorem nearestMagnitude_le (num den : ℕ) : nearestMagnitude num den ≤ infinityWord := by
  unfold nearestMagnitude
  split
  · exact Nat.zero_le _
  · exact Nat.min_le_left _ _

theorem isNegative_ofInt (i : ℤ) : (ofInt i).isNegative = decide (i < 0) :=
  isNegative_ofMagnitude _ _ ((nearestMagnitude_le _ _).trans_lt infinityWord_lt)

theorem magnitude_ofInt (i : ℤ) : (ofInt i).magnitude = nearestMagnitude i.natAbs 1 :=
  magnitude_ofMagnitude _ _ ((nearestMagnitude_le _ _).trans_lt infinityWord_lt)

/-- A product of 53 bits and a power of two is a finite double. -/
theorem exists_word (k m : ℕ) (hm : m ≤ 2 ^ 53) (hk : k ≤ 64) :
    ∃ w, w < infinityWord ∧ wordValue w = m * 2 ^ k := by
  obtain ⟨w, hw⟩ := exists_units (k + 1074) m hm
  refine ⟨w, ?_, ?_⟩
  · obtain ⟨n, hn, hword⟩ : ∃ n, 1200 ≤ n ∧ infinityWord = n * 2 ^ 52 + 2 ^ 52 :=
      ⟨2046, by norm_num, by decide⟩
    rw [← units_lt_iff, hw, hword, units_compose n (2 ^ 52) (by norm_num) (Or.inl le_rfl)]
    calc m * 2 ^ (k + 1074) ≤ 2 ^ 53 * 2 ^ (k + 1074) := Nat.mul_le_mul_right _ hm
      _ = 2 ^ (53 + (k + 1074)) := (pow_add _ _ _).symm
      _ < 2 ^ (52 + n) := Nat.pow_lt_pow_right one_lt_two (by omega)
      _ = 2 ^ 52 * 2 ^ n := pow_add _ _ _
  · have hunit := pow_mul_unit (k + 1074) k (by push_cast; rfl)
    rw [zpow_natCast] at hunit
    rw [wordValue, hw, ← hunit, Nat.cast_mul, Nat.cast_pow, Nat.cast_ofNat, mul_assoc]

theorem exists_word_nat (m : ℕ) (hm : m ≤ 2 ^ 53) :
    ∃ w, w < infinityWord ∧ wordValue w = m := by
  obtain ⟨w, hw, hv⟩ := exists_word 0 m hm (by norm_num)
  exact ⟨w, hw, by rw [hv, pow_zero, mul_one]⟩

theorem exists_word_pow (k : ℕ) (hk : k ≤ 64) : ∃ w, w < infinityWord ∧ wordValue w = 2 ^ k := by
  obtain ⟨w, hw, hv⟩ := exists_word k 1 (by norm_num) hk
  exact ⟨w, hw, by rw [hv, Nat.cast_one, one_mul]⟩

theorem exists_word_wide : ∃ w, w < infinityWord ∧ wordValue w = 10 ^ 19 := by
  obtain ⟨w, hw, hv⟩ := exists_word 19 (5 ^ 19) (by norm_num) (by norm_num)
  exact ⟨w, hw, by rw [hv]; norm_num⟩

/-- The double of an integer is the one that the integer rounds to. -/
theorem roundsTo_ofInt (i : ℤ) (hi : i.natAbs ≤ 10 ^ 19) :
    RoundsTo (i.natAbs : ℚ) (ofInt i).magnitude := by
  rw [magnitude_ofInt]
  rcases Nat.eq_zero_or_pos i.natAbs with h0 | hpos
  · simpa [h0, nearestMagnitude] using roundsTo_wordValue 0
  · obtain ⟨w, hw, heq⟩ := nearestMagnitude_spec i.natAbs 1 hpos one_pos
    obtain ⟨wide, hfinite, hwide⟩ := exists_word_wide
    have hround : RoundsTo (i.natAbs : ℚ) w := by simpa using hw
    have hle : w ≤ wide := by
      apply hround.mono (roundsTo_wordValue wide)
      rw [hwide]
      exact_mod_cast hi
    rw [heq, Nat.min_eq_right (by omega)]
    exact hround

theorem natAbs_ofInt_le (i : ℤ) (w : ℕ) (hi : i.natAbs ≤ 10 ^ 19)
    (h : (i.natAbs : ℚ) ≤ wordValue w) : |(ofInt i).toRat| ≤ wordValue w := by
  rw [abs_toRat]
  exact wordValue_strictMono.monotone ((roundsTo_ofInt i hi).mono (roundsTo_wordValue w) h)

theorem le_natAbs_ofInt (i : ℤ) (w : ℕ) (hi : i.natAbs ≤ 10 ^ 19)
    (h : wordValue w ≤ i.natAbs) : wordValue w ≤ |(ofInt i).toRat| := by
  rw [abs_toRat]
  exact wordValue_strictMono.monotone ((roundsTo_wordValue w).mono (roundsTo_ofInt i hi) h)

theorem toRat_ofInt_sign (i : ℤ) :
    (ofInt i).toRat = if i < 0 then -|(ofInt i).toRat| else |(ofInt i).toRat| := by
  rw [abs_toRat, toRat_eq, isNegative_ofInt]
  simp only [decide_eq_true_eq]

theorem abs_intCast (i : ℤ) : |(i : ℚ)| = i.natAbs := by
  rw [Nat.cast_natAbs, Int.cast_abs]

/-- An integer that some double equals is kept exactly. -/
theorem toRat_ofInt_of_word (i : ℤ) (w : ℕ) (hi : i.natAbs ≤ 10 ^ 19)
    (h : wordValue w = i.natAbs) : (ofInt i).toRat = i := by
  have habs : |(ofInt i).toRat| = (i.natAbs : ℚ) := by
    rw [← h]
    exact le_antisymm (natAbs_ofInt_le i w hi h.ge) (le_natAbs_ofInt i w hi h.le)
  rw [toRat_ofInt_sign, habs, ← abs_intCast]
  split_ifs with hneg
  · rw [abs_of_neg (by exact_mod_cast hneg), neg_neg]
  · exact abs_of_nonneg (by exact_mod_cast not_lt.mp hneg)

theorem toRat_ofInt (i : ℤ) (hi : i.natAbs ≤ 2 ^ 53) : (ofInt i).toRat = i := by
  obtain ⟨w, -, hw⟩ := exists_word_nat i.natAbs hi
  exact toRat_ofInt_of_word i w (hi.trans (by norm_num)) hw

theorem wordValue_exactLimit : wordValue (ofInt exactLimit).magnitude = 2 ^ 53 := by
  rw [← abs_toRat, toRat_ofInt _ (by decide)]
  norm_num [exactLimit, pow2_eq]

theorem wordValue_wideLimit : wordValue (ofInt wideLimit).magnitude = 10 ^ 19 := by
  obtain ⟨w, -, hw⟩ := exists_word_wide
  have hlimit : ((wideLimit : ℤ).natAbs : ℚ) = 10 ^ 19 := by norm_num [wideLimit, pow10_eq]
  rw [← abs_toRat, toRat_ofInt_of_word _ w (by decide) (hw.trans hlimit.symm)]
  norm_num [wideLimit, pow10_eq]

theorem isSpelled_iff (x : Binary64) :
    x.isSpelled = true ↔ 2 ^ 53 ≤ |x.toRat| ∧ |x.toRat| < 10 ^ 19 := by
  rw [isSpelled, Bool.and_eq_true, decide_eq_true_eq, decide_eq_true_eq, abs_toRat,
    ← wordValue_exactLimit, ← wordValue_wideLimit, wordValue_strictMono.le_iff_le,
    wordValue_strictMono.lt_iff_lt]

/-- Two numbers of one sign whose distances from zero lie in a range are on the same side of a
number whose distance is outside it. -/
theorem cmp_of_outside (a b x low high : ℚ) (hsign : a = |a| ∧ b = |b| ∨ a = -|a| ∧ b = -|b|)
    (ha : low ≤ |a| ∧ |a| ≤ high) (hb : low ≤ |b| ∧ |b| ≤ high) (hx : |x| < low ∨ high < |x|) :
    cmp a x = cmp b x := by
  have hside : (a < x ∧ b < x) ∨ (x < a ∧ x < b) := by
    rcases hsign with ⟨hsa, hsb⟩ | ⟨hsa, hsb⟩
    · rcases hx with hin | hout
      · right
        have := le_abs_self x
        constructor <;> linarith
      · rcases lt_abs.mp hout with hpos | hneg
        · left
          constructor <;> linarith
        · right
          constructor <;> linarith [abs_nonneg a, abs_nonneg b]
    · rcases hx with hin | hout
      · left
        have := neg_abs_le x
        constructor <;> linarith
      · rcases lt_abs.mp hout with hpos | hneg
        · left
          constructor <;> linarith [abs_nonneg a, abs_nonneg b]
        · right
          constructor <;> linarith
  rcases hside with ⟨hax, hbx⟩ | ⟨hax, hbx⟩
  · rw [(cmp_eq_lt_iff _ _).mpr hax, (cmp_eq_lt_iff _ _).mpr hbx]
  · rw [(cmp_eq_gt_iff _ _).mpr hax, (cmp_eq_gt_iff _ _).mpr hbx]

theorem sign_ofInt (i : ℤ) :
    (ofInt i).toRat = |(ofInt i).toRat| ∧ (i : ℚ) = |(i : ℚ)| ∨
      (ofInt i).toRat = -|(ofInt i).toRat| ∧ (i : ℚ) = -|(i : ℚ)| := by
  have hsign := toRat_ofInt_sign i
  by_cases hneg : i < 0
  · right
    rw [if_pos hneg] at hsign
    exact ⟨hsign, by rw [abs_of_neg (by exact_mod_cast hneg), neg_neg]⟩
  · left
    rw [if_neg hneg] at hsign
    exact ⟨hsign, (abs_of_nonneg (by exact_mod_cast not_lt.mp hneg)).symm⟩

/-- Comparing an integer as a double is exact unless both lie where doubles skip integers. -/
theorem compare_ofInt (i : ℤ) (x : Binary64) (hi : i.natAbs ≤ 2 ^ 63)
    (h : i.natAbs ≤ 2 ^ 53 ∨ |x.toRat| < 2 ^ 53 ∨ 10 ^ 19 ≤ |x.toRat|) :
    cmp (ofInt i).toRat x.toRat = cmp (i : ℚ) x.toRat := by
  by_cases hsmall : i.natAbs ≤ 2 ^ 53
  · rw [toRat_ofInt i hsmall]
  have hwide : i.natAbs ≤ 10 ^ 19 := hi.trans (by norm_num)
  have hlow : (2 : ℚ) ^ 53 ≤ i.natAbs := by exact_mod_cast (not_le.mp hsmall).le
  have hhigh : (i.natAbs : ℚ) ≤ 2 ^ 63 := by exact_mod_cast hi
  have hlowDouble : (2 : ℚ) ^ 53 ≤ |(ofInt i).toRat| := by
    obtain ⟨w, -, hw⟩ := exists_word_pow 53 (by norm_num)
    rw [← hw] at hlow ⊢
    exact le_natAbs_ofInt i w hwide hlow
  have hhighDouble : |(ofInt i).toRat| ≤ 2 ^ 63 := by
    obtain ⟨w, -, hw⟩ := exists_word_pow 63 (by norm_num)
    rw [← hw] at hhigh ⊢
    exact natAbs_ofInt_le i w hwide hhigh
  have hx : |x.toRat| < 2 ^ 53 ∨ 2 ^ 63 < |x.toRat| :=
    (h.resolve_left hsmall).imp_right fun hout => lt_of_lt_of_le (by norm_num) hout
  rw [← abs_intCast] at hlow hhigh
  exact cmp_of_outside _ _ _ _ _ (sign_ofInt i) ⟨hlowDouble, hhighDouble⟩ ⟨hlow, hhigh⟩ hx

/-! Doubles without a fractional part. -/

theorem significand_scaled (x : Binary64) (he : x.exponent < 0) :
    (x.significand : ℚ) = wordValue x.magnitude * (2 ^ (-x.exponent).toNat : ℕ) := by
  obtain ⟨n, hn⟩ := Int.eq_ofNat_of_zero_le (show 0 ≤ -x.exponent by omega)
  rw [← magnitude_value, hn, Int.toNat_natCast, show x.exponent = -(n : ℤ) by omega, zpow_neg,
    zpow_natCast]
  push_cast
  field_simp

/-- A double without a fractional part is the integer that it truncates to. -/
theorem truncate_of_isWhole (x : Binary64) (h : x.isWhole = true) :
    (x.truncate : ℚ) = x.toRat := by
  rw [isWhole, Bool.and_eq_true, Bool.or_eq_true, decide_eq_true_eq, beq_iff_eq] at h
  set whole : ℕ := if x.exponent < 0 then x.significand / pow2 (-x.exponent).toNat
    else x.significand * pow2 x.exponent.toNat with hdef
  have hwhole : (whole : ℚ) = wordValue x.magnitude := by
    rw [hdef]
    by_cases he : x.exponent < 0
    · have hmod := h.2.resolve_left (by omega)
      rw [pow2_eq] at hmod
      have hprod : (x.significand / 2 ^ (-x.exponent).toNat) * 2 ^ (-x.exponent).toNat =
          x.significand := Nat.div_mul_cancel (Nat.dvd_of_mod_eq_zero hmod)
      have hcast : ((x.significand / 2 ^ (-x.exponent).toNat : ℕ) : ℚ) *
          (2 ^ (-x.exponent).toNat : ℕ) = x.significand := by exact_mod_cast hprod
      rw [if_pos he, pow2_eq]
      rw [significand_scaled x he] at hcast
      exact mul_right_cancel₀ (by positivity) hcast
    · obtain ⟨n, hn⟩ := Int.eq_ofNat_of_zero_le (not_lt.mp he)
      rw [if_neg he, ← magnitude_value, hn, Int.toNat_natCast, zpow_natCast, pow2_eq]
      push_cast
      rfl
  have htruncate : x.truncate = if x.isNegative then -(whole : ℤ) else whole := rfl
  rw [toRat_eq, ← hwhole, htruncate]
  cases x.isNegative <;> simp

theorem isWhole_of_eq_int (x : Binary64) (hfin : x.isFinite = true) (n : ℤ)
    (h : x.toRat = n) : x.isWhole = true := by
  rw [isWhole, Bool.and_eq_true, Bool.or_eq_true, decide_eq_true_eq, beq_iff_eq]
  refine ⟨hfin, ?_⟩
  by_cases he : x.exponent < 0
  · right
    have habs : wordValue x.magnitude = (n.natAbs : ℚ) := by
      rw [← abs_toRat, h, abs_intCast]
    have hprod : (x.significand : ℚ) = (n.natAbs * 2 ^ (-x.exponent).toNat : ℕ) := by
      rw [significand_scaled x he, habs]
      push_cast
      rfl
    have hnat : x.significand = n.natAbs * 2 ^ (-x.exponent).toNat := by exact_mod_cast hprod
    rw [pow2_eq, hnat]
    exact Nat.mul_mod_left _ _
  · exact Or.inl (not_lt.mp he)

end Docbase.Binary64
