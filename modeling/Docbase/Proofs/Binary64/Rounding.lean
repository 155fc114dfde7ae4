import Docbase.Proofs.Binary64.Exact
import Mathlib.Algebra.Order.Floor.Semifield

/-!
Rounding to the nearest double. The rationals that round to a magnitude lie between the
midpoints to its neighbours, and a midpoint itself goes to the even neighbour. So rounding
keeps the order, fixes the value of every double, and `nearestMagnitude` computes it.
-/
namespace Docbase.Binary64

/-- A rational rounds to a magnitude: it is no farther than the midpoints on both sides, and
the midpoints themselves belong to even magnitudes. -/
structure RoundsTo (q : ℚ) (w : ℕ) : Prop where
  lower : wordValue (w - 1) + wordValue w ≤ 2 * q
  upper : 2 * q ≤ wordValue w + wordValue (w + 1)
  inner : w % 2 = 1 →
    wordValue (w - 1) + wordValue w < 2 * q ∧ 2 * q < wordValue w + wordValue (w + 1)

theorem roundsTo_wordValue (w : ℕ) : RoundsTo (wordValue w) w := by
  have hup := wordValue_strictMono (Nat.lt_succ_self w)
  refine ⟨?_, by linarith, fun hodd => ⟨?_, by linarith⟩⟩
  · have := wordValue_strictMono.monotone (Nat.sub_le w 1)
    linarith
  · have := wordValue_strictMono (show w - 1 < w by omega)
    linarith

/-- Rounding keeps the order. Two magnitudes share at most one midpoint, and one of them is
odd then. -/
theorem RoundsTo.mono {p q : ℚ} {v w : ℕ} (hv : RoundsTo p v) (hw : RoundsTo q w)
    (hpq : p ≤ q) : v ≤ w := by
  by_contra hlt
  have hbelow := wordValue_strictMono.monotone (show w ≤ v - 1 by omega)
  have habove := wordValue_strictMono.monotone (show w + 1 ≤ v by omega)
  have hlow := hv.lower
  have hhigh := hw.upper
  have hnext : w + 1 = v := by
    apply wordValue_strictMono.injective
    linarith
  rcases Nat.mod_two_eq_zero_or_one w with heven | hodd
  · have := (hv.inner (by omega)).1
    linarith
  · have := (hw.inner hodd).2
    linarith

theorem RoundsTo.unique {q : ℚ} {v w : ℕ} (hv : RoundsTo q v) (hw : RoundsTo q w) : v = w :=
  Nat.le_antisymm (hv.mono hw le_rfl) (hw.mono hv le_rfl)

theorem RoundsTo.lt {p q : ℚ} {v w : ℕ} (hv : RoundsTo p v) (hw : RoundsTo q w)
    (hvw : v < w) : p < q := by
  by_contra hle
  have := hw.mono hv (not_lt.mp hle)
  omega

theorem roundsTo_zero : RoundsTo 0 0 := by simpa using roundsTo_wordValue 0

theorem RoundsTo.pos {q : ℚ} {w : ℕ} (h : RoundsTo q w) (hw : 0 < w) : 0 < q :=
  roundsTo_zero.lt h hw

/-! What rounds to a double is on the same side of all other doubles. -/

theorem RoundsTo.lt_wordValue {q : ℚ} {w : ℕ} (h : RoundsTo q w) (u : ℕ)
    (hu : wordValue w < wordValue u) : q < wordValue u :=
  h.lt (roundsTo_wordValue u) (wordValue_strictMono.lt_iff_lt.mp hu)

theorem RoundsTo.wordValue_lt {q : ℚ} {w : ℕ} (h : RoundsTo q w) (u : ℕ)
    (hu : wordValue u < wordValue w) : wordValue u < q :=
  (roundsTo_wordValue u).lt h (wordValue_strictMono.lt_iff_lt.mp hu)

/-- What lies between two rationals that round to a magnitude rounds to it. -/
theorem RoundsTo.between {p q r : ℚ} {w : ℕ} (hp : RoundsTo p w) (hr : RoundsTo r w)
    (hpq : p ≤ q) (hqr : q ≤ r) : RoundsTo q w := by
  have hlow := hp.lower
  have hhigh := hr.upper
  refine ⟨by linarith, by linarith, fun hodd => ?_⟩
  have hlow' := (hp.inner hodd).1
  have hhigh' := (hr.inner hodd).2
  exact ⟨by linarith, by linarith⟩

/-- A ratio over a power of a base, the power being multiplied into one of its sides. -/
theorem scaled_ratio (base : ℕ) (hbase : 0 < base) (num den : ℕ) (e : ℤ) :
    ((if 0 ≤ e then num else num * base ^ (-e).toNat : ℕ) : ℚ) /
      ((if 0 ≤ e then den * base ^ e.toNat else den : ℕ) : ℚ) =
        (num : ℚ) / den / (base : ℚ) ^ e := by
  have hb : (base : ℚ) ≠ 0 := by exact_mod_cast hbase.ne'
  by_cases he : 0 ≤ e
  · obtain ⟨n, rfl⟩ := Int.eq_ofNat_of_zero_le he
    rw [if_pos he, if_pos he, Int.toNat_natCast, zpow_natCast]
    push_cast
    rw [div_div]
  · obtain ⟨n, hn⟩ := Int.eq_ofNat_of_zero_le (show 0 ≤ -e by omega)
    rw [if_neg he, if_neg he, hn, Int.toNat_natCast, show e = -(n : ℤ) by omega, zpow_neg,
      zpow_natCast]
    push_cast
    rw [div_inv_eq_mul]
    ring

theorem reaches_iff (num den : ℕ) (hden : 0 < den) (g : ℤ) :
    (if 0 ≤ g then decide (den * pow2 g.toNat ≤ num)
      else decide (den ≤ num * pow2 (-g).toNat)) = true ↔
        (2 : ℚ) ^ g ≤ (num : ℚ) / den := by
  have hd : (0 : ℚ) < den := by exact_mod_cast hden
  by_cases hg : 0 ≤ g
  · obtain ⟨n, rfl⟩ := Int.eq_ofNat_of_zero_le hg
    rw [if_pos hg, decide_eq_true_eq, le_div_iff₀ hd, zpow_natCast, Int.toNat_natCast, pow2_eq,
      mul_comm]
    exact_mod_cast Iff.rfl
  · obtain ⟨n, hn⟩ := Int.eq_ofNat_of_zero_le (show 0 ≤ -g by omega)
    rw [if_neg hg, decide_eq_true_eq, le_div_iff₀ hd, hn, Int.toNat_natCast,
      show g = -(n : ℤ) by omega, zpow_neg, zpow_natCast, pow2_eq,
      inv_mul_le_iff₀ (by positivity), mul_comm]
    exact_mod_cast Iff.rfl

/-- The binary logarithm of a ratio. -/
theorem ratioLog2_spec (num den : ℕ) (hnum : 0 < num) (hden : 0 < den) :
    (2 : ℚ) ^ ratioLog2 num den ≤ (num : ℚ) / den ∧
      (num : ℚ) / den < 2 ^ (ratioLog2 num den + 1) := by
  have hd : (0 : ℚ) < den := by exact_mod_cast hden
  have hnumLow : (2 : ℚ) ^ num.log2 ≤ num := by exact_mod_cast Nat.log2_self_le hnum.ne'
  have hnumHigh : (num : ℚ) < 2 ^ (num.log2 + 1) := by exact_mod_cast Nat.lt_log2_self
  have hdenLow : (2 : ℚ) ^ den.log2 ≤ den := by exact_mod_cast Nat.log2_self_le hden.ne'
  have hdenHigh : (den : ℚ) < 2 ^ (den.log2 + 1) := by exact_mod_cast Nat.lt_log2_self
  set g : ℤ := (num.log2 : ℤ) - den.log2 with hg
  have hlow : (2 : ℚ) ^ (g - 1) ≤ (num : ℚ) / den := by
    rw [le_div_iff₀ hd, show g - 1 = (num.log2 : ℤ) + -((den.log2 : ℤ) + 1) by omega,
      zpow_add₀ two_ne_zero, zpow_neg, zpow_natCast,
      show (den.log2 : ℤ) + 1 = ((den.log2 + 1 : ℕ) : ℤ) by push_cast; ring, zpow_natCast]
    calc (2 : ℚ) ^ num.log2 * (2 ^ (den.log2 + 1))⁻¹ * den
        ≤ 2 ^ num.log2 * (2 ^ (den.log2 + 1))⁻¹ * 2 ^ (den.log2 + 1) := by gcongr
      _ = 2 ^ num.log2 := by field_simp
      _ ≤ num := hnumLow
  have hhigh : (num : ℚ) / den < 2 ^ (g + 1) := by
    rw [div_lt_iff₀ hd, show g + 1 = ((num.log2 + 1 : ℕ) : ℤ) + -(den.log2 : ℤ) by omega,
      zpow_add₀ two_ne_zero, zpow_neg, zpow_natCast, zpow_natCast]
    calc (num : ℚ) < 2 ^ (num.log2 + 1) := hnumHigh
      _ = 2 ^ (num.log2 + 1) * (2 ^ den.log2)⁻¹ * 2 ^ den.log2 := by field_simp
      _ ≤ 2 ^ (num.log2 + 1) * (2 ^ den.log2)⁻¹ * den := by gcongr
  have hreach := reaches_iff num den hden g
  unfold ratioLog2
  rw [← hg]
  dsimp only
  by_cases h : (2 : ℚ) ^ g ≤ (num : ℚ) / den
  · rw [if_pos (hreach.mpr h)]
    exact ⟨h, hhigh⟩
  · rw [if_neg (mt hreach.mp h), sub_add_cancel]
    exact ⟨hlow, not_le.mp h⟩

/-- The whole part of a ratio, and how its remainder tells on which side of the middle the
ratio lies. -/
theorem quotient_spec (num den : ℕ) (hden : 0 < den) :
    ((num / den : ℕ) : ℚ) ≤ (num : ℚ) / den ∧ (num : ℚ) / den < (num / den : ℕ) + 1 ∧
      (den < 2 * (num % den) ↔ 2 * ((num / den : ℕ) : ℚ) + 1 < 2 * ((num : ℚ) / den)) ∧
      (2 * (num % den) = den ↔ 2 * ((num / den : ℕ) : ℚ) + 1 = 2 * ((num : ℚ) / den)) := by
  have hd : (0 : ℚ) < den := by exact_mod_cast hden
  have hsum : ((num / den : ℕ) : ℚ) * den + (num % den : ℕ) = num := by
    exact_mod_cast Nat.div_add_mod' num den
  have hrem : ((num % den : ℕ) : ℚ) < den := by exact_mod_cast Nat.mod_lt num hden
  have hrem0 : (0 : ℚ) ≤ (num % den : ℕ) := Nat.cast_nonneg _
  have hvalue : (num : ℚ) / den = (num / den : ℕ) + (num % den : ℕ) / den := by
    rw [div_eq_iff hd.ne', add_mul, div_mul_cancel₀ _ hd.ne', hsum]
  have hfrac0 : 0 ≤ ((num % den : ℕ) : ℚ) / den := by positivity
  have hfrac1 : ((num % den : ℕ) : ℚ) / den < 1 := (div_lt_one hd).mpr hrem
  have hhalf : den < 2 * (num % den) ↔ 1 < 2 * (((num % den : ℕ) : ℚ) / den) := by
    rw [← mul_div_assoc, one_lt_div hd]
    exact_mod_cast Iff.rfl
  have hmiddle : 2 * (num % den) = den ↔ 2 * (((num % den : ℕ) : ℚ) / den) = 1 := by
    rw [← mul_div_assoc, div_eq_one_iff_eq hd.ne']
    exact_mod_cast Iff.rfl
  rw [hhalf, hmiddle, hvalue]
  refine ⟨by linarith, by linarith, ?_, ?_⟩
  · constructor <;> intro h <;> linarith
  · constructor <;> intro h <;> linarith

/-- Rounding within a binade: the mantissa is the ratio to the unit of the binade, rounded. -/
theorem roundsTo_of_mantissa (k m : ℕ) (t : ℚ) (up : Bool) (hm : m < 2 ^ 53)
    (hk : 2 ^ 52 ≤ m ∨ k = 0) (hlow : (m : ℚ) ≤ t) (hhigh : t < m + 1)
    (hup : up = true ↔ 2 * (m : ℚ) + 1 < 2 * t ∨ 2 * (m : ℚ) + 1 = 2 * t ∧ m % 2 = 1) :
    RoundsTo (t * (2 ^ k * unit)) (k * 2 ^ 52 + m + if up then 1 else 0) := by
  have hunit : 0 < 2 ^ k * unit := mul_pos (by positivity) unit_pos
  have hhere := wordValue_compose k m hm.le hk
  have hnext : wordValue (k * 2 ^ 52 + m + 1) = (m + 1) * (2 ^ k * unit) := by
    rw [add_assoc, wordValue_compose k (m + 1) hm (hk.imp_left (by omega))]
    push_cast
    ring
  have hfloor := mul_le_mul_of_nonneg_right hlow hunit.le
  have hceil := mul_lt_mul_of_pos_right hhigh hunit
  cases up with
  | true =>
    have habove := wordValue_strictMono (Nat.lt_succ_self (k * 2 ^ 52 + m + 1))
    rw [if_pos rfl]
    refine ⟨?_, by linarith, fun hodd => ⟨?_, by linarith⟩⟩
    · rw [Nat.add_sub_cancel, hhere, hnext]
      have hmiddle : 2 * (m : ℚ) + 1 ≤ 2 * t := by
        rcases hup.mp rfl with h | h
        · exact h.le
        · exact h.1.le
      nlinarith
    · rw [Nat.add_sub_cancel, hhere, hnext]
      have hmiddle : 2 * (m : ℚ) + 1 < 2 * t := by
        rcases hup.mp rfl with h | h
        · exact h
        · omega
      nlinarith
  | false =>
    have hbelow := wordValue_strictMono.monotone (Nat.sub_le (k * 2 ^ 52 + m) 1)
    have hmiddle : 2 * t ≤ 2 * (m : ℚ) + 1 := by
      by_contra h
      exact Bool.false_ne_true (hup.mpr (Or.inl (not_le.mp h)))
    rw [if_neg Bool.false_ne_true, add_zero]
    refine ⟨by linarith, ?_, fun hodd => ⟨?_, ?_⟩⟩
    · rw [hhere, hnext]
      nlinarith
    · have := wordValue_strictMono (show k * 2 ^ 52 + m - 1 < k * 2 ^ 52 + m by omega)
      linarith
    · have hne : 2 * (m : ℚ) + 1 ≠ 2 * t := fun h =>
        Bool.false_ne_true (hup.mpr (Or.inr ⟨h, by omega⟩))
      have hlt : 2 * t < 2 * (m : ℚ) + 1 := lt_of_le_of_ne hmiddle hne.symm
      rw [hhere, hnext]
      nlinarith

/-- Divided by the unit of its binade a number has 53 bits before the point, fewer only where
the binades end. -/
theorem binade_bounds (q : ℚ) (l e : ℤ) (he : e = max (-1074) (l - 52)) (hlow : 2 ^ l ≤ q)
    (hhigh : q < 2 ^ (l + 1)) : q / 2 ^ e < 2 ^ 53 ∧ (2 ^ 52 ≤ q / 2 ^ e ∨ e = -1074) := by
  constructor
  · rw [div_lt_iff₀ (by positivity), ← zpow_natCast, ← zpow_add₀ two_ne_zero]
    refine hhigh.trans_le (zpow_le_zpow_right₀ one_le_two ?_)
    push_cast
    omega
  · by_cases hmin : e = -1074
    · exact Or.inr hmin
    · left
      rw [le_div_iff₀ (by positivity), ← zpow_natCast, ← zpow_add₀ two_ne_zero]
      refine le_trans (zpow_le_zpow_right₀ one_le_two ?_) hlow
      push_cast
      omega

/-- The ratio is rounded to a magnitude, and what lies past the largest finite double
becomes infinity. -/
theorem nearestMagnitude_spec (num den : ℕ) (hnum : 0 < num) (hden : 0 < den) :
    ∃ w, RoundsTo ((num : ℚ) / den) w ∧ nearestMagnitude num den = min infinityWord w := by
  obtain ⟨hlogLow, hlogHigh⟩ := ratioLog2_spec num den hnum hden
  set e : ℤ := max (-1074) (ratioLog2 num den - 52) with he
  set scaledNum := if 0 ≤ e then num else num * 2 ^ (-e).toNat with hscaledNum
  set scaledDen := if 0 ≤ e then den * 2 ^ e.toNat else den with hscaledDen
  have hpos : 0 < scaledDen := by
    rw [hscaledDen]
    split
    · positivity
    · exact hden
  have hscaled : (scaledNum : ℚ) / scaledDen = (num : ℚ) / den / 2 ^ e := by
    exact_mod_cast scaled_ratio 2 two_pos num den e
  obtain ⟨hbelow, hnormal⟩ := binade_bounds ((num : ℚ) / den) _ e he hlogLow hlogHigh
  obtain ⟨hfloor, hceil, hhalf, hmiddle⟩ := quotient_spec scaledNum scaledDen hpos
  rw [← hscaled] at hbelow hnormal
  obtain ⟨k, hk⟩ := Int.eq_ofNat_of_zero_le (show 0 ≤ e + 1074 by omega)
  have hsize : scaledNum / scaledDen < 2 ^ 53 := by
    have h : ((scaledNum / scaledDen : ℕ) : ℚ) < 2 ^ 53 := hfloor.trans_lt hbelow
    exact_mod_cast h
  have hmantissa : 2 ^ 52 ≤ scaledNum / scaledDen ∨ k = 0 := by
    rcases hnormal with hlow | hmin
    · left
      have h : (2 : ℚ) ^ 52 < (scaledNum / scaledDen : ℕ) + 1 := hlow.trans_lt hceil
      have h' : 2 ^ 52 < scaledNum / scaledDen + 1 := by exact_mod_cast h
      omega
    · exact Or.inr (by omega)
  set up : Bool := decide (scaledDen < 2 * (scaledNum % scaledDen)) ||
    (2 * (scaledNum % scaledDen) == scaledDen && scaledNum / scaledDen % 2 == 1) with hup
  have hround := roundsTo_of_mantissa k (scaledNum / scaledDen) _ up hsize hmantissa hfloor hceil
    (by simp [hup, hhalf, hmiddle])
  rw [pow_mul_unit k e hk, hscaled, div_mul_cancel₀ _ (by positivity)] at hround
  refine ⟨_, hround, ?_⟩
  unfold nearestMagnitude
  rw [if_neg hnum.ne']
  simp only [pow2_eq, ← he, ← hscaledNum, ← hscaledDen, ← hup, hk]
  rfl

/-- A rational that rounds to a finite magnitude is read as it. -/
theorem nearestMagnitude_eq (num den w : ℕ) (hden : 0 < den) (hw : w < infinityWord)
    (h : RoundsTo ((num : ℚ) / den) w) : nearestMagnitude num den = w := by
  rcases Nat.eq_zero_or_pos num with rfl | hnum
  · have hw0 : w = 0 := RoundsTo.unique (by simpa using h) roundsTo_zero
    simp [nearestMagnitude, hw0]
  · obtain ⟨v, hv, heq⟩ := nearestMagnitude_spec num den hnum hden
    rw [heq, hv.unique h]
    omega

end Docbase.Binary64
