import Docbase.Proofs.Binary64.Integer
import Docbase.Proofs.Binary64.Shortest

/-!
No shorter decimal reads back as a double, and none of the same length is closer. A decimal of
`k` digits stands on the grid of `k` digits or below the power of ten that the double has
reached, so the first grid with a neighbour is not beaten. The decimal of an integral double is
an integer, and no two decimals are equally close to it from both sides.
-/
namespace Docbase

namespace Decimal

theorem lt_pow_digitCount (n : ℕ) : n < 10 ^ digitCount n := by
  rcases Nat.eq_zero_or_pos n with hzero | hpos
  · rw [hzero]
    exact one_pos
  · exact (digitCount_spec n hpos).2.2

theorem digitCount_le (n c : ℕ) (h : n < 10 ^ c) : digitCount n ≤ c := by
  rcases Nat.eq_zero_or_pos n with hzero | hpos
  · rw [hzero]
    exact Nat.zero_le c
  · obtain ⟨-, hlow, -⟩ := digitCount_spec n hpos
    have hlt := (Nat.pow_lt_pow_iff_right (by norm_num)).mp (hlow.trans_lt h)
    omega

theorem digitCount_pos (d : Decimal) (h : 0 < d.toRat) : 1 ≤ digitCount d.digits := by
  apply (digitCount_spec d.digits _).1
  apply Nat.pos_of_ne_zero
  intro hzero
  simp [toRat, hzero] at h

theorem toRat_nonneg (d : Decimal) : 0 ≤ d.toRat := by
  unfold toRat
  positivity

/-- A decimal of `k` digits that has reached a power of ten stands on the grid of `k` digits. -/
theorem exists_on_grid (d : Decimal) (k : ℕ) (p : ℤ) (hk : digitCount d.digits ≤ k)
    (hp : (10 : ℚ) ^ (p - 1) ≤ d.toRat) : ∃ m : ℕ, d.toRat = m * 10 ^ (p - k) := by
  have hdigits : (d.digits : ℚ) < 10 ^ k := by
    have h := (lt_pow_digitCount d.digits).trans_le (Nat.pow_le_pow_right (by norm_num) hk)
    exact_mod_cast h
  have hlt : d.toRat < 10 ^ ((k : ℤ) + d.exponent) := by
    rw [toRat, zpow_add₀ (by norm_num), zpow_natCast]
    gcongr
  have hexponent := (zpow_lt_zpow_iff_right₀ (show (1 : ℚ) < 10 by norm_num)).mp (hp.trans_lt hlt)
  obtain ⟨j, hj⟩ := Int.eq_ofNat_of_zero_le (show 0 ≤ d.exponent - (p - k) by omega)
  refine ⟨d.digits * 10 ^ j, ?_⟩
  rw [toRat, show d.exponent = j + (p - k) by omega, zpow_add₀ (by norm_num), zpow_natCast]
  push_cast
  ring

theorem digits_trimFrom_le (fuel : ℕ) (d : Decimal) : (trimFrom fuel d).digits ≤ d.digits := by
  induction fuel generalizing d with
  | zero => exact le_rfl
  | succ fuel ih =>
    rw [trimFrom]
    split
    · exact (ih _).trans (Nat.div_le_self _ _)
    · exact le_rfl

theorem digits_trimFrom_pow (c fuel : ℕ) (e : ℤ) (h : c ≤ fuel) :
    (trimFrom fuel ⟨10 ^ c, e⟩).digits = 1 := by
  induction c generalizing fuel e with
  | zero => cases fuel <;> rfl
  | succ c ih =>
    obtain ⟨fuel, rfl⟩ := Nat.exists_eq_add_of_lt h
    rw [trimFrom, if_pos (by simp [pow_succ])]
    simp only [pow_succ, Nat.mul_div_cancel _ (show 0 < 10 by norm_num)]
    exact ih _ _ (by omega)

/-- The power of ten that a grid of `c` digits ends with is written with one digit. -/
theorem digitCount_trim_le (n c : ℕ) (e : ℤ) (h : n ≤ 10 ^ c) (hc : 1 ≤ c) (hc' : c ≤ 40) :
    digitCount (trim ⟨n, e⟩).digits ≤ c := by
  unfold trim
  split
  · exact Nat.zero_le c
  · apply digitCount_le
    by_cases hlast : n = 10 ^ c
    · rw [hlast, digits_trimFrom_pow c 40 e hc']
      exact Nat.one_lt_pow (by omega) (by norm_num)
    · exact (digits_trimFrom_le 40 _).trans_lt (lt_of_le_of_ne h hlast)

end Decimal

namespace RoundingInterval

open Binary64

variable {r : RoundingInterval} {w : ℕ}

theorem floorOn_half (hr : Bounds r w) (s : ℤ) :
    (r.floorOn s).2.1 < (r.floorOn s).2.2 ↔
      2 * wordValue w < (2 * (r.floorOn s).1 + 1) * (10 : ℚ) ^ s := by
  have hden : (0 : ℚ) < r.denominator := by exact_mod_cast hr.denominator_pos
  have hpow : (0 : ℚ) < 10 ^ s := by positivity
  have hvalue : (r.value : ℚ) / r.denominator = wordValue w := by
    rw [hr.value, mul_div_cancel_right₀ _ hden.ne']
  have hratio := scaled_ratio 10 (by norm_num) r.value r.denominator s
  have hpos : 0 < if 0 ≤ s then r.denominator * 10 ^ s.toNat else r.denominator := by
    have := hr.denominator_pos
    split <;> positivity
  obtain ⟨-, -, habove, hmiddle⟩ := quotient_spec
    (if 0 ≤ s then r.value else r.value * 10 ^ (-s).toNat) _ hpos
  rw [hratio, hvalue] at habove hmiddle
  rw [← div_lt_iff₀ hpow, mul_div_assoc, ← not_le, ← not_le, le_iff_lt_or_eq, le_iff_lt_or_eq,
    eq_comm]
  exact not_congr (or_congr habove hmiddle)

theorem neighbour?_le (s : ℤ) (n : ℕ) (h : r.neighbour? s = some n) :
    n ≤ (r.floorOn s).1 + 1 := by
  unfold neighbour? at h
  dsimp only at h
  split at h
  · have hn := Option.some.inj h
    split at hn <;> omega
  · have hn := Option.some.inj h
    omega
  · have hn := Option.some.inj h
    omega
  · simp at h

/-- No point of the grid that rounds to the double is closer than the neighbour. -/
theorem neighbour?_closest (hr : Bounds r w) (s : ℤ) (n m : ℕ) (h : r.neighbour? s = some n)
    (hm : RoundsTo ((m : ℚ) * 10 ^ s) w) :
    |(n : ℚ) * 10 ^ s - wordValue w| ≤ |(m : ℚ) * 10 ^ s - wordValue w| := by
  obtain ⟨hlow, hhigh⟩ := floorOn_spec hr s
  have hhalf := floorOn_half hr s
  have hpow : (0 : ℚ) < 10 ^ s := by positivity
  have hself := roundsTo_wordValue w
  have hnext : |(((r.floorOn s).1 + 1 : ℕ) : ℚ) * 10 ^ s - wordValue w| =
      ((r.floorOn s).1 + 1) * 10 ^ s - wordValue w := by
    push_cast
    exact abs_of_nonneg (by linarith)
  have hfloor : |((r.floorOn s).1 : ℚ) * 10 ^ s - wordValue w| =
      wordValue w - (r.floorOn s).1 * 10 ^ s := by
    rw [abs_sub_comm]
    exact abs_of_nonneg (by linarith)
  have hside : (m : ℚ) * 10 ^ s ≤ (r.floorOn s).1 * 10 ^ s ∨
      ((r.floorOn s).1 + 1) * 10 ^ s ≤ (m : ℚ) * 10 ^ s := by
    rcases Nat.lt_or_ge (r.floorOn s).1 m with hlt | hle
    · right
      have hcast : ((r.floorOn s).1 : ℚ) + 1 ≤ m := by exact_mod_cast hlt
      gcongr
    · left
      gcongr
  unfold neighbour? at h
  dsimp only at h
  split at h
  · have hn := Option.some.inj h
    split at hn
    · next hless =>
      have hmiddle := hhalf.mp hless
      rw [← hn, hfloor]
      rcases hside with hbelow | habove
      · exact le_abs.mpr (Or.inr (by linarith))
      · exact le_abs.mpr (Or.inl (by linarith))
    · next hmore =>
      have hmiddle := not_lt.mp (mt hhalf.mpr hmore)
      rw [← hn, hnext]
      rcases hside with hbelow | habove
      · exact le_abs.mpr (Or.inr (by linarith))
      · exact le_abs.mpr (Or.inl (by linarith))
  · next hno =>
    rw [← Option.some.inj h, hfloor]
    rcases hside with hbelow | habove
    · exact le_abs.mpr (Or.inr (by linarith))
    · have hin : RoundsTo ((((r.floorOn s).1 + 1 : ℕ) : ℚ) * 10 ^ s) w := by
        push_cast
        exact hself.between hm (by linarith) habove
      simp [(contains_iff hr _ _).mpr hin] at hno
  · next hno _ =>
    rw [← Option.some.inj h, hnext]
    rcases hside with hbelow | habove
    · have hin := hm.between hself hbelow hlow
      simp [(contains_iff hr _ _).mpr hin] at hno
    · exact le_abs.mpr (Or.inl (by linarith))
  · simp at h

/-- The search ends on the first grid with a neighbour. -/
theorem exists_first_grid (hr : Bounds r w) (hw : 0 < w) :
    ∃ c n : ℕ, 1 ≤ c ∧ c ≤ 17 ∧ r.neighbour? (r.point - c) = some n ∧
      r.shortestFrom 17 1 = ⟨n, r.point - c⟩ ∧
      ∀ k : ℕ, 1 ≤ k → (r.neighbour? (r.point - k)).isSome = true → c ≤ k := by
  obtain ⟨c, n, hone, hc, hn, heq⟩ :=
    shortestFrom_spec r 17 1 17 (by norm_num) (by norm_num) (neighbour?_seventeen hr hw)
  refine ⟨c, n, hone, hc, hn, heq, ?_⟩
  intro k hk hgrid
  by_cases hfar : 17 < k
  · omega
  · have hcoarse := (shortestFrom_roundsTo hr k hk (by omega) hgrid).2
    rw [heq] at hcoarse
    simp only at hcoarse
    omega

end RoundingInterval

namespace Binary64

open RoundingInterval Decimal

/-- A decimal that rounds to a magnitude, with as few digits as any that does and as close to
it as any with so few. -/
structure IsShortest (w : ℕ) (d : Decimal) : Prop where
  readsBack : RoundsTo d.toRat w
  fewest : ∀ e : Decimal, RoundsTo e.toRat w → digitCount d.digits ≤ digitCount e.digits
  closest : ∀ e : Decimal, RoundsTo e.toRat w → digitCount e.digits = digitCount d.digits →
    |d.toRat - wordValue w| ≤ |e.toRat - wordValue w|

variable {w : ℕ} {d e : Decimal} {p : ℤ}

/-- A power of ten below the double is at least as close as any decimal below it. -/
theorem power_closer (hp : (10 : ℚ) ^ (p - 1) ≤ wordValue w) (he : RoundsTo e.toRat w)
    (hlt : e.toRat < 10 ^ (p - 1)) :
    RoundsTo (10 ^ (p - 1)) w ∧
      |(10 : ℚ) ^ (p - 1) - wordValue w| < |e.toRat - wordValue w| := by
  refine ⟨he.between (roundsTo_wordValue w) hlt.le hp, ?_⟩
  rw [abs_sub_comm, abs_sub_comm e.toRat, abs_of_nonneg (by linarith),
    abs_of_nonneg (by linarith)]
  linarith

/-- Some point of the grid of `k` digits is as good as a decimal of `k` digits. -/
theorem exists_grid_point (hp : (10 : ℚ) ^ (p - 1) ≤ wordValue w) (k : ℕ) (hk : 1 ≤ k)
    (he : RoundsTo e.toRat w) (hek : digitCount e.digits ≤ k) :
    ∃ m : ℕ, RoundsTo ((m : ℚ) * 10 ^ (p - k)) w ∧
      |(m : ℚ) * 10 ^ (p - k) - wordValue w| ≤ |e.toRat - wordValue w| := by
  by_cases hreached : (10 : ℚ) ^ (p - 1) ≤ e.toRat
  · obtain ⟨m, hm⟩ := e.exists_on_grid k p hek hreached
    exact ⟨m, hm ▸ he, by rw [hm]⟩
  · obtain ⟨hround, hclose⟩ := power_closer hp he (not_le.mp hreached)
    have hpower : ((10 ^ (k - 1) : ℕ) : ℚ) * 10 ^ (p - k) = 10 ^ (p - 1) := by
      push_cast
      rw [← zpow_natCast, ← zpow_add₀ (by norm_num)]
      congr 1
      omega
    exact ⟨10 ^ (k - 1), hpower ▸ hround, by rw [hpower]; exact hclose.le⟩

/-- The search finds a shortest decimal. -/
theorem isShortest_shortest (x : Binary64) : IsShortest x.magnitude x.shortest := by
  have hround := shortest_roundsTo x
  by_cases hzero : x.significand = 0
  · have hw := (significand_eq_zero_iff x).mp hzero
    have hd : x.shortest = ⟨0, 0⟩ := if_pos hzero
    refine ⟨hround, fun e _ => ?_, fun e _ _ => ?_⟩
    · rw [hd]
      exact Nat.zero_le _
    · have hpoint : (⟨0, 0⟩ : Decimal).toRat = 0 := by simp [Decimal.toRat]
      rw [hd, hw, wordValue_zero, hpoint, sub_zero, abs_zero]
      exact abs_nonneg _
  · have hw : 0 < x.magnitude := Nat.pos_of_ne_zero (mt (significand_eq_zero_iff x).mpr hzero)
    have hr := bounds_ofBinary64 x hw
    obtain ⟨hlow, hhigh⟩ := point_spec hr hw
    obtain ⟨c, n, hone, hc, hn, heq, hfirst⟩ := exists_first_grid hr hw
    set r := RoundingInterval.ofBinary64 x
    have hd : x.shortest = trim ⟨n, r.point - c⟩ := by
      rw [shortest, if_neg hzero, heq]
    have hvalue : x.shortest.toRat = n * 10 ^ (r.point - c) := by rw [hd, toRat_trim, Decimal.toRat]
    -- The neighbour can be the power of ten where the grid ends, with a digit more than `c`.
    have hcount : digitCount x.shortest.digits ≤ c := by
      rw [hd]
      apply digitCount_trim_le n c _ _ hone (by omega)
      have hfloor : ((r.floorOn (r.point - c)).1 : ℚ) * 10 ^ (r.point - c) <
          10 ^ c * 10 ^ (r.point - c) := by
        refine (floorOn_spec hr _).1.trans_lt (hhigh.trans_eq ?_)
        rw [← zpow_natCast, ← zpow_add₀ (by norm_num)]
        congr 1
        omega
      have hlt := lt_of_mul_lt_mul_right hfloor (by positivity)
      have hle := neighbour?_le _ n hn
      have hlt' : (r.floorOn (r.point - c)).1 < 10 ^ c := by exact_mod_cast hlt
      omega
    refine ⟨hround, fun e he => ?_, fun e he hek => ?_⟩
    · have hk := digitCount_pos e (he.pos hw)
      obtain ⟨m, hm, -⟩ := exists_grid_point hlow _ hk he le_rfl
      exact hcount.trans (hfirst _ hk (neighbour?_of_roundsTo hr _ m hm))
    · have hk := digitCount_pos e (he.pos hw)
      obtain ⟨m, hm, hclose⟩ := exists_grid_point hlow _ hk he le_rfl
      have hgrid : digitCount e.digits = c := by
        have := hfirst _ hk (neighbour?_of_roundsTo hr _ m hm)
        omega
      rw [hgrid] at hm hclose
      rw [hvalue]
      exact (neighbour?_closest hr _ n m hn hm).trans hclose

namespace IsShortest

theorem digitCount_eq (hd : IsShortest w d) (he : IsShortest w e) :
    digitCount d.digits = digitCount e.digits :=
  le_antisymm (hd.fewest e he.readsBack) (he.fewest d hd.readsBack)

theorem distance_eq (hd : IsShortest w d) (he : IsShortest w e) :
    |d.toRat - wordValue w| = |e.toRat - wordValue w| :=
  le_antisymm (hd.closest e he.readsBack (he.digitCount_eq hd))
    (he.closest d hd.readsBack (hd.digitCount_eq he))

theorem exists_on_grid (hd : IsShortest w d) (hw : 0 < w)
    (hp : (10 : ℚ) ^ (p - 1) ≤ wordValue w) :
    ∃ m : ℕ, d.toRat = m * 10 ^ (p - digitCount d.digits) := by
  by_cases hreached : (10 : ℚ) ^ (p - 1) ≤ d.toRat
  · exact d.exists_on_grid _ p le_rfl hreached
  · obtain ⟨hround, hclose⟩ := power_closer hp hd.readsBack (not_le.mp hreached)
    have hpower : (⟨1, p - 1⟩ : Decimal).toRat = 10 ^ (p - 1) := by simp [Decimal.toRat]
    have hone : digitCount 1 = 1 := rfl
    rw [← hpower] at hround hclose
    have hfewest := hd.fewest _ hround
    have hpos := digitCount_pos d (hd.readsBack.pos hw)
    exact absurd (hd.closest _ hround (by simp only at hfewest ⊢; omega)) (not_le.mpr hclose)

/-- How an integral double and a shortest decimal of it stand on a grid of natural numbers. -/
theorem exists_nat_grid (hd : IsShortest w d) (hw : 0 < w) (n : ℕ) (hn : wordValue w = n) :
    ∃ j m : ℕ, d.toRat = (m * 10 ^ j : ℕ) ∧ n < 10 ^ (digitCount d.digits + j) ∧
      ∀ e, IsShortest w e → ∃ m' : ℕ, e.toRat = (m' * 10 ^ j : ℕ) := by
  have hpos : 0 < n := by
    have h := wordValue_pos w hw
    rw [hn] at h
    exact_mod_cast h
  obtain ⟨hone, hlow, hhigh⟩ := digitCount_spec n hpos
  have hself : (⟨n, 0⟩ : Decimal).toRat = n := by simp [Decimal.toRat]
  have hcount : digitCount d.digits ≤ digitCount n := by
    apply hd.fewest ⟨n, 0⟩
    rw [hself, ← hn]
    exact roundsTo_wordValue w
  have hp : (10 : ℚ) ^ ((digitCount n : ℤ) - 1) ≤ wordValue w := by
    rw [hn, show (digitCount n : ℤ) - 1 = ((digitCount n - 1 : ℕ) : ℤ) by omega, zpow_natCast]
    exact_mod_cast hlow
  have hgrid (e : Decimal) (he : IsShortest w e) :
      ∃ m : ℕ, e.toRat = (m * 10 ^ (digitCount n - digitCount d.digits) : ℕ) := by
    obtain ⟨m, hm⟩ := he.exists_on_grid hw hp
    refine ⟨m, ?_⟩
    rw [hm, he.digitCount_eq hd, ← Nat.cast_sub hcount, zpow_natCast]
    push_cast
    rfl
  obtain ⟨m, hm⟩ := hgrid d hd
  exact ⟨_, m, hm, by rwa [Nat.add_sub_cancel' hcount], hgrid⟩

theorem toRat_zero (hd : IsShortest 0 d) : d.toRat = 0 := by
  have hpoint : (⟨0, 0⟩ : Decimal).toRat = 0 := by simp [Decimal.toRat]
  have hfewest := hd.fewest ⟨0, 0⟩ (hpoint ▸ roundsTo_zero)
  have hcount : digitCount d.digits = 0 := Nat.le_zero.mp hfewest
  have hdigits := lt_pow_digitCount d.digits
  rw [hcount, pow_zero, Nat.lt_one_iff] at hdigits
  rw [Decimal.toRat, hdigits, Nat.cast_zero, zero_mul]

/-- Below `2 ^ 53`, where the doubles meet every integer, the decimal is the integer. -/
theorem toRat_of_small (hd : IsShortest w d) (n : ℕ) (hn : wordValue w = n) (hsmall : n < 2 ^ 53) :
    d.toRat = n := by
  rcases Nat.eq_zero_or_pos w with rfl | hw
  · rw [hd.toRat_zero, ← hn, wordValue_zero]
  obtain ⟨j, m, hm, -, -⟩ := hd.exists_nat_grid hw n hn
  have hbelow (a : ℕ) (ha : a ≤ 2 ^ 53) (hlt : a < n) : (a : ℚ) < d.toRat := by
    obtain ⟨u, -, hu⟩ := exists_word_nat a ha
    rw [← hu]
    apply hd.readsBack.wordValue_lt u
    rw [hu, hn]
    exact_mod_cast hlt
  have habove : d.toRat < (n + 1 : ℕ) := by
    obtain ⟨u, -, hu⟩ := exists_word_nat (n + 1) (by omega)
    rw [← hu]
    apply hd.readsBack.lt_wordValue u
    rw [hu, hn]
    exact_mod_cast Nat.lt_succ_self n
  rw [hm] at habove hbelow ⊢
  have hle : m * 10 ^ j < n + 1 := by exact_mod_cast habove
  congr 1
  by_contra hne
  have hlt : ((m * 10 ^ j : ℕ) : ℚ) < (m * 10 ^ j : ℕ) := hbelow _ (by omega) (by omega)
  exact lt_irrefl _ hlt

/-- If half an odd multiple of `10 ^ j` is a multiple of `2 ^ b`, then `2 ^ b` is below
`10 ^ j`. -/
theorem pow_two_lt (M b j m : ℕ) (hodd : m % 2 = 1) (hsum : m * 10 ^ j = 2 * (M * 2 ^ b)) :
    2 ^ b < 10 ^ j := by
  have hdvd : 2 ^ (b + 1) ∣ 2 ^ j * (m * 5 ^ j) := by
    refine ⟨M, ?_⟩
    calc 2 ^ j * (m * 5 ^ j) = m * (2 * 5) ^ j := by rw [mul_pow]; ring
      _ = 2 * (M * 2 ^ b) := hsum
      _ = 2 ^ (b + 1) * M := by ring
  have hcoprime : Nat.Coprime (2 ^ (b + 1)) (m * 5 ^ j) := by
    apply Nat.Coprime.pow_left
    apply Nat.Coprime.mul_right
    · exact Nat.coprime_two_left.mpr (Nat.odd_iff.mpr hodd)
    · exact Nat.Coprime.pow_right j (by norm_num)
  have hexponent : b + 1 ≤ j :=
    (Nat.pow_dvd_pow_iff_le_right (by norm_num)).mp (hcoprime.dvd_of_dvd_mul_right hdvd)
  calc 2 ^ b < 2 ^ j := Nat.pow_lt_pow_right one_lt_two hexponent
    _ ≤ 10 ^ j := Nat.pow_le_pow_left (by norm_num) j

/-- A double on the grid of its shortest decimals is spelled exactly. -/
theorem toRat_of_grid (hd : IsShortest w d) (t j : ℕ) (ht : wordValue w = (t * 10 ^ j : ℕ))
    (hsize : t < 10 ^ digitCount d.digits) : d.toRat = wordValue w := by
  have hself : (⟨t, j⟩ : Decimal).toRat = wordValue w := by
    rw [Decimal.toRat, ht, zpow_natCast]
    push_cast
    rfl
  have hreads : RoundsTo (⟨t, j⟩ : Decimal).toRat w := hself ▸ roundsTo_wordValue w
  have hcount : digitCount t ≤ digitCount d.digits := digitCount_le t _ hsize
  have hclose := hd.closest _ hreads (le_antisymm hcount (hd.fewest _ hreads))
  rw [hself, sub_self, abs_zero, abs_nonpos_iff] at hclose
  exact sub_eq_zero.mp hclose

/-- An integral double in the middle between two decimals that read back as it is a multiple of
a power of two as large as half their distance, so as the spacing of their grid. -/
theorem exists_units_of_apart (he : RoundsTo e.toRat w) (n j : ℕ) (hn : wordValue w = n)
    (hmiddle : d.toRat + e.toRat = 2 * wordValue w) (hapart : d.toRat + 10 ^ j ≤ e.toRat) :
    ∃ M b : ℕ, n = M * 2 ^ b ∧ 10 ^ j ≤ 2 ^ b := by
  have hvalue := wordValue_eq w
  have hgap : (10 : ℚ) ^ j ≤ 2 ^ binade w * unit := by
    have hupper := he.upper
    have hnext := wordValue_succ w
    linarith
  have hexponent : 1074 ≤ binade w := by
    by_contra hsmall
    rw [pow_mul_unit (binade w) (binade w - 1074) (by omega)] at hgap
    have hone : (1 : ℚ) ≤ 10 ^ j := one_le_pow₀ (by norm_num)
    have hfrac : (2 : ℚ) ^ ((binade w : ℤ) - 1074) < 1 :=
      zpow_lt_one_of_neg₀ (by norm_num) (by omega)
    linarith
  obtain ⟨b, hb⟩ := Nat.exists_eq_add_of_le hexponent
  rw [pow_mul_unit (binade w) b (by omega), zpow_natCast] at hgap hvalue
  refine ⟨mantissa w, b, ?_, by exact_mod_cast hgap⟩
  rw [hn] at hvalue
  exact_mod_cast hvalue

/-- An integral double is not in the middle between two of its shortest decimals. A middle on
their grid would be spelled exactly, and the double is a multiple of too high a power of two to
be a middle off their grid. -/
theorem toRat_le (hd : IsShortest w d) (he : IsShortest w e) (hw : 0 < w) (n : ℕ)
    (hn : wordValue w = n) : e.toRat ≤ d.toRat := by
  by_contra hle
  have hlt := not_le.mp hle
  have hmiddle : d.toRat + e.toRat = 2 * wordValue w := by
    rcases abs_eq_abs.mp (hd.distance_eq he) with h | h <;> linarith
  obtain ⟨j, m, hm, hsize, hgrid⟩ := hd.exists_nat_grid hw n hn
  obtain ⟨m', hm'⟩ := hgrid e he
  have hsum : (m + m') * 10 ^ j = 2 * n := by
    rw [hm, hm', hn, ← Nat.cast_add, ← add_mul] at hmiddle
    exact_mod_cast hmiddle
  rcases Nat.mod_two_eq_zero_or_one (m + m') with heven | hodd
  · obtain ⟨t, ht⟩ := Nat.dvd_of_mod_eq_zero heven
    have hpoint : n = t * 10 ^ j := by
      rw [ht, mul_assoc] at hsum
      omega
    have hfew : t < 10 ^ digitCount d.digits := by
      rw [hpoint, pow_add] at hsize
      exact Nat.lt_of_mul_lt_mul_right hsize
    have := hd.toRat_of_grid t j (by rw [hn, hpoint]) hfew
    linarith
  · have hapart : d.toRat + 10 ^ j ≤ e.toRat := by
      rw [hm, hm'] at hlt ⊢
      have hlt' : m < m' := Nat.lt_of_mul_lt_mul_right (by exact_mod_cast hlt)
      have hstep : (m + 1) * 10 ^ j ≤ m' * 10 ^ j := Nat.mul_le_mul_right _ hlt'
      rw [add_mul, one_mul] at hstep
      exact_mod_cast hstep
    obtain ⟨M, b, hM, hspace⟩ := exists_units_of_apart he.readsBack n j hn hmiddle hapart
    rw [hM] at hsum
    have := pow_two_lt M b j (m + m') hodd hsum
    omega

/-- All shortest decimals of an integral double have one value. -/
theorem unique (hd : IsShortest w d) (he : IsShortest w e) (n : ℕ) (hn : wordValue w = n) :
    d.toRat = e.toRat := by
  rcases Nat.eq_zero_or_pos w with rfl | hw
  · rw [hd.toRat_zero, he.toRat_zero]
  · exact le_antisymm (he.toRat_le hd hw n hn) (hd.toRat_le he hw n hn)

end IsShortest

end Binary64

end Docbase
