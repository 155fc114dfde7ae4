import Docbase.Binary64.Shortest
import Docbase.Proofs.Binary64.Rounding

/-!
The shortest decimal reads back. A grid point that the search accepts lies between the
midpoints around the double, so it rounds to it, and the grid of seventeen digits always has
such a point. The decimal of an integral double is an integer: the search meets the double
itself on the grid of ones.
-/
namespace Docbase

namespace Decimal

/-- The value of a decimal. -/
def toRat (d : Decimal) : ℚ := d.digits * 10 ^ d.exponent

theorem digitCountFrom_spec (fuel n : ℕ) (hfuel : n ≤ fuel) (hn : 0 < n) :
    0 < digitCountFrom fuel n ∧ 10 ^ (digitCountFrom fuel n - 1) ≤ n ∧
      n < 10 ^ digitCountFrom fuel n := by
  induction fuel generalizing n with
  | zero => omega
  | succ fuel ih =>
    rw [digitCountFrom, if_neg hn.ne']
    rcases Nat.eq_zero_or_pos (n / 10) with hlast | hmore
    · have hzero : digitCountFrom fuel 0 = 0 := by cases fuel <;> simp [digitCountFrom]
      rw [hlast, hzero]
      simp only [add_zero, Nat.sub_self, pow_zero, pow_one]
      omega
    · obtain ⟨hpos, hlow, hhigh⟩ := ih (n / 10) (by omega) hmore
      obtain ⟨k, hk⟩ := Nat.exists_eq_add_of_lt hpos
      rw [hk] at hlow hhigh ⊢
      simp only [zero_add, Nat.add_sub_cancel] at hlow hhigh
      rw [show 1 + (0 + k + 1) - 1 = k + 1 by omega, show 1 + (0 + k + 1) = k + 1 + 1 by omega,
        pow_succ 10 (k + 1), pow_succ 10 k]
      rw [pow_succ] at hhigh
      omega

theorem digitCount_spec (n : ℕ) (hn : 0 < n) :
    0 < digitCount n ∧ 10 ^ (digitCount n - 1) ≤ n ∧ n < 10 ^ digitCount n :=
  digitCountFrom_spec n n le_rfl hn

theorem trimFrom_spec (fuel : ℕ) (d : Decimal) :
    (trimFrom fuel d).toRat = d.toRat ∧ d.exponent ≤ (trimFrom fuel d).exponent := by
  induction fuel generalizing d with
  | zero => exact ⟨rfl, le_rfl⟩
  | succ fuel ih =>
    rw [trimFrom]
    split
    · rename_i hzero
      obtain ⟨hvalue, hexp⟩ := ih ⟨d.digits / 10, d.exponent + 1⟩
      refine ⟨hvalue.trans ?_, by simp only at hexp; omega⟩
      have hdigits : ((d.digits / 10 : ℕ) : ℚ) * 10 = d.digits := by
        exact_mod_cast Nat.div_mul_cancel (Nat.dvd_of_mod_eq_zero hzero)
      rw [toRat, toRat, zpow_add_one₀ (by norm_num), ← hdigits]
      ring
    · exact ⟨rfl, le_rfl⟩

/-- Dropping trailing zeros keeps the value. -/
theorem toRat_trim (d : Decimal) : d.trim.toRat = d.toRat := by
  unfold trim
  split
  · rename_i hzero
    simp [toRat, hzero]
  · exact (trimFrom_spec 40 d).1

theorem exponent_trim (d : Decimal) (h : 0 ≤ d.exponent) : 0 ≤ d.trim.exponent := by
  unfold trim
  split
  · exact le_rfl
  · exact h.trans (trimFrom_spec 40 d).2

end Decimal

namespace RoundingInterval

open Binary64

/-- The interval of a double, over its denominator: its value, and the midpoints to the
neighbours. -/
structure Bounds (r : RoundingInterval) (w : ℕ) : Prop where
  denominator_pos : 0 < r.denominator
  lower : 2 * (r.lower : ℚ) = (wordValue (w - 1) + wordValue w) * r.denominator
  value : (r.value : ℚ) = wordValue w * r.denominator
  upper : 2 * (r.upper : ℚ) = (wordValue w + wordValue (w + 1)) * r.denominator
  closed : r.closed = true ↔ w % 2 = 0

theorem scale_ratio (p : ℤ) :
    ((if 0 ≤ p then pow2 p.toNat else 1 : ℕ) : ℚ) =
      2 ^ p * ((if 0 ≤ p then 1 else pow2 (-p).toNat : ℕ) : ℚ) := by
  by_cases hp : 0 ≤ p
  · obtain ⟨n, rfl⟩ := Int.eq_ofNat_of_zero_le hp
    rw [if_pos hp, if_pos hp, Int.toNat_natCast, pow2_eq, zpow_natCast]
    push_cast
    ring
  · obtain ⟨n, hn⟩ := Int.eq_ofNat_of_zero_le (show 0 ≤ -p by omega)
    rw [if_neg hp, if_neg hp, hn, Int.toNat_natCast, pow2_eq, show p = -(n : ℤ) by omega,
      zpow_neg, zpow_natCast]
    push_cast
    field_simp

theorem significand_pos (x : Binary64) (hx : 0 < x.magnitude) : 0 < x.significand := by
  have hword := word_eq x.magnitude
  rw [significand_eq]
  rcases mantissa_normal x.magnitude with h | h
  · omega
  · rw [h] at hword
    omega

/-- The interval of a double reaches to the midpoints. -/
theorem bounds_ofBinary64 (x : Binary64) (hx : 0 < x.magnitude) :
    Bounds (ofBinary64 x) x.magnitude := by
  have hm := significand_pos x hx
  have hfirst : x.significand = pow2 52 ∧ -1074 < x.exponent ↔
      x.significand = 2 ^ 52 ∧ 0 < binade x.magnitude := by
    rw [exponent_eq, pow2_eq]
    omega
  have hunit : (2 : ℚ) ^ binade x.magnitude * unit = 4 * 2 ^ (x.exponent - 2) := by
    rw [pow_mul_unit (binade x.magnitude) x.exponent (by rw [exponent_eq]; ring),
      zpow_sub₀ two_ne_zero]
    norm_num
    ring
  have hvalue := wordValue_eq x.magnitude
  have hnext := wordValue_succ x.magnitude
  have hprev := wordValue_pred x.magnitude hx
  rw [hunit, ← significand_eq] at hvalue hnext hprev
  have hscale := scale_ratio (x.exponent - 2)
  set denominator := if 0 ≤ x.exponent - 2 then 1 else pow2 (-(x.exponent - 2)).toNat with hden
  set scale := if 0 ≤ x.exponent - 2 then pow2 (x.exponent - 2).toNat else 1
  refine ⟨?_, ?_, ?_, ?_, ?_⟩
  · change 0 < denominator
    rw [hden]
    split
    · exact one_pos
    · exact Nat.two_pow_pos _
  · change 2 * (((4 * x.significand - if x.significand = pow2 52 ∧ -1074 < x.exponent then 1
      else 2) * scale : ℕ) : ℚ) = _ * (denominator : ℚ)
    rw [Nat.cast_mul, hscale, hprev, hvalue]
    by_cases h : x.significand = 2 ^ 52 ∧ 0 < binade x.magnitude
    · rw [if_pos (hfirst.mpr h), if_pos h, Nat.cast_sub (by omega)]
      push_cast
      ring
    · rw [if_neg (mt hfirst.mp h), if_neg h, Nat.cast_sub (by omega)]
      push_cast
      ring
  · change ((4 * x.significand * scale : ℕ) : ℚ) = _ * (denominator : ℚ)
    rw [Nat.cast_mul, hscale, hvalue]
    push_cast
    ring
  · change 2 * (((4 * x.significand + 2) * scale : ℕ) : ℚ) = _ * (denominator : ℚ)
    rw [Nat.cast_mul, hscale, hnext, hvalue]
    push_cast
    ring
  · rw [← mantissa_parity]
    exact beq_iff_eq

variable {r : RoundingInterval} {w : ℕ}

/-- Both sides of a comparison with a grid point carry the same power of ten. -/
theorem scaled_point (r : RoundingInterval) (n : ℕ) (s : ℤ) :
    ((if 0 ≤ s then n * pow10 s.toNat * r.denominator else n * r.denominator : ℕ) : ℚ) =
      n * 10 ^ s * r.denominator * ((if 0 ≤ s then 1 else pow10 (-s).toNat : ℕ) : ℚ) := by
  by_cases hs : 0 ≤ s
  · obtain ⟨k, rfl⟩ := Int.eq_ofNat_of_zero_le hs
    rw [if_pos hs, if_pos hs, Int.toNat_natCast, zpow_natCast, pow10_eq]
    push_cast
    ring
  · obtain ⟨k, hk⟩ := Int.eq_ofNat_of_zero_le (show 0 ≤ -s by omega)
    rw [if_neg hs, if_neg hs, hk, Int.toNat_natCast, show s = -(k : ℤ) by omega, zpow_neg,
      zpow_natCast, pow10_eq]
    push_cast
    field_simp

theorem limit_le_iff (limit here scale denominator : ℕ) (q side : ℚ) (hscale : 0 < scale)
    (hden : 0 < denominator) (hhere : (here : ℚ) = q * denominator * scale)
    (hlimit : 2 * (limit : ℚ) = side * denominator) :
    (limit * scale ≤ here ↔ side ≤ 2 * q) ∧ (here ≤ limit * scale ↔ 2 * q ≤ side) := by
  have hpos : (0 : ℚ) < denominator * scale := by positivity
  have hside : 2 * ((limit * scale : ℕ) : ℚ) = side * (denominator * scale) := by
    push_cast
    linear_combination (scale : ℚ) * hlimit
  have hpoint : 2 * (here : ℚ) = 2 * q * (denominator * scale) := by
    rw [hhere]
    ring
  have hlow : side ≤ 2 * q ↔ ((limit * scale : ℕ) : ℚ) ≤ here := by
    rw [← mul_le_mul_iff_left₀ hpos, ← hside, ← hpoint]
    constructor <;> intro h <;> linarith
  have hhigh : 2 * q ≤ side ↔ (here : ℚ) ≤ (limit * scale : ℕ) := by
    rw [← mul_le_mul_iff_left₀ hpos, ← hside, ← hpoint]
    constructor <;> intro h <;> linarith
  rw [hlow, hhigh, Nat.cast_le, Nat.cast_le]
  exact ⟨Iff.rfl, Iff.rfl⟩

/-- A grid point lies in the interval of a double exactly when it rounds to the double. -/
theorem contains_iff (hr : Bounds r w) (n : ℕ) (s : ℤ) :
    r.contains n s = true ↔ RoundsTo ((n : ℚ) * 10 ^ s) w := by
  have hscale : 0 < if 0 ≤ s then 1 else pow10 (-s).toNat := by
    split
    · exact one_pos
    · exact Nat.pow_pos (by norm_num)
  have hpoint := scaled_point r n s
  obtain ⟨hlow, hlow'⟩ := limit_le_iff _ _ _ _ _ _ hscale hr.denominator_pos hpoint hr.lower
  obtain ⟨hup', hup⟩ := limit_le_iff _ _ _ _ _ _ hscale hr.denominator_pos hpoint hr.upper
  unfold contains
  dsimp only
  by_cases heven : w % 2 = 0
  · rw [if_pos (hr.closed.mpr heven), Bool.and_eq_true, decide_eq_true_eq, decide_eq_true_eq,
      hlow, hup]
    exact ⟨fun h => ⟨h.1, h.2, fun hodd => by omega⟩, fun h => ⟨h.lower, h.upper⟩⟩
  · rw [if_neg (mt hr.closed.mp heven), Bool.and_eq_true, decide_eq_true_eq, decide_eq_true_eq,
      ← not_le, ← not_le, hlow', hup', not_le, not_le]
    exact ⟨fun h => ⟨h.1.le, h.2.le, fun _ => h⟩, fun h => h.inner (by omega)⟩

/-- The grid point below the value. -/
theorem floorOn_spec (hr : Bounds r w) (s : ℤ) :
    ((r.floorOn s).1 : ℚ) * 10 ^ s ≤ wordValue w ∧
      wordValue w < (((r.floorOn s).1 : ℚ) + 1) * 10 ^ s := by
  have hden : (0 : ℚ) < r.denominator := by exact_mod_cast hr.denominator_pos
  have hpow : (0 : ℚ) < 10 ^ s := by positivity
  have hvalue : (r.value : ℚ) / r.denominator = wordValue w := by
    rw [hr.value, mul_div_cancel_right₀ _ hden.ne']
  have hratio := scaled_ratio 10 (by norm_num) r.value r.denominator s
  have hpos : 0 < if 0 ≤ s then r.denominator * 10 ^ s.toNat else r.denominator := by
    have := hr.denominator_pos
    split <;> positivity
  obtain ⟨hlow, hhigh, -, -⟩ := quotient_spec
    (if 0 ≤ s then r.value else r.value * 10 ^ (-s).toNat) _ hpos
  rw [hratio, hvalue] at hlow hhigh
  exact ⟨(le_div_iff₀ hpow).mp hlow, (div_lt_iff₀ hpow).mp hhigh⟩

theorem roundsTo_neighbour (hr : Bounds r w) (s : ℤ) (n : ℕ) (h : r.neighbour? s = some n) :
    RoundsTo ((n : ℚ) * 10 ^ s) w := by
  apply (contains_iff hr n s).mp
  unfold neighbour? at h
  dsimp only at h
  split at h
  · rename_i hfloor hnext
    have hn := Option.some.inj h
    split at hn
    · rw [← hn]; exact hfloor
    · rw [← hn]; exact hnext
  · rename_i hfloor hnext
    rw [← Option.some.inj h]; exact hfloor
  · rename_i hfloor hnext
    rw [← Option.some.inj h]; exact hnext
  · simp at h

theorem neighbour?_isSome (s : ℤ)
    (h : r.contains (r.floorOn s).1 s = true ∨ r.contains ((r.floorOn s).1 + 1) s = true) :
    (r.neighbour? s).isSome = true := by
  unfold neighbour?
  dsimp only
  split
  · rfl
  · rfl
  · rfl
  · rename_i hfloor hnext
    simp [hfloor, hnext] at h

/-- A grid finer than the gaps around a double has a point that rounds to it. -/
theorem neighbour?_of_fine (hr : Bounds r w) (s : ℤ)
    (hfine : 2 * (10 : ℚ) ^ s < wordValue (w + 1) - wordValue (w - 1)) :
    (r.neighbour? s).isSome = true := by
  obtain ⟨hlow, hhigh⟩ := floorOn_spec hr s
  have hprev := wordValue_strictMono.monotone (Nat.sub_le w 1)
  have hnext := wordValue_strictMono (Nat.lt_succ_self w)
  apply neighbour?_isSome
  by_cases h : wordValue (w - 1) + wordValue w < 2 * (((r.floorOn s).1 : ℚ) * 10 ^ s)
  · left
    rw [contains_iff hr]
    exact ⟨h.le, by linarith, fun _ => ⟨h, by linarith⟩⟩
  · right
    rw [contains_iff hr]
    push_cast
    rw [not_lt] at h
    exact ⟨by linarith, by linarith, fun _ => ⟨by linarith, by linarith⟩⟩

/-- A grid with a point that rounds to the double has a neighbour of the double that does. -/
theorem neighbour?_of_roundsTo (hr : Bounds r w) (s : ℤ) (n : ℕ)
    (hn : RoundsTo ((n : ℚ) * 10 ^ s) w) : (r.neighbour? s).isSome = true := by
  obtain ⟨hlow, hhigh⟩ := floorOn_spec hr s
  have hpow : (0 : ℚ) < 10 ^ s := by positivity
  apply neighbour?_isSome
  by_cases hle : n ≤ (r.floorOn s).1
  · left
    rw [contains_iff hr]
    refine hn.between (roundsTo_wordValue w) ?_ hlow
    gcongr
  · right
    rw [contains_iff hr]
    refine (roundsTo_wordValue w).between hn (by push_cast; exact hhigh.le) ?_
    gcongr
    omega

theorem point_spec (hr : Bounds r w) (hw : 0 < w) :
    (10 : ℚ) ^ (r.point - 1) ≤ wordValue w ∧ wordValue w < 10 ^ r.point := by
  have hden := hr.denominator_pos
  have hdenQ : (0 : ℚ) < r.denominator := by exact_mod_cast hden
  have hvalueQ : (0 : ℚ) < r.value := by
    rw [hr.value]
    exact mul_pos (wordValue_pos w hw) hdenQ
  have hvalue : 0 < r.value := by exact_mod_cast hvalueQ
  have hratio : wordValue w = r.value / r.denominator := by
    rw [hr.value, mul_div_cancel_right₀ _ hdenQ.ne']
  unfold point
  rw [hratio]
  split
  · rename_i hle
    obtain ⟨hpos, hlow, hhigh⟩ := Decimal.digitCount_spec (r.value / r.denominator)
      (Nat.div_pos hle hden)
    set count := Decimal.digitCount (r.value / r.denominator)
    constructor
    · rw [show (count : ℤ) - 1 = ((count - 1 : ℕ) : ℤ) by omega, zpow_natCast, le_div_iff₀ hdenQ]
      exact_mod_cast (Nat.le_div_iff_mul_le hden).mp hlow
    · rw [zpow_natCast, div_lt_iff₀ hdenQ]
      exact_mod_cast (Nat.div_lt_iff_lt_mul hden).mp hhigh
  · rename_i hlt
    obtain ⟨hpos, hlow, hhigh⟩ := Decimal.digitCount_spec ((r.denominator - 1) / r.value)
      (Nat.div_pos (by omega) hvalue)
    set count := Decimal.digitCount ((r.denominator - 1) / r.value)
    have hlow' := (Nat.le_div_iff_mul_le hvalue).mp hlow
    have hhigh' := (Nat.div_lt_iff_lt_mul hvalue).mp hhigh
    have hbelow : (10 : ℚ) ^ (count - 1) * r.value < r.denominator := by
      exact_mod_cast show 10 ^ (count - 1) * r.value < r.denominator by omega
    have habove : (r.denominator : ℚ) ≤ 10 ^ count * r.value := by
      exact_mod_cast show r.denominator ≤ 10 ^ count * r.value by omega
    constructor
    · rw [show (1 : ℤ) - count - 1 = -(count : ℤ) by omega, zpow_neg, zpow_natCast,
        le_div_iff₀ hdenQ, inv_mul_le_iff₀ (by positivity)]
      exact habove
    · rw [show (1 : ℤ) - count = -((count - 1 : ℕ) : ℤ) by omega, zpow_neg, zpow_natCast,
        div_lt_iff₀ hdenQ, ← div_eq_inv_mul, lt_div_iff₀ (by positivity), mul_comm]
      exact hbelow

/-- The gaps around a double are wider than the steps of seventeen digits. -/
theorem wordValue_lt_gaps (w : ℕ) (hw : 0 < w) :
    2 * wordValue w < 10 ^ 16 * (wordValue (w + 1) - wordValue (w - 1)) := by
  have hunit : 0 < 2 ^ binade w * unit := mul_pos (by positivity) unit_pos
  have hm : (mantissa w : ℚ) < 2 ^ 53 := by exact_mod_cast mantissa_lt w
  rw [wordValue_pred w hw, wordValue_succ, wordValue_eq w, ← sub_mul]
  split
  · rename_i hfirst
    rw [hfirst.1]
    push_cast
    linarith
  · have := mul_lt_mul_of_pos_right hm hunit
    linarith

theorem neighbour?_seventeen (hr : Bounds r w) (hw : 0 < w) :
    (r.neighbour? (r.point - 17)).isSome = true := by
  apply neighbour?_of_fine hr
  obtain ⟨hlow, -⟩ := point_spec hr hw
  have hgaps := wordValue_lt_gaps w hw
  have hstep : (10 : ℚ) ^ (r.point - 1) = 10 ^ (r.point - 17) * 10 ^ 16 := by
    rw [← zpow_natCast, ← zpow_add₀ (by norm_num)]
    congr 1
    push_cast
    ring
  linarith

/-- The search ends at the first grid with a neighbour. -/
theorem shortestFrom_spec (r : RoundingInterval) (fuel count c : ℕ) (hc : count ≤ c)
    (hfuel : c < count + fuel) (h : (r.neighbour? (r.point - c)).isSome = true) :
    ∃ c' n, count ≤ c' ∧ c' ≤ c ∧ r.neighbour? (r.point - c') = some n ∧
      r.shortestFrom fuel count = ⟨n, r.point - c'⟩ := by
  induction fuel generalizing count with
  | zero => omega
  | succ fuel ih =>
    rw [shortestFrom]
    cases hn : r.neighbour? (r.point - count) with
    | some n => exact ⟨count, n, le_rfl, hc, hn, rfl⟩
    | none =>
      have hne : count ≠ c := by
        rintro rfl
        simp [hn] at h
      obtain ⟨c', n, hcount, hrest⟩ := ih (count + 1) (by omega) (by omega)
      exact ⟨c', n, by omega, hrest⟩

/-- The digits found, on a grid no finer than any grid of at most seventeen digits that has
a neighbour. -/
theorem shortestFrom_roundsTo (hr : Bounds r w) (c : ℕ) (hc : 1 ≤ c) (hc' : c ≤ 17)
    (h : (r.neighbour? (r.point - c)).isSome = true) :
    RoundsTo (r.shortestFrom 17 1).toRat w ∧ r.point - c ≤ (r.shortestFrom 17 1).exponent := by
  obtain ⟨c', n, -, hle, hn, heq⟩ := shortestFrom_spec r 17 1 c hc (by omega) h
  rw [heq]
  exact ⟨roundsTo_neighbour hr _ n hn, by simp only; omega⟩

end RoundingInterval

namespace Binary64

open RoundingInterval

theorem significand_eq_zero_iff (x : Binary64) : x.significand = 0 ↔ x.magnitude = 0 := by
  constructor
  · intro h
    by_contra hne
    have := significand_pos x (Nat.pos_of_ne_zero hne)
    omega
  · intro h
    simp [significand_eq, h, mantissa]

/-- The shortest decimal of a double reads back as its magnitude. -/
theorem shortest_roundsTo (x : Binary64) : RoundsTo x.shortest.toRat x.magnitude := by
  unfold shortest
  split
  · rename_i hzero
    rw [(significand_eq_zero_iff x).mp hzero]
    simpa [Decimal.toRat] using roundsTo_zero
  · rename_i hpos
    have hx := Nat.pos_of_ne_zero (mt (significand_eq_zero_iff x).mpr hpos)
    have hr := bounds_ofBinary64 x hx
    rw [Decimal.toRat_trim]
    exact (shortestFrom_roundsTo hr 17 (by norm_num) le_rfl (neighbour?_seventeen hr hx)).1

/-- The decimal of an integral double is an integer. The search meets the double on the grid
of ones, or it ends before that on a coarser grid. -/
theorem exponent_shortest (x : Binary64) (n : ℕ) (hn : wordValue x.magnitude = n) :
    0 ≤ x.shortest.exponent := by
  unfold shortest
  split
  · exact le_rfl
  · rename_i hpos
    have hx := Nat.pos_of_ne_zero (mt (significand_eq_zero_iff x).mpr hpos)
    have hr := bounds_ofBinary64 x hx
    apply Decimal.exponent_trim
    set r := RoundingInterval.ofBinary64 x
    have hone : (1 : ℚ) ≤ n := by
      have h0 := wordValue_pos x.magnitude hx
      rw [hn] at h0
      exact_mod_cast h0
    have hpoint : 0 < r.point := by
      have h := (point_spec hr hx).2
      rw [hn] at h
      by_contra hle
      have := zpow_le_one_of_nonpos₀ (show (1 : ℚ) ≤ 10 by norm_num) (not_lt.mp hle)
      linarith
    by_cases hcount : r.point ≤ 17
    · obtain ⟨p, hp⟩ := Int.eq_ofNat_of_zero_le hpoint.le
      have hgrid : (r.neighbour? (r.point - p)).isSome = true := by
        rw [hp, sub_self]
        apply neighbour?_of_roundsTo hr 0 n
        simpa [hn] using roundsTo_wordValue x.magnitude
      have := (shortestFrom_roundsTo hr p (by omega) (by omega) hgrid).2
      omega
    · have := (shortestFrom_roundsTo hr 17 (by norm_num) le_rfl (neighbour?_seventeen hr hx)).2
      push_cast at this
      omega

end Binary64

end Docbase
