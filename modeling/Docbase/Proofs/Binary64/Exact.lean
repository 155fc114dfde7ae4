import Docbase.Binary64.Basic
import Mathlib.Algebra.Order.Field.Rat
import Mathlib.Order.Monotone.Basic
import Mathlib.Tactic

/-!
The exact values of doubles. The magnitudes, read as numbers, count the doubles upwards from
zero; `units` is the value of a magnitude as a multiple of the least positive double, and it
grows strictly. So the rank of a double orders it by its exact value. Infinity takes the
value `2 ^ 1024` that its fields spell, which is above every finite double.
-/
namespace Docbase

theorem pow2_eq (n : ℕ) : pow2 n = 2 ^ n := rfl

theorem pow10_eq (n : ℕ) : pow10 n = 10 ^ n := rfl

namespace Binary64

/-- The exponent field of a magnitude, those of zero and one taken together. -/
def binade (w : ℕ) : ℕ := max (w / 2 ^ 52) 1 - 1

def mantissa (w : ℕ) : ℕ := if w < 2 ^ 52 then w else 2 ^ 52 + w % 2 ^ 52

/-- The value of a magnitude in units of the least positive double, `2 ^ (-1074)`. -/
def units (w : ℕ) : ℕ := mantissa w * 2 ^ binade w

theorem mantissa_lt (w : ℕ) : mantissa w < 2 ^ 53 := by
  unfold mantissa
  split <;> omega

theorem mantissa_normal (w : ℕ) : 2 ^ 52 ≤ mantissa w ∨ binade w = 0 := by
  unfold mantissa binade
  split <;> omega

theorem mantissa_parity (w : ℕ) : mantissa w % 2 = w % 2 := by
  unfold mantissa
  split <;> omega

theorem word_eq (w : ℕ) : w = binade w * 2 ^ 52 + mantissa w := by
  unfold mantissa binade
  split <;> omega

/-- Every mantissa of a binade has its word, the one past the last rolling over into the
next binade. -/
theorem units_compose (k m : ℕ) (hm : m ≤ 2 ^ 53) (hk : 2 ^ 52 ≤ m ∨ k = 0) :
    units (k * 2 ^ 52 + m) = m * 2 ^ k := by
  by_cases hlast : m = 2 ^ 53
  · have hb : binade (k * 2 ^ 52 + m) = k + 1 := by unfold binade; omega
    have hs : mantissa (k * 2 ^ 52 + m) = 2 ^ 52 := by unfold mantissa; split <;> omega
    rw [units, hb, hs, hlast, pow_succ]
    ring
  · have hb : binade (k * 2 ^ 52 + m) = k := by unfold binade; omega
    have hs : mantissa (k * 2 ^ 52 + m) = m := by unfold mantissa; split <;> omega
    rw [units, hb, hs]

/-- The gap above a double is the unit of its binade. -/
theorem units_succ (w : ℕ) : units (w + 1) = units w + 2 ^ binade w := by
  have hm := mantissa_lt w
  have hw : w + 1 = binade w * 2 ^ 52 + (mantissa w + 1) := by
    have := word_eq w
    omega
  have hn : 2 ^ 52 ≤ mantissa w + 1 ∨ binade w = 0 := by
    rcases mantissa_normal w with h | h
    · exact Or.inl (by omega)
    · exact Or.inr h
  rw [hw, units_compose (binade w) (mantissa w + 1) hm hn, units]
  ring

theorem units_strictMono : StrictMono units := by
  apply strictMono_nat_of_lt_succ
  intro w
  rw [units_succ]
  exact Nat.lt_add_of_pos_right (Nat.two_pow_pos _)

@[simp] theorem units_zero : units 0 = 0 := by
  simp [units, mantissa]

theorem units_lt_iff (v w : ℕ) : units v < units w ↔ v < w := units_strictMono.lt_iff_lt

/-- Every multiple of a power of two with a mantissa of 53 bits is a double. -/
theorem exists_units (k m : ℕ) (hm : m ≤ 2 ^ 53) : ∃ w, units w = m * 2 ^ k := by
  induction k generalizing m with
  | zero => exact ⟨0 * 2 ^ 52 + m, units_compose 0 m hm (Or.inr rfl)⟩
  | succ k ih =>
    by_cases hn : 2 ^ 52 ≤ m
    · exact ⟨(k + 1) * 2 ^ 52 + m, units_compose (k + 1) m hm (Or.inl hn)⟩
    · obtain ⟨w, hw⟩ := ih (2 * m) (by omega)
      exact ⟨w, by rw [hw, pow_succ]; ring⟩

/-- The least positive double. -/
def unit : ℚ := 2 ^ (-1074 : ℤ)

theorem unit_pos : 0 < unit := by
  unfold unit
  positivity

theorem pow_mul_unit (k : ℕ) (e : ℤ) (h : e + 1074 = k) : (2 : ℚ) ^ k * unit = 2 ^ e := by
  rw [unit, ← zpow_natCast, ← zpow_add₀ two_ne_zero]
  congr 1
  omega

/-- The exact value of a magnitude. -/
def wordValue (w : ℕ) : ℚ := units w * unit

theorem wordValue_strictMono : StrictMono wordValue := by
  intro v w h
  have hu : (units v : ℚ) < units w := by exact_mod_cast units_strictMono h
  exact mul_lt_mul_of_pos_right hu unit_pos

@[simp] theorem wordValue_zero : wordValue 0 = 0 := by simp [wordValue]

theorem wordValue_nonneg (w : ℕ) : 0 ≤ wordValue w :=
  mul_nonneg (Nat.cast_nonneg _) unit_pos.le

theorem wordValue_pos (w : ℕ) (h : 0 < w) : 0 < wordValue w := by
  simpa using wordValue_strictMono h

theorem wordValue_compose (k m : ℕ) (hm : m ≤ 2 ^ 53) (hk : 2 ^ 52 ≤ m ∨ k = 0) :
    wordValue (k * 2 ^ 52 + m) = m * (2 ^ k * unit) := by
  rw [wordValue, units_compose k m hm hk]
  push_cast
  ring

theorem wordValue_eq (w : ℕ) : wordValue w = mantissa w * (2 ^ binade w * unit) := by
  rw [wordValue, units]
  push_cast
  ring

theorem wordValue_succ (w : ℕ) : wordValue (w + 1) = (mantissa w + 1) * (2 ^ binade w * unit) := by
  rw [wordValue, units_succ, units]
  push_cast
  ring

/-- Below the first double of a binade the gap is half as wide. -/
theorem wordValue_pred (w : ℕ) (hw : 0 < w) :
    wordValue (w - 1) =
      (mantissa w - if mantissa w = 2 ^ 52 ∧ 0 < binade w then 1 / 2 else 1) *
        (2 ^ binade w * unit) := by
  obtain ⟨v, rfl⟩ := Nat.exists_eq_add_of_lt hw
  rw [zero_add, Nat.add_sub_cancel]
  have hsucc := wordValue_succ v
  rw [wordValue_eq (v + 1)] at hsucc
  rw [wordValue_eq v]
  split
  · rename_i hfirst
    have hbinade : binade (v + 1) = binade v + 1 := by
      have := mantissa_lt v
      have hv := word_eq v
      have hv' := word_eq (v + 1)
      have hn := mantissa_normal v
      omega
    rw [hbinade, pow_succ] at hsucc ⊢
    linarith
  · rename_i hrest
    have hbinade : binade (v + 1) = binade v := by
      have := mantissa_lt v
      have := mantissa_lt (v + 1)
      have hv := word_eq v
      have hv' := word_eq (v + 1)
      have hn := mantissa_normal v
      have hn' := mantissa_normal (v + 1)
      omega
    rw [hbinade] at hsucc ⊢
    linarith

/-- The exact value of a double; NaN has the value that its fields spell. -/
def toRat (x : Binary64) : ℚ := x.signedSignificand * 2 ^ x.exponent

theorem significand_eq (x : Binary64) : x.significand = mantissa x.magnitude := rfl

theorem exponent_eq (x : Binary64) : x.exponent = (binade x.magnitude : ℤ) - 1074 := by
  unfold exponent binade
  rw [pow2_eq]
  omega

theorem magnitude_value (x : Binary64) :
    (x.significand : ℚ) * 2 ^ x.exponent = wordValue x.magnitude := by
  rw [exponent_eq, sub_eq_add_neg, zpow_add₀ two_ne_zero, zpow_natCast, ← unit, wordValue,
    units, significand_eq]
  push_cast
  ring

theorem toRat_eq (x : Binary64) :
    x.toRat = if x.isNegative then -wordValue x.magnitude else wordValue x.magnitude := by
  rw [toRat, signedSignificand, ← magnitude_value]
  cases x.isNegative with
  | false => simp
  | true => simp [neg_mul]

theorem abs_toRat (x : Binary64) : |x.toRat| = wordValue x.magnitude := by
  have h := wordValue_nonneg x.magnitude
  rw [toRat_eq]
  split
  · rw [abs_neg, abs_of_nonneg h]
  · exact abs_of_nonneg h

theorem cmp_neg_neg {α : Type*} [AddCommGroup α] [LinearOrder α] [IsOrderedAddMonoid α]
    (a b : α) : cmp (-a) (-b) = cmp b a := by
  have hanti : StrictAnti fun r : α => -r := fun _ _ h => neg_lt_neg h
  exact hanti.cmp_map_eq a b

/-- Across zero only the signs count, and whether both numbers are zero. -/
theorem cmp_opposite (p q : ℚ) (v w : ℕ) (hp : 0 < v → 0 < p) (hp0 : v = 0 → p = 0)
    (hq : 0 < w → 0 < q) (hq0 : w = 0 → q = 0) :
    cmp (v : ℤ) (-(w : ℤ)) = cmp p (-q) := by
  rcases Nat.eq_zero_or_pos v with hv | hv
  · rcases Nat.eq_zero_or_pos w with hw | hw
    · rw [hp0 hv, hq0 hw, hv, hw, Nat.cast_zero, neg_zero, neg_zero, cmp_self_eq_eq,
        cmp_self_eq_eq]
    · have hq' := hq hw
      rw [hp0 hv, (cmp_eq_gt_iff _ _).mpr (by omega), (cmp_eq_gt_iff _ _).mpr (by linarith)]
  · have hp' := hp hv
    have hq' : 0 ≤ q := by
      rcases Nat.eq_zero_or_pos w with hw | hw
      · exact (hq0 hw).ge
      · exact (hq hw).le
    rw [(cmp_eq_gt_iff _ _).mpr (by omega), (cmp_eq_gt_iff _ _).mpr (by linarith)]

/-- Attaching signs to magnitudes and to their values orders both alike; the two zeros are
equal. -/
theorem cmp_signed (s t : Bool) (p q : ℚ) (v w : ℕ) (hp : 0 < v → 0 < p) (hp0 : v = 0 → p = 0)
    (hq : 0 < w → 0 < q) (hq0 : w = 0 → q = 0) (h : cmp p q = cmp v w) :
    compare (if s then -(v : ℤ) else v) (if t then -(w : ℤ) else w) =
      cmp (if s then -p else p) (if t then -q else q) := by
  have hcast : cmp (v : ℤ) (w : ℤ) = cmp p q :=
    (Nat.strictMono_cast.cmp_map_eq v w).trans h.symm
  rw [← cmp_eq_compare]
  cases s with
  | false =>
    cases t with
    | false => exact hcast
    | true => exact cmp_opposite p q v w hp hp0 hq hq0
  | true =>
    cases t with
    | false =>
      have hopposite := cmp_opposite q p w v hq hq0 hp hp0
      have hswap := congrArg Ordering.swap hopposite
      rw [cmp_swap, cmp_swap] at hswap
      exact hswap
    | true =>
      have hboth : cmp (-(v : ℤ)) (-(w : ℤ)) = cmp (-p) (-q) := by
        rw [cmp_neg_neg, cmp_neg_neg, ← cmp_swap, hcast, cmp_swap]
      exact hboth

/-- The ranks order the doubles by their exact values. -/
theorem compare_rank (x y : Binary64) : compare x.rank y.rank = cmp x.toRat y.toRat := by
  rw [toRat_eq, toRat_eq]
  exact cmp_signed _ _ _ _ _ _ (wordValue_pos _) (fun h => by simp [h]) (wordValue_pos _)
    (fun h => by simp [h]) (wordValue_strictMono.cmp_map_eq _ _)

end Binary64

end Docbase
