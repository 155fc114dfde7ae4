import Docbase.Proofs.Binary64.Decimal
import Docbase.Proofs.Binary64.Minimal
import Docbase.Proofs.Value.Shape
import Docbase.Proofs.Value.Number

/-!
The number that a double spells, its shortest decimal, against an integer of 64 bits. Where
integers are compared as doubles no integer is strictly between a double and its decimal; on
the rest of the range the search is for the same decimal, since an integral double has only
one.
-/
namespace Docbase

namespace Binary64

/-- The number written by the shortest decimal of a double; it lies beyond all decimals for the
infinities. -/
inductive Spells (x : Binary64) : WithBot (WithTop ℚ) → Prop
  | finite {d : Decimal} : x.isFinite = true → IsShortest x.magnitude d →
      Spells x ((if x.isNegative then -d.toRat else d.toRat : ℚ) : WithTop ℚ)
  | infinite : x.isInfinite = true → Spells x (if x.isNegative then ⊥ else ⊤)

theorem exists_spells (x : Binary64) (h : x.isNaN = false) : ∃ q, x.Spells q := by
  by_cases hfinite : x.isFinite = true
  · exact ⟨_, .finite hfinite (isShortest_shortest x)⟩
  · refine ⟨_, .infinite (beq_iff_eq.mpr ?_)⟩
    simp only [isNaN, isFinite, decide_eq_true_eq, decide_eq_false_iff_not] at h hfinite
    omega

/-- Where the doubles have every integer, and past the integers of 64 bits, an integer is on
the same side of a double and of its decimal. -/
theorem IsShortest.cmp_eq {w : ℕ} {d : Decimal} (hd : IsShortest w d) (a : ℕ) (ha : a ≤ 2 ^ 63)
    (hw : wordValue w < 2 ^ 53 ∨ 10 ^ 19 ≤ wordValue w) :
    cmp (a : ℚ) d.toRat = cmp (a : ℚ) (wordValue w) := by
  have hself := roundsTo_wordValue w
  by_cases hsmall : a ≤ 2 ^ 53
  · obtain ⟨u, -, hu⟩ := exists_word_nat a hsmall
    have hround := roundsTo_wordValue u
    rw [hu] at hround
    rcases lt_trichotomy u w with h | h | h
    · rw [(cmp_eq_lt_iff _ _).mpr (hround.lt hd.readsBack h),
        (cmp_eq_lt_iff _ _).mpr (hround.lt hself h)]
    · rw [h] at hu
      have hlt : a < 2 ^ 53 := by
        rw [hu] at hw
        rcases hw with hw | hw
        · exact_mod_cast hw
        · have hwide : 10 ^ 19 ≤ a := by exact_mod_cast hw
          omega
      rw [hd.toRat_of_small a hu hlt, hu]
    · rw [(cmp_eq_gt_iff _ _).mpr (hd.readsBack.lt hround h),
        (cmp_eq_gt_iff _ _).mpr (hself.lt hround h)]
  · rcases hw with hw | hw
    · obtain ⟨u, -, hu⟩ := exists_word_pow 53 (by norm_num)
      rw [← hu] at hw
      have hbelow := hd.readsBack.lt_wordValue u hw
      have hlow : wordValue u < a := by
        rw [hu]
        exact_mod_cast not_le.mp hsmall
      rw [(cmp_eq_gt_iff _ _).mpr (hbelow.trans hlow), (cmp_eq_gt_iff _ _).mpr (hw.trans hlow)]
    · obtain ⟨u, -, hu⟩ := exists_word_pow 63 (by norm_num)
      have hlt : wordValue u < wordValue w := by
        rw [hu]
        exact lt_of_lt_of_le (by norm_num) hw
      have habove := hd.readsBack.wordValue_lt u hlt
      have hhigh : (a : ℚ) ≤ wordValue u := by
        rw [hu]
        exact_mod_cast ha
      rw [(cmp_eq_lt_iff _ _).mpr (hhigh.trans_lt habove),
        (cmp_eq_lt_iff _ _).mpr (hhigh.trans_lt hlt)]

/-- An integer whose distance from zero is on the same side of two numbers is so for their
negatives too. -/
theorem cmp_signed_congr (i : ℤ) (s : Bool) (p q : ℚ) (hp : 0 ≤ p) (hq : 0 ≤ q)
    (h : cmp (i.natAbs : ℚ) p = cmp (i.natAbs : ℚ) q) :
    cmp (i : ℚ) (if s then -p else p) = cmp (i : ℚ) (if s then -q else q) := by
  rw [← abs_intCast] at h
  cases s with
  | true =>
    rw [if_pos rfl, if_pos rfl]
    rcases lt_or_ge 0 (i : ℚ) with hi | hi
    · rw [(cmp_eq_gt_iff _ _).mpr (by linarith), (cmp_eq_gt_iff _ _).mpr (by linarith)]
    · rw [abs_of_nonpos hi] at h
      rw [← neg_neg (i : ℚ), cmp_neg_neg, cmp_neg_neg, ← cmp_swap, h, cmp_swap]
  | false =>
    rw [if_neg Bool.false_ne_true, if_neg Bool.false_ne_true]
    rcases lt_or_ge (i : ℚ) 0 with hi | hi
    · rw [(cmp_eq_lt_iff _ _).mpr (by linarith), (cmp_eq_lt_iff _ _).mpr (by linarith)]
    · rwa [abs_of_nonneg hi] at h

/-- A double stands on the same side of an integer of 64 bits as its decimal. -/
theorem cmp_place_of_shortest (i : ℤ) (x : Binary64) (d : Decimal) (hi : i.natAbs ≤ 2 ^ 63)
    (hd : IsShortest x.magnitude d) :
    cmp (i : ℚ) x.place = cmp (i : ℚ) (if x.isNegative then -d.toRat else d.toRat) := by
  by_cases hspelled : x.isSpelled = true
  · obtain ⟨n, hn⟩ := wordValue_of_isSpelled x hspelled
    rw [place, reach, if_pos hspelled, (isShortest_shortest x).unique hd n hn]
  · have houtside := hspelled
    rw [isSpelled_iff, not_and_or, not_le, not_lt, abs_toRat] at houtside
    rw [place_of_not_isSpelled x (Bool.eq_false_iff.mpr hspelled), toRat_eq]
    exact cmp_signed_congr i _ _ _ (wordValue_nonneg _) d.toRat_nonneg
      (hd.cmp_eq i.natAbs hi houtside).symm

/-- The infinities stand beyond all integers of 64 bits. -/
theorem cmp_place_of_isInfinite (i : ℤ) (x : Binary64) (hi : i.natAbs ≤ 2 ^ 63)
    (hx : x.isInfinite = true) : cmp (i : ℚ) x.place = if x.isNegative then .gt else .lt := by
  have hmagnitude : x.magnitude = infinityWord := beq_iff_eq.mp hx
  have hspelled : x.isSpelled = false := by
    rw [← Bool.not_eq_true]
    intro h
    have := of_decide_eq_true (isFinite_of_isSpelled x h)
    omega
  have hvalue : (2 : ℚ) ^ 63 < wordValue x.magnitude := by
    rw [hmagnitude, wordValue_infinityWord, ← zpow_natCast]
    exact zpow_lt_zpow_right₀ one_lt_two (by norm_num)
  have hint : |(i : ℚ)| ≤ 2 ^ 63 := by
    rw [abs_intCast]
    exact_mod_cast hi
  obtain ⟨hlow, hhigh⟩ := abs_le.mp hint
  rw [place, reach, if_neg (Bool.eq_false_iff.mp hspelled)]
  cases x.isNegative with
  | true => exact (cmp_eq_gt_iff _ _).mpr (by rw [if_pos rfl]; linarith)
  | false => exact (cmp_eq_lt_iff _ _).mpr (by rw [if_neg Bool.false_ne_true]; linarith)

/-- Every branch of the comparison of an integer with a double follows what the double spells. -/
theorem compareSpelled_eq_cmp_spells (i : ℤ) (x : Binary64) (hi : i.natAbs ≤ 2 ^ 63)
    (hx : x.isNaN = false) (q : WithBot (WithTop ℚ)) (hq : x.Spells q) :
    x.compareSpelled i = cmp (((i : ℚ) : WithTop ℚ) : WithBot (WithTop ℚ)) q := by
  rw [compareSpelled_eq i x hi, if_neg (Bool.eq_false_iff.mp hx),
    WithBot.coe_strictMono.cmp_map_eq]
  cases hq with
  | finite hfinite hd =>
    rw [cmp_place_of_shortest i x _ hi hd]
    rw [WithBot.coe_strictMono.cmp_map_eq, WithTop.coe_strictMono.cmp_map_eq]
  | infinite hinf =>
    rw [cmp_place_of_isInfinite i x hi hinf]
    cases x.isNegative with
    | true => exact ((cmp_eq_gt_iff _ _).mpr (WithBot.bot_lt_coe _)).symm
    | false =>
      exact ((cmp_eq_lt_iff _ _).mpr (WithBot.coe_lt_coe.mpr (WithTop.coe_lt_top _))).symm

end Binary64

namespace Value

/-- An integer and a double are in the exact order of the integer and of the number that the
shortest decimal of the double spells. -/
theorem compare_int64_double_spells (i : Int64) (x : Binary64) (hx : x.isNaN = false) :
    (∃ q, x.Spells q) ∧
      ∀ q, x.Spells q →
        compare (.int64 i) (.double x) =
            cmp (((i.toInt : ℚ) : WithTop ℚ) : WithBot (WithTop ℚ)) q ∧
          compare (.double x) (.int64 i) = (compare (.int64 i) (.double x)).swap := by
  refine ⟨x.exists_spells hx, fun q hq => ⟨?_, ?_⟩⟩
  · rw [compare_of_numeric (.int64 i) (.double x) _ _ rfl rfl]
    exact x.compareSpelled_eq_cmp_spells _ (numeric?_fits (.int64 i) _ rfl) hx q hq
  · rw [compare_of_numeric (.double x) (.int64 i) _ _ rfl rfl,
      compare_of_numeric (.int64 i) (.double x) _ _ rfl rfl]
    rfl

/-- The double `2 ^ 63 - 1024` spells 9223372036854775000, so it is above an integer that its
exact value is below. -/
theorem compare_below_spelling :
    (⟨0x43DFFFFFFFFFFFFF⟩ : Binary64).isNaN = false ∧
      compare (.int64 9223372036854774900) (.double ⟨0x43DFFFFFFFFFFFFF⟩) = .lt ∧
        compare (.double ⟨0x43DFFFFFFFFFFFFF⟩) (.int64 9223372036854774900) = .gt := by
  have hnan : (⟨0x43DFFFFFFFFFFFFF⟩ : Binary64).isNaN = false := by decide
  have hfinite : (⟨0x43DFFFFFFFFFFFFF⟩ : Binary64).isFinite = true := by decide
  have hshortest : (⟨0x43DFFFFFFFFFFFFF⟩ : Binary64).shortest = ⟨9223372036854775, 3⟩ := by
    decide +kernel
  obtain ⟨-, hall⟩ := compare_int64_double_spells 9223372036854774900 _ hnan
  obtain ⟨horder, hswap⟩ := hall _ (.finite hfinite (Binary64.isShortest_shortest _))
  have hlt : compare (.int64 9223372036854774900) (.double ⟨0x43DFFFFFFFFFFFFF⟩) = .lt := by
    rw [horder, cmp_eq_lt_iff, WithBot.coe_lt_coe, WithTop.coe_lt_coe, hshortest,
      show (⟨0x43DFFFFFFFFFFFFF⟩ : Binary64).isNegative = false by decide,
      if_neg Bool.false_ne_true, Decimal.toRat,
      show (9223372036854774900 : Int64).toInt = 9223372036854774900 by decide]
    norm_num
  refine ⟨hnan, hlt, ?_⟩
  rw [hswap, hlt]
  rfl

end Value

end Docbase
