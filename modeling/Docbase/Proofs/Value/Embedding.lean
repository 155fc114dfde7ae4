import Docbase.Proofs.Value.Key

/-!
The integers that doubles are taken for. From `2 ^ 53` up to `10 ^ 19` every double has one, it
reads back as the double, and the integers are in the order of the doubles; so there the order and
the keys always go by it.
-/
namespace Docbase.Binary64

/-- An integer that a double is taken for: read from its notation, it rounds to the double and has
its sign, and integers beyond `2 ^ 53` are compared with it and keys made of it. -/
structure TakenFor (x : Binary64) (n : ℤ) : Prop where
  read : x.shortestInt? = some n
  rounds : RoundsTo n.natAbs x.magnitude
  readsBack : ofInt n = x
  sign : n < 0 ↔ x.toRat < 0
  exact : |x.toRat| = 2 ^ 53 → (n : ℚ) = x.toRat
  order : ∀ i : ℤ, exactLimit < i.natAbs → x.compareSpelled i = compare i n
  key : Key.ofDouble x = .integer n

variable {x y : Binary64}

theorem isNegative_iff (hx : 0 < x.magnitude) : x.isNegative = true ↔ x.toRat < 0 := by
  have hpos := wordValue_pos x.magnitude hx
  rw [toRat_eq]
  cases x.isNegative with
  | true => simpa using hpos
  | false => simpa using hpos.le

theorem place_neg_iff (hx : 0 < x.magnitude) : x.isNegative = true ↔ x.place < 0 := by
  have hpos := reach_pos x hx
  rw [place]
  cases x.isNegative with
  | true => simpa using hpos
  | false => simpa using hpos.le

theorem magnitude_pos_of_isSpelled (h : x.isSpelled = true) : 0 < x.magnitude := by
  rw [Nat.pos_iff_ne_zero]
  intro hzero
  rw [not_isSpelled_zero x hzero] at h
  cases h

theorem isNaN_of_isSpelled (h : x.isSpelled = true) : x.isNaN = false := by
  have hfinite := of_decide_eq_true (isFinite_of_isSpelled x h)
  rw [isNaN, decide_eq_false_iff_not]
  omega

/-- A double in the range stands at an integer, which it is taken for. -/
theorem exists_takenFor (h : x.isSpelled = true) : ∃ n, x.TakenFor n ∧ x.place = n := by
  obtain ⟨n, hn, hplace⟩ := shortestInt?_of_isSpelled x h
  have hpos := magnitude_pos_of_isSpelled h
  have hnan := isNaN_of_isSpelled h
  have hreach : (n.natAbs : ℚ) = x.reach := by rw [← abs_intCast, ← hplace, abs_place]
  have hrounds : RoundsTo n.natAbs x.magnitude := hreach ▸ reach_roundsTo x
  have hnegative : x.isNegative = true ↔ n < 0 := by
    rw [place_neg_iff hpos, hplace, Int.cast_lt_zero]
  have hsmall : n.natAbs ≤ 10 ^ 19 := by
    obtain ⟨-, hhigh⟩ := (isSpelled_iff x).mp h
    obtain ⟨u, -, hu⟩ := exists_word_wide
    rw [abs_toRat, ← hu] at hhigh
    have hlt := hrounds.lt_wordValue u hhigh
    rw [hu] at hlt
    exact_mod_cast hlt.le
  have hback : ofInt n = x := by
    refine eq_of_magnitude _ x ((roundsTo_ofInt n hsmall).unique hrounds) ?_
    rw [isNegative_ofInt, Bool.eq_iff_iff, decide_eq_true_eq, hnegative]
  refine ⟨n, ⟨hn, hrounds, hback, ?_, fun hexact => ?_, fun i hi => ?_, ?_⟩, hplace⟩
  · rw [← hnegative, isNegative_iff hpos]
  · rw [← hplace, place_exactLimit x hexact]
  · rw [compareSpelled, if_neg (Bool.eq_false_iff.mp hnan), if_neg (by simp [h, hi]), hn]
  · have hlarge : ¬x.magnitude < (ofInt exactLimit).magnitude := by
      simp only [isSpelled, Bool.and_eq_true, decide_eq_true_eq] at h
      exact not_lt.mpr h.1
    rw [Key.ofDouble, if_neg (Bool.eq_false_iff.mp hnan), if_pos (x.isWhole_of_isSpelled h),
      if_neg hlarge, if_pos h, hn]

theorem toRat_lt_iff_place_lt (x y : Binary64) : x.toRat < y.toRat ↔ x.place < y.place := by
  rw [← cmp_eq_lt_iff, ← compare_rank, compare_rank_place, cmp_eq_lt_iff]

/-- From `2 ^ 53` up to `10 ^ 19` every double is taken for an integer, and doubles are in the
order of their integers. -/
theorem spelled_integers_embed (x y : Binary64)
    (hx : 2 ^ 53 ≤ |x.toRat| ∧ |x.toRat| < 10 ^ 19)
    (hy : 2 ^ 53 ≤ |y.toRat| ∧ |y.toRat| < 10 ^ 19) :
    ∃ m n, x.TakenFor m ∧ y.TakenFor n ∧ (x.toRat < y.toRat ↔ m < n) := by
  obtain ⟨m, hm, hxplace⟩ := exists_takenFor ((isSpelled_iff x).mpr hx)
  obtain ⟨n, hn, hyplace⟩ := exists_takenFor ((isSpelled_iff y).mpr hy)
  refine ⟨m, n, hm, hn, ?_⟩
  rw [toRat_lt_iff_place_lt, hxplace, hyplace, Int.cast_lt]

/-- The doubles on both sides of zero that are next to the end of the range. -/
theorem spelled_integers_embed_ends :
    let x : Binary64 := ⟨0xC3E158E460913CFF⟩
    let y : Binary64 := ⟨0x43E158E460913CFF⟩
    (2 ^ 53 ≤ |x.toRat| ∧ |x.toRat| < 10 ^ 19) ∧ (2 ^ 53 ≤ |y.toRat| ∧ |y.toRat| < 10 ^ 19) ∧
      ∃ m n, x.TakenFor m ∧ y.TakenFor n ∧ (x.toRat < y.toRat ↔ m < n) ∧
        m = -9999999999999998000 ∧ n = 9999999999999998000 := by
  intro x y
  have hx := (isSpelled_iff x).mp (by decide +kernel)
  have hy := (isSpelled_iff y).mp (by decide +kernel)
  obtain ⟨m, n, hm, hn, hiff⟩ := spelled_integers_embed x y hx hy
  have hxread : x.shortestInt? = some (-9999999999999998000) := by decide +kernel
  have hyread : y.shortestInt? = some 9999999999999998000 := by decide +kernel
  refine ⟨hx, hy, m, n, hm, hn, hiff, ?_, ?_⟩
  · exact Option.some_inj.mp (hm.read.symm.trans hxread)
  · exact Option.some_inj.mp (hn.read.symm.trans hyread)

end Docbase.Binary64
