import Docbase.Proofs.Binary64.Truncation
import Docbase.Proofs.Query.Entry

/-!
Which operands the tests of a query take. Numbers count by their exact values: a divisor is
one that does not truncate to zero, and a size is a natural number in any width.
-/
namespace Docbase

namespace Value

/-- The exact value of a number that is finite. -/
def toRat? : Value → Option ℚ
  | .int32 n => some n.toInt
  | .int64 n => some n.toInt
  | .double x => if x.isFinite then some x.toRat else none
  | _ => none

theorem asInteger?_eq_none_iff (v : Value) : v.asInteger? = none ↔ v.toRat? = none := by
  cases v <;> simp [asInteger?, toRat?]

theorem ofInt_eq_zero_iff (i : ℤ) (hlow : -2 ^ 63 ≤ i) (hhigh : i < 2 ^ 63) :
    Int64.ofInt i = 0 ↔ i = 0 := by
  rw [← Int64.toInt_inj, Int64.toInt_ofInt_of_le hlow hhigh]
  rfl

theorem abs_intCast_lt_one_iff (i : ℤ) : |(i : ℚ)| < 1 ↔ i = 0 := by
  rw [← Int.abs_lt_one_iff]
  exact_mod_cast Iff.rfl

/-- The numbers that truncate to zero are less than one away from it. -/
theorem asInteger?_eq_zero_iff (v : Value) (q : ℚ) (hq : v.toRat? = some q) :
    v.asInteger? = some 0 ↔ |q| < 1 := by
  cases v with
  | int32 n =>
    rw [toRat?, Option.some.injEq] at hq
    have hlow := n.le_toInt
    have hhigh := n.toInt_lt
    rw [← hq, abs_intCast_lt_one_iff, asInteger?, Option.some.injEq, ofInt_eq_zero_iff] <;> omega
  | int64 n =>
    rw [toRat?, Option.some.injEq] at hq
    rw [← hq, abs_intCast_lt_one_iff, asInteger?, Option.some.injEq, ← Int64.toInt_inj]
    rfl
  | double x =>
    rw [toRat?] at hq
    split at hq
    · next hfinite =>
      have hlowest : Int64.minValue.toInt = -2 ^ 63 := rfl
      have hhighest : Int64.maxValue.toInt = 2 ^ 63 - 1 := rfl
      rw [asInteger?, if_pos hfinite, Option.some.injEq, ← Option.some.inj hq,
        ← Binary64.truncate_eq_zero_iff, hlowest, hhighest, ofInt_eq_zero_iff] <;> omega
    · simp at hq
  | _ => simp [toRat?] at hq

end Value

/-- The letters are known ones, and the text is that of a pattern under them. -/
def Regex.Compiles (r : Regex) : Prop :=
  (∀ flag ∈ r.options.toList, flag ∈ CompiledRegex.knownFlags) ∧
    (Pattern.parse? (CompiledRegex.flags r) r.pattern).isSome

namespace FieldTest

theorem compileRegex_succeeds_iff (r : Regex) :
    (∃ c, compileRegex r = .ok c) ↔ r.Compiles := by
  unfold compileRegex CompiledRegex.compile Regex.Compiles
  split
  · next flag hflag =>
    have hmem := List.mem_of_find?_eq_some hflag
    have hunknown := List.find?_some hflag
    constructor
    · rintro ⟨c, hc⟩
      simp [Except.mapError] at hc
    · rintro ⟨hknown, -⟩
      have := hknown flag hmem
      simp_all
  · next hflags =>
    have hknown : ∀ flag ∈ r.options.toList, flag ∈ CompiledRegex.knownFlags := by
      simpa using List.find?_eq_none.mp hflags
    rw [and_iff_right hknown]
    cases Pattern.parse? (CompiledRegex.flags r) r.pattern <;> simp [Except.mapError]

theorem operandsOf_succeeds_iff (key : String) (v : Value) :
    (∃ operands, operandsOf key v = .ok operands) ↔
      ∃ items, v = .array items ∧ ∀ r, .regex r ∈ items → r.Compiles := by
  cases v with
  | array items =>
    rw [operandsOf, mapM_succeeds_iff]
    constructor
    · intro h
      refine ⟨items, rfl, fun r hr => ?_⟩
      obtain ⟨operand, hoperand⟩ := h _ hr
      obtain ⟨c, hc, -⟩ := (bind_eq_ok_iff _ _ _).mp hoperand
      exact (compileRegex_succeeds_iff r).mp ⟨c, hc⟩
    · rintro ⟨_, hitems, h⟩ w hw
      cases hitems
      cases w with
      | regex r =>
        obtain ⟨c, hc⟩ := (compileRegex_succeeds_iff r).mpr (h r hw)
        exact ⟨.regex c, (bind_eq_ok_iff _ _ _).mpr ⟨c, hc, rfl⟩⟩
      | _ => exact ⟨_, rfl⟩
  | _ => simp [operandsOf, malformed]

/-- A divisor and a remainder are integers or truncate to them, and the divisor is not zero. -/
theorem moduloOf_eq_ok_iff (v : Value) (t : FieldTest) :
    moduloOf v = .ok t ↔ ∃ a b m n, v = .array [a, b] ∧ a.asInteger? = some m ∧
      b.asInteger? = some n ∧ m ≠ 0 ∧ t = .modulo m n := by
  constructor
  · intro h
    unfold moduloOf at h
    split at h
    · next a b =>
      split at h
      · simp [malformed] at h
      · next m n hm ha hb =>
        exact ⟨a, b, m, n, rfl, ha, hb, hm, (Except.ok.inj h).symm⟩
      · simp [malformed] at h
    · simp [malformed] at h
  · rintro ⟨a, b, m, n, rfl, ha, hb, hm, rfl⟩
    rw [moduloOf, ha, hb]
    split
    · next hzero => exact absurd (Option.some.inj hzero) hm
    · next hm' hn' => rw [Option.some.inj hm', Option.some.inj hn']; rfl
    · next hno => exact absurd rfl (hno m n rfl)

theorem moduloOf_succeeds_iff (v : Value) :
    (∃ t, moduloOf v = .ok t) ↔
      ∃ a b p q, v = .array [a, b] ∧ a.toRat? = some p ∧ b.toRat? = some q ∧ 1 ≤ |p| := by
  simp only [moduloOf_eq_ok_iff]
  constructor
  · rintro ⟨-, a, b, m, n, rfl, ha, hb, hm, rfl⟩
    obtain ⟨p, hp⟩ := Option.ne_none_iff_exists'.mp
      (mt (Value.asInteger?_eq_none_iff a).mpr (by simp [ha]))
    obtain ⟨q, hq⟩ := Option.ne_none_iff_exists'.mp
      (mt (Value.asInteger?_eq_none_iff b).mpr (by simp [hb]))
    have hsmall := Value.asInteger?_eq_zero_iff a p hp
    rw [ha, Option.some.injEq] at hsmall
    exact ⟨a, b, p, q, rfl, hp, hq, not_lt.mp (mt hsmall.mpr hm)⟩
  · rintro ⟨a, b, p, q, rfl, hp, hq, hone⟩
    obtain ⟨m, hm⟩ := Option.ne_none_iff_exists'.mp
      (mt (Value.asInteger?_eq_none_iff a).mp (by simp [hp]))
    obtain ⟨n, hn⟩ := Option.ne_none_iff_exists'.mp
      (mt (Value.asInteger?_eq_none_iff b).mp (by simp [hq]))
    have hsmall := Value.asInteger?_eq_zero_iff a p hp
    rw [hm, Option.some.injEq] at hsmall
    exact ⟨_, a, b, m, n, rfl, hm, hn, mt hsmall.mp (not_lt.mpr hone), rfl⟩

theorem exists_nat_iff (i : ℤ) : (∃ n : ℕ, (i : ℚ) = n) ↔ 0 ≤ i := by
  constructor
  · rintro ⟨n, hn⟩
    have : i = n := by exact_mod_cast hn
    omega
  · intro h
    obtain ⟨n, rfl⟩ := Int.eq_ofNat_of_zero_le h
    exact ⟨n, by push_cast; rfl⟩

theorem isWhole_nonneg_iff (x : Binary64) :
    (x.isWhole && (!x.isNegative || x.isZero)) = true ↔
      x.isFinite = true ∧ ∃ n : ℕ, x.toRat = n := by
  have hmagnitude := Binary64.wordValue_nonneg x.magnitude
  rw [Bool.and_eq_true, Bool.or_eq_true, Bool.not_eq_true']
  constructor
  · rintro ⟨hwhole, hsign⟩
    have htruncate := x.truncate_of_isWhole hwhole
    refine ⟨(Bool.and_eq_true _ _ ▸ hwhole : _ ∧ _).1, ?_⟩
    rw [← htruncate, exists_nat_iff]
    have hnonneg : 0 ≤ x.toRat := by
      rw [Binary64.toRat_eq]
      rcases hsign with hpos | hzero
      · simpa [hpos] using hmagnitude
      · rw [Binary64.isZero, beq_iff_eq] at hzero
        simp [hzero]
    rw [← htruncate] at hnonneg
    exact_mod_cast hnonneg
  · rintro ⟨hfinite, n, hn⟩
    refine ⟨x.isWhole_of_eq_int hfinite n (by exact_mod_cast hn), ?_⟩
    cases hsign : x.isNegative with
    | false => exact Or.inl rfl
    | true =>
      right
      have hneg : x.toRat = -Binary64.wordValue x.magnitude := by simp [Binary64.toRat_eq, hsign]
      have hzero : Binary64.wordValue x.magnitude = 0 := by
        have : (0 : ℚ) ≤ n := Nat.cast_nonneg n
        linarith
      rw [Binary64.isZero, beq_iff_eq]
      by_contra hne
      exact (Binary64.wordValue_pos _ (Nat.pos_of_ne_zero hne)).ne' hzero

/-- A size is a natural number. -/
theorem sizeOf?_isSome_iff (v : Value) :
    (sizeOf? v).isSome ↔ ∃ n : ℕ, v.toRat? = some (n : ℚ) := by
  cases v with
  | int32 n => simp [sizeOf?, Value.toRat?, exists_nat_iff]
  | int64 n => simp [sizeOf?, Value.toRat?, exists_nat_iff]
  | double x =>
    have hwhole := isWhole_nonneg_iff x
    simp only [sizeOf?, Value.toRat?, Option.isSome_ite, hwhole]
    by_cases hfinite : x.isFinite = true <;> simp [hfinite]
  | _ => simp [sizeOf?, Value.toRat?]

end FieldTest

end Docbase
