import Docbase.Proofs.Query.Derived

/-!
What a test for a remainder finds. Numbers count by their whole parts, rounded toward zero; whole
parts beyond 64 bits are moved to the nearest end of the range, so the remainder is exact as long
as the divisor, the remainder and the numbers of a document are within it.
-/
namespace Docbase

/-- The integers of 64 bits. -/
def Fits (n : ℤ) : Prop := -2 ^ 63 ≤ n ∧ n < 2 ^ 63

instance (n : ℤ) : Decidable (Fits n) := inferInstanceAs (Decidable (_ ∧ _))

/-- The integer of 64 bits that is nearest. -/
def clamp (n : ℤ) : ℤ := max (-2 ^ 63) (min (2 ^ 63 - 1) n)

theorem fits_clamp (n : ℤ) : Fits (clamp n) := by
  unfold Fits clamp
  omega

theorem clamp_of_fits (n : ℤ) (h : Fits n) : clamp n = n := by
  unfold Fits at h
  unfold clamp
  omega

namespace Value

/-- The whole part of a number that is finite. -/
def wholePart? (v : Value) : Option ℤ := v.toRat?.map Binary64.wholePart

@[simp] theorem wholePart?_int32 (n : Int32) : wholePart? (.int32 n) = some n.toInt := by
  simp [wholePart?, toRat?, Binary64.wholePart_intCast]

@[simp] theorem wholePart?_int64 (n : Int64) : wholePart? (.int64 n) = some n.toInt := by
  simp [wholePart?, toRat?, Binary64.wholePart_intCast]

@[simp] theorem wholePart?_double (x : Binary64) :
    wholePart? (.double x) = if x.isFinite then some x.truncate else none := by
  rw [wholePart?, toRat?]
  split
  · simp [Binary64.truncate_eq_wholePart]
  · rfl

theorem fits_toInt32 (n : Int32) : Fits n.toInt := by
  have hlow := n.le_toInt
  have hhigh := n.toInt_lt
  unfold Fits
  omega

theorem fits_toInt64 (n : Int64) : Fits n.toInt := ⟨n.le_toInt, n.toInt_lt⟩

theorem toInt_ofInt_of_fits (n : ℤ) (h : Fits n) : (Int64.ofInt n).toInt = n :=
  Int64.toInt_ofInt_of_le h.1 h.2

/-- A number counts by its whole part, or the nearest integer of 64 bits. -/
theorem toInt_asInteger? (v : Value) :
    v.asInteger?.map Int64.toInt = v.wholePart?.map clamp := by
  cases v with
  | int32 n => simp [asInteger?, clamp_of_fits _ (fits_toInt32 n)]
  | int64 n => simp [asInteger?, clamp_of_fits _ (fits_toInt64 n)]
  | double x =>
    have hclamp : max Int64.minValue.toInt (min Int64.maxValue.toInt x.truncate) =
        clamp x.truncate := rfl
    rw [asInteger?, wholePart?_double, hclamp]
    split
    · simp [toInt_ofInt_of_fits _ (fits_clamp _)]
    · rfl
  | _ => rfl

theorem asInteger?_eq_some_iff (v : Value) (i : Int64) :
    v.asInteger? = some i ↔ ∃ n, v.wholePart? = some n ∧ clamp n = i.toInt := by
  have h := toInt_asInteger? v
  cases hi : v.asInteger? with
  | none =>
    rw [hi, Option.map_none] at h
    simp [Option.map_eq_none_iff.mp h.symm]
  | some j =>
    rw [hi, Option.map_some] at h
    obtain ⟨n, hn, hclamp⟩ := Option.map_eq_some_iff.mp h.symm
    simp [hn, hclamp, Int64.toInt_inj]

/-- The whole part of a value, brought into 64 bits, leaves the remainder. -/
theorem hasRemainder_iff_wholePart (k r : ℤ) (divisor remainder : Int64)
    (hk : clamp k = divisor.toInt) (hr : clamp r = remainder.toInt) (v : Value) :
    hasRemainder divisor remainder v = true ↔
      ∃ n, v.wholePart? = some n ∧ (clamp n).tmod (clamp k) = clamp r := by
  have hspec := asInteger?_eq_some_iff v
  rw [hasRemainder, hk, hr]
  cases hi : v.asInteger? with
  | none =>
    have hnone : v.wholePart? = none := by
      have h := toInt_asInteger? v
      rw [hi, Option.map_none] at h
      exact Option.map_eq_none_iff.mp h.symm
    simp [hnone]
  | some i =>
    obtain ⟨n, hn, hclamp⟩ := (hspec i).mp hi
    simp [hn, hclamp]

end Value

namespace Query

/-- The values that a field offers to a test: those that its path leads to, and the elements of
the arrays among them. -/
inductive Offers (p : String) (d : Document) : Value → Prop
  | value {x : Value} : x ∈ (Path.ofText p).resolveIn d → Offers p d x
  | element {x : Value} {items : List Value} :
      .array items ∈ (Path.ofText p).resolveIn d → x ∈ items → Offers p d x

theorem mem_candidates_iff (p : String) (d : Document) (x : Value) :
    x ∈ candidates ((Path.ofText p).resolveIn d) ↔
      Offers p d x ∨ (Path.ofText p).resolveIn d = [] ∧ x = .null := by
  unfold candidates
  split
  · next hempty =>
    rw [List.isEmpty_iff] at hempty
    constructor
    · intro hx
      exact .inr ⟨hempty, List.mem_singleton.mp hx⟩
    · rintro ((hx | ⟨harray, -⟩) | ⟨-, rfl⟩)
      · simp [hempty] at hx
      · simp [hempty] at harray
      · exact List.mem_singleton_self _
  · next hempty =>
    rw [List.isEmpty_iff] at hempty
    rw [List.mem_flatMap]
    constructor
    · rintro ⟨v, hv, hx⟩
      rcases List.mem_cons.mp hx with rfl | hx
      · exact .inl (.value hv)
      · cases v with
        | array items => exact .inl (.element hv hx)
        | _ => simp at hx
    · rintro ((hx | ⟨harray, hx⟩) | ⟨hnil, -⟩)
      · exact ⟨x, hx, List.mem_cons_self⟩
      · exact ⟨_, harray, List.mem_cons_of_mem _ hx⟩
      · exact absurd hnil hempty

/-- A test that null does not pass is put to the values that are offered. -/
theorem any_candidates_iff (p : String) (d : Document) (test : Value → Bool)
    (hnull : test .null = false) :
    (candidates ((Path.ofText p).resolveIn d)).any test = true ↔
      ∃ x, Offers p d x ∧ test x = true := by
  rw [List.any_eq_true]
  simp only [mem_candidates_iff]
  constructor
  · rintro ⟨x, hx | ⟨-, rfl⟩, htest⟩
    · exact ⟨x, hx, htest⟩
    · rw [hnull] at htest
      cases htest
  · rintro ⟨x, hx, htest⟩
    exact ⟨x, .inl hx, htest⟩

theorem compile_modulo (v : Value) :
    FieldTest.compile (.document [("$mod", v)]) = FieldTest.moduloOf v := by
  rw [FieldTest.compile, FieldTest.compileAll, show TestKey.ofText "$mod" = .modulo by decide]
  cases FieldTest.moduloOf v <;> rfl

variable {p : String} (hp : isOperatorKey p = false)

include hp

/-- A test for a remainder is put to what the path leads to, with the divisor and the remainder
as integers. -/
theorem meaning_modulo (divisor remainder : Value) (m : Verdicts)
    (hm : meaning (asks p "$mod" (.array [divisor, remainder])) = .ok m) :
    ∃ i j, divisor.asInteger? = some i ∧ remainder.asInteger? = some j ∧
      m = offered (Path.ofText p) (hasRemainder i j) := by
  rw [meaning_asks hp, compile_modulo] at hm
  obtain ⟨t, ht, rfl⟩ := (map_eq_ok_iff _ _ _).mp hm
  obtain ⟨a, b, i, j, hpair, hi, hj, -, rfl⟩ := (FieldTest.moduloOf_eq_ok_iff _ t).mp ht
  obtain ⟨rfl, rfl⟩ : divisor = a ∧ remainder = b := by simpa using hpair
  exact ⟨i, j, hi, hj, rfl⟩

omit hp

/-- A test for a remainder finds the documents that offer a number whose whole part, brought into
64 bits like those of the divisor and the remainder, leaves it. Where all of them are within 64
bits the remainder is exact. -/
theorem remainders_found (hp : isOperatorKey p = false) (divisor remainder : Value) (m : Verdicts)
    (hm : meaning (asks p "$mod" (.array [divisor, remainder])) = .ok m) :
    ∃ k r, divisor.wholePart? = some k ∧ remainder.wholePart? = some r ∧ ∀ d, ∃ b, m d = .ok b ∧
      (b = true ↔ ∃ x n, Offers p d x ∧ x.wholePart? = some n ∧
        (clamp n).tmod (clamp k) = clamp r) ∧
      (Fits k → Fits r → (∀ x n, Offers p d x → x.wholePart? = some n → Fits n) →
        (b = true ↔ ∃ x n, Offers p d x ∧ x.wholePart? = some n ∧ n.tmod k = r)) := by
  obtain ⟨i, j, hi, hj, rfl⟩ := meaning_modulo hp divisor remainder m hm
  obtain ⟨k, hk, hki⟩ := (Value.asInteger?_eq_some_iff divisor i).mp hi
  obtain ⟨r, hr, hrj⟩ := (Value.asInteger?_eq_some_iff remainder j).mp hj
  refine ⟨k, r, hk, hr, fun d => ⟨_, rfl, ?_⟩⟩
  have hclamped : (candidates ((Path.ofText p).resolveIn d)).any (hasRemainder i j) = true ↔
      ∃ x n, Offers p d x ∧ x.wholePart? = some n ∧ (clamp n).tmod (clamp k) = clamp r := by
    rw [any_candidates_iff p d _ rfl]
    simp only [Value.hasRemainder_iff_wholePart k r i j hki hrj, ← exists_and_left]
  -- Within 64 bits no whole part is moved.
  refine ⟨hclamped, fun hkfits hrfits hfits => hclamped.trans ?_⟩
  rw [clamp_of_fits k hkfits, clamp_of_fits r hrfits]
  refine exists_congr fun x => exists_congr fun n => and_congr_right fun hx =>
    and_congr_right fun hn => ?_
  rw [clamp_of_fits n (hfits x n hx hn)]

/-- A field with an array, whose number is rounded up to -7. -/
theorem remainders_found_negative :
    ∃ m, meaning (asks "a" "$mod" (.array [.int32 5, .int64 (-2)])) = .ok m ∧
      m [("a", .array [.null, .double ⟨0xC01F99999999999A⟩])] = .ok true := by
  obtain ⟨m, hm⟩ : ∃ m, meaning (asks "a" "$mod" (.array [.int32 5, .int64 (-2)])) = .ok m :=
    ⟨_, rfl⟩
  obtain ⟨k, r, hk, hr, hfound⟩ := remainders_found (by decide) (.int32 5) (.int64 (-2)) m hm
  have hk5 : (5 : ℤ) = k := by simpa using hk
  have hr2 : (-2 : ℤ) = r := by simpa using hr
  have hwhole : (Value.double ⟨0xC01F99999999999A⟩).wholePart? = some (-7) := by
    rw [Value.wholePart?_double]
    decide +kernel
  have hoffers (x : Value) (n : ℤ)
      (hx : Offers "a" [("a", .array [.null, .double ⟨0xC01F99999999999A⟩])] x)
      (hn : x.wholePart? = some n) : n = -7 := by
    have hmem := (mem_candidates_iff _ _ _).mpr (.inl hx)
    change x ∈ [_, _, _] at hmem
    simp only [List.mem_cons, List.not_mem_nil, or_false] at hmem
    rcases hmem with rfl | rfl | rfl
    · cases hn
    · cases hn
    · rw [hwhole] at hn
      exact (Option.some.inj hn).symm
  obtain ⟨b, hb, -, hexact⟩ := hfound [("a", .array [.null, .double ⟨0xC01F99999999999A⟩])]
  have htrue : b = true := by
    refine (hexact ?_ ?_ fun x n hx hn => ?_).mpr
      ⟨_, -7, .element List.mem_cons_self (List.mem_cons_of_mem _ List.mem_cons_self), hwhole, ?_⟩
    · rw [← hk5]
      decide
    · rw [← hr2]
      decide
    · rw [hoffers x n hx hn]
      decide
    · rw [← hk5, ← hr2]
      decide
  exact ⟨m, hm, htrue ▸ hb⟩

/-- A multiple of ten beyond 64 bits is not found among the multiples of ten: the nearest integer
of 64 bits is none. -/
theorem remainders_found_fails_beyond :
    ∃ m, meaning (asks "a" "$mod" (.array [.int32 10, .int32 0])) = .ok m ∧
      m [("a", .double ⟨0x43E158E460913D00⟩)] = .ok false ∧
      Offers "a" [("a", .double ⟨0x43E158E460913D00⟩)] (.double ⟨0x43E158E460913D00⟩) ∧
      (Value.double ⟨0x43E158E460913D00⟩).wholePart? = some (10 ^ 19) ∧
      (10 ^ 19 : ℤ).tmod 10 = 0 := by
  refine ⟨_, rfl, congrArg Except.ok (by decide +kernel), .value List.mem_cons_self, ?_, by decide⟩
  rw [Value.wholePart?_double]
  decide +kernel

end Query

end Docbase
