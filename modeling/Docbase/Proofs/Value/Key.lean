import Docbase.Proofs.Text.Hex
import Docbase.Proofs.Value.Order
import Docbase.Value.Key

/-!
Keys tell values apart exactly as equality does. A double has the key of an integer precisely
when it stands at one that 64 bits or its decimal can reach, so numbers share a key when they
share a place; inside documents, arrays and references keys follow the order part by part.
-/
namespace Docbase

namespace Binary64

theorem eq_of_magnitude (x y : Binary64) (hmagnitude : x.magnitude = y.magnitude)
    (hsign : x.isNegative = y.isNegative) : x = y := by
  have hx : x.word < 2 ^ 64 := x.bits.toNat_lt
  have hy : y.word < 2 ^ 64 := y.bits.toNat_lt
  have hword : x.word = y.word := by
    rw [isNegative, isNegative, decide_eq_decide, pow2_eq] at hsign
    rw [magnitude, magnitude, pow2_eq] at hmagnitude
    omega
  cases x
  cases y
  exact congrArg Binary64.mk (UInt64.toNat_inj.mp hword)

/-- Only the two zeros share a place. -/
theorem eq_of_place (x y : Binary64) (h : x.place = y.place) : x = y ∨ x.place = 0 := by
  have hreach : x.reach = y.reach := by rw [← abs_place, ← abs_place, h]
  have hmagnitude : x.magnitude = y.magnitude := by
    rw [← cmp_eq_eq_iff, ← cmp_reach, hreach, cmp_self_eq_eq]
  rcases Nat.eq_zero_or_pos x.magnitude with hzero | hpos
  · right
    rw [place, reach_zero x hzero]
    simp
  · left
    apply eq_of_magnitude x y hmagnitude
    have hx := reach_pos x hpos
    rw [place, place, ← hreach] at h
    cases hxs : x.isNegative <;> cases hys : y.isNegative <;> simp only [hxs, hys] at h ⊢
    · simp only [Bool.false_eq_true, if_false, if_true] at h
      linarith
    · simp only [Bool.false_eq_true, if_false, if_true] at h
      linarith

theorem isWhole_of_isSpelled (x : Binary64) (h : x.isSpelled = true) : x.isWhole = true := by
  obtain ⟨n, hn⟩ := wordValue_of_isSpelled x h
  refine isWhole_of_eq_int x (isFinite_of_isSpelled x h) (if x.isNegative then -n else n) ?_
  rw [toRat_eq, hn]
  split <;> simp

/-- Beyond `10 ^ 19` there is no integer of 64 bits. -/
theorem ne_of_wide (x : Binary64) (h : 10 ^ 19 ≤ |x.toRat|) (i : ℤ) (hi : i.natAbs ≤ 2 ^ 63) :
    x.toRat ≠ i := by
  intro heq
  have habs : |(i : ℚ)| ≤ 2 ^ 63 := by
    rw [abs_intCast]
    exact_mod_cast hi
  rw [heq] at h
  linarith

theorem wide_of_not_isFinite (x : Binary64) (h : x.isFinite = false) :
    10 ^ 19 ≤ |x.toRat| := by
  obtain ⟨w, hw, hvalue⟩ := exists_word_wide
  rw [isFinite, decide_eq_false_iff_not, not_lt] at h
  rw [abs_toRat, ← hvalue]
  exact wordValue_strictMono.monotone (hw.le.trans h)

end Binary64

namespace Key

/-- The key of a double is the integer at its place, or tells it from every such integer. -/
theorem ofDouble_spec (x : Binary64) (hnan : x.isNaN = false) :
    (∃ n : ℤ, ofDouble x = .integer n ∧ x.place = n) ∨
      ofDouble x = .double x ∧ ∀ i : ℤ, i.natAbs ≤ 2 ^ 63 → x.place ≠ i := by
  rw [ofDouble, if_neg (by simp [hnan])]
  by_cases hspelled : x.isSpelled = true
  · obtain ⟨n, hn, hplace⟩ := x.shortestInt?_of_isSpelled hspelled
    have hlarge : ¬ x.magnitude < (Binary64.ofInt Binary64.exactLimit).magnitude := by
      simp only [Binary64.isSpelled, Bool.and_eq_true, decide_eq_true_eq] at hspelled
      exact not_lt.mpr hspelled.1
    left
    refine ⟨n, ?_, hplace⟩
    rw [if_pos (x.isWhole_of_isSpelled hspelled), if_neg hlarge, if_pos hspelled, hn]
  · rw [Bool.not_eq_true] at hspelled
    rw [x.place_of_not_isSpelled hspelled]
    by_cases hwhole : x.isWhole = true
    · rw [if_pos hwhole]
      by_cases hsmall : x.magnitude < (Binary64.ofInt Binary64.exactLimit).magnitude
      · left
        exact ⟨x.truncate, if_pos hsmall, (x.truncate_of_isWhole hwhole).symm⟩
      · right
        rw [if_neg hsmall, if_neg (by simp [hspelled])]
        refine ⟨rfl, x.ne_of_wide ?_⟩
        have hlow : 2 ^ 53 ≤ |x.toRat| := by
          rw [x.abs_toRat, ← Binary64.wordValue_exactLimit]
          exact Binary64.wordValue_strictMono.monotone (not_lt.mp hsmall)
        by_contra hwide
        have := (x.isSpelled_iff).mpr ⟨hlow, not_le.mp hwide⟩
        simp [hspelled] at this
    · right
      rw [if_neg hwhole]
      refine ⟨rfl, ?_⟩
      intro i hi heq
      by_cases hfinite : x.isFinite = true
      · exact hwhole (x.isWhole_of_eq_int hfinite i heq)
      · exact x.ne_of_wide (x.wide_of_not_isFinite (by simpa using hfinite)) i hi heq

/-- The key of a number. -/
def ofNumeric : Numeric → Key
  | .int i => .integer i
  | .double x => ofDouble x

theorem ofNumeric_int_double (i : ℤ) (x : Binary64) (hi : i.natAbs ≤ 2 ^ 63) :
    Key.integer i = ofDouble x ↔ (Numeric.int i).place = (Numeric.double x).place := by
  simp only [Numeric.place]
  by_cases hnan : x.isNaN = true
  · simp [ofDouble, hnan]
  · rw [if_neg hnan, WithBot.coe_inj]
    rcases ofDouble_spec x (by simpa using hnan) with ⟨n, hkey, hplace⟩ | ⟨hkey, hplace⟩
    · rw [hkey, hplace, Key.integer.injEq, Int.cast_inj]
    · simp only [hkey, reduceCtorEq, false_iff]
      exact (hplace i hi).symm

theorem ofDouble_ne_nan (x : Binary64) (hnan : x.isNaN = false) :
    ofDouble x ≠ .double .nan := by
  intro h
  rcases ofDouble_spec x hnan with ⟨n, hkey, -⟩ | ⟨hkey, -⟩
  · simp [hkey] at h
  · rw [hkey, Key.double.injEq] at h
    subst h
    exact absurd hnan (by decide +kernel)

theorem ofDouble_of_zero (x : Binary64) (hnan : x.isNaN = false) (h : x.place = 0) :
    ofDouble x = .integer 0 :=
  ((ofNumeric_int_double 0 x (by decide)).mpr (by simp [Numeric.place, hnan, h])).symm

theorem ofDouble_eq_iff_place (x y : Binary64) (hx : x.isNaN = false) (hy : y.isNaN = false) :
    ofDouble x = ofDouble y ↔ x.place = y.place := by
  constructor
  · intro h
    rcases ofDouble_spec x hx with ⟨m, hkey, hplace⟩ | ⟨hkey, hplace⟩
    · rcases ofDouble_spec y hy with ⟨n, hkey', hplace'⟩ | ⟨hkey', -⟩
      · rw [hkey, hkey', Key.integer.injEq] at h
        rw [hplace, hplace', h]
      · simp [hkey, hkey'] at h
    · rcases ofDouble_spec y hy with ⟨n, hkey', -⟩ | ⟨hkey', -⟩
      · simp [hkey, hkey'] at h
      · rw [hkey, hkey', Key.double.injEq] at h
        rw [h]
  · intro h
    rcases x.eq_of_place y h with rfl | hzero
    · rfl
    · rw [ofDouble_of_zero x hx hzero, ofDouble_of_zero y hy (h ▸ hzero)]

theorem ofDouble_eq_iff (x y : Binary64) :
    ofDouble x = ofDouble y ↔ (Numeric.double x).place = (Numeric.double y).place := by
  have hnan (z : Binary64) (hz : z.isNaN = true) : ofDouble z = .double .nan := by
    rw [ofDouble, if_pos hz]
  simp only [Numeric.place]
  cases hx : x.isNaN <;> cases hy : y.isNaN <;> simp only [Bool.false_eq_true, if_false, if_true]
  · rw [WithBot.coe_inj]
    exact ofDouble_eq_iff_place x y hx hy
  · simp only [hnan y hy, WithBot.coe_ne_bot, iff_false]
    exact ofDouble_ne_nan x hx
  · simp only [hnan x hx, WithBot.bot_ne_coe, iff_false]
    exact (ofDouble_ne_nan y hy).symm
  · rw [hnan x hx, hnan y hy]
    exact iff_of_true rfl trivial

theorem ofNumeric_eq_iff (a b : Numeric) (ha : a.Fits) (hb : b.Fits) :
    ofNumeric a = ofNumeric b ↔ a.compare b = .eq := by
  rw [Numeric.compare_eq_cmp_place a b ha hb, cmp_eq_eq_iff]
  cases a with
  | int i =>
    cases b with
    | int j => simp [ofNumeric, Numeric.place]
    | double y => exact ofNumeric_int_double i y ha
  | double x =>
    cases b with
    | int j => exact eq_comm.trans ((ofNumeric_int_double j x hb).trans eq_comm)
    | double y => exact ofDouble_eq_iff x y

/-! Values inside others. -/

/-- The class of the values that have a key. -/
def typeClass : Key → TypeClass
  | .minKey => .minKey
  | .null => .null
  | .integer _ | .double _ => .numeric
  | .string _ => .string
  | .boolean _ => .boolean
  | .dateTime _ => .dateTime
  | .binary .. => .binary
  | .objectId _ => .objectId
  | .regex _ => .regex
  | .document _ => .document
  | .array _ => .array
  | .reference .. => .reference
  | .maxKey => .maxKey

theorem typeClass_ofDouble (x : Binary64) : (ofDouble x).typeClass = .numeric := by
  unfold ofDouble
  repeat' split
  all_goals rfl

theorem typeClass_inner (v : Value) : (inner v).typeClass = v.typeClass := by
  cases v with
  | double x => exact typeClass_ofDouble x
  | _ => rfl

theorem inner_of_numeric (v : Value) (n : Numeric) (h : v.numeric? = some n) :
    inner v = ofNumeric n := by
  cases v <;> cases h <;> rfl

theorem innerFields_eq_iff (xs ys : List (String × Value))
    (h : ∀ entry ∈ xs, ∀ b, inner entry.2 = inner b ↔ Value.compare entry.2 b = .eq) :
    innerFields xs = innerFields ys ↔ Value.compareFields xs ys = .eq := by
  induction xs generalizing ys with
  | nil => cases ys <;> simp [innerFields, Value.compareFields]
  | cons x xs ih =>
    cases ys with
    | nil => simp [innerFields, Value.compareFields]
    | cons y ys =>
      have hvalue := h x List.mem_cons_self y.2
      have hrest := ih ys fun entry hentry => h entry (List.mem_cons_of_mem _ hentry)
      simp only [innerFields, Value.compareFields, List.cons.injEq, Prod.mk.injEq,
        Ordering.then_eq_eq, hvalue, hrest, Std.LawfulEqCmp.compare_eq_iff_eq]

theorem innerItems_eq_iff (xs ys : List Value)
    (h : ∀ v ∈ xs, ∀ b, inner v = inner b ↔ Value.compare v b = .eq) :
    innerItems xs = innerItems ys ↔ Value.compareItems xs ys = .eq := by
  induction xs generalizing ys with
  | nil =>
    cases ys with
    | nil => simp [innerItems, Value.compareItems]
    | cons y ys =>
      simp only [innerItems, Value.compareItems, Ordering.then_eq_eq, reduceCtorEq, false_iff]
      rintro ⟨-, hlength⟩
      exact absurd (Nat.compare_eq_eq.mp hlength) (by simp)
  | cons x xs ih =>
    cases ys with
    | nil => simp [innerItems, Value.compareItems, Ordering.then_eq_eq]
    | cons y ys =>
      have hvalue := h x List.mem_cons_self y
      have hrest := ih ys fun v hv => h v (List.mem_cons_of_mem _ hv)
      simp only [innerItems, Value.compareItems, List.cons.injEq, Ordering.then_eq_eq, hvalue,
        hrest]

theorem inner_alike_eq_iff (a b : Value) (hab : Value.Alike a b) (h : a.IsScalar) :
    inner a = inner b ↔ Value.compare a b = .eq := by
  cases hab with
  | document => exact h.elim
  | array => exact h.elim
  | reference => exact h.elim
  | minKey => exact iff_of_true rfl rfl
  | null => exact iff_of_true rfl rfl
  | maxKey => exact iff_of_true rfl rfl
  | string s t => simp [inner, Value.compare]
  | boolean x y => cases x <;> cases y <;> simp [inner, Value.compare]
  | dateTime m n => simp [inner, Value.compare, Int64.toInt_inj]
  | objectId i j =>
    cases i
    cases j
    simp [inner, Value.compare, Value.compareBytes_eq_iff]
  | binary s t x y =>
    simp [inner, Value.compare, Value.compareBytes_eq_iff, Ordering.then_eq_eq, UInt8.toNat_inj,
      and_comm]
  | regex r s =>
    cases r
    cases s
    simp [inner, Value.compare, Ordering.then_eq_eq]

/-- Only values of one class share a key, and only they are equal in the order. -/
theorem inner_eq_iff_of_class (a : Value)
    (h : ∀ b, a.typeClass = b.typeClass → (inner a = inner b ↔ Value.compare a b = .eq))
    (b : Value) : inner a = inner b ↔ Value.compare a b = .eq := by
  by_cases hab : a.typeClass = b.typeClass
  · exact h b hab
  · apply iff_of_false
    · intro heq
      apply hab
      rw [← typeClass_inner, ← typeClass_inner, heq]
    · rw [Value.compare_of_typeClass_ne a b hab]
      exact mt Nat.compare_eq_eq.mp (mt (Value.rank_injective _ _) hab)

theorem inner_eq_iff_of_alike (a : Value) (hn : a.typeClass ≠ .numeric)
    (h : ∀ b, Value.Alike a b → (inner a = inner b ↔ Value.compare a b = .eq)) (b : Value) :
    inner a = inner b ↔ Value.compare a b = .eq :=
  inner_eq_iff_of_class a (fun b hab => h b (Value.alike_of_typeClass_eq a b hab hn)) b

theorem inner_numeric_eq_iff (a b : Value) (ha : a.typeClass = .numeric)
    (hab : a.typeClass = b.typeClass) : inner a = inner b ↔ Value.compare a b = .eq := by
  obtain ⟨m, hm⟩ := (Value.typeClass_eq_numeric_iff a).mp ha
  obtain ⟨n, hn⟩ := (Value.typeClass_eq_numeric_iff b).mp (hab ▸ ha)
  rw [inner_of_numeric a m hm, inner_of_numeric b n hn, Value.compare_of_numeric a b m n hm hn]
  exact ofNumeric_eq_iff m n (Value.numeric?_fits a m hm) (Value.numeric?_fits b n hn)

theorem inner_eq_iff (a : Value) : ∀ b, inner a = inner b ↔ Value.compare a b = .eq := by
  induction a using Value.nested_induction with
  | scalar a h =>
    by_cases hn : a.typeClass = .numeric
    · exact inner_eq_iff_of_class a fun b hab => inner_numeric_eq_iff a b hn hab
    · exact inner_eq_iff_of_alike a hn fun b hab => inner_alike_eq_iff a b hab h
  | document xs ih =>
    apply inner_eq_iff_of_alike _ (by simp [Value.typeClass])
    intro b hab
    cases hab with
    | document _ ys =>
      rw [inner, inner, Key.document.injEq, Value.compare]
      exact innerFields_eq_iff xs ys ih
  | array xs ih =>
    apply inner_eq_iff_of_alike _ (by simp [Value.typeClass])
    intro b hab
    cases hab with
    | array _ ys =>
      rw [inner, inner, Key.array.injEq, Value.compare]
      exact innerItems_eq_iff xs ys ih
  | reference d s x ih =>
    apply inner_eq_iff_of_alike _ (by simp [Value.typeClass])
    intro b hab
    cases hab with
    | reference _ e _ t _ y =>
      simp only [inner, Value.compare, Key.reference.injEq, Ordering.then_eq_eq,
        Value.compareOption_eq_iff, Std.LawfulEqCmp.compare_eq_iff_eq, ih y, and_assoc]

end Key

namespace Value

/-- An object id as its hex text, every other value as it is. -/
def spelled : Value → Value
  | .objectId id => .string id.hex
  | v => v

theorem ofValue_eq_inner_spelled (v : Value) : Key.ofValue v = Key.inner v.spelled := by
  cases v <;> rfl

theorem compare_string_beq (s t : String) :
    (compare (.string s) (.string t) == .eq) = (s == t) := by
  rw [Bool.eq_iff_iff, beq_iff_eq, beq_iff_eq, compare, Std.LawfulEqCmp.compare_eq_iff_eq]

theorem compare_objectId_eq_iff (i j : ObjectId) :
    compare (.objectId i) (.objectId j) = .eq ↔ i.hex = j.hex := by
  rw [compare, compareBytes_eq_iff, ObjectId.hex, ObjectId.hex, Hex.encode_inj]

theorem equal_eq_compare_spelled (a b : Value) :
    equal a b = (compare a.spelled b.spelled == .eq) := by
  cases a <;> cases b <;> try rfl
  case objectId.objectId i j =>
    change (compare (.objectId i) (.objectId j) == .eq) =
      (compare (.string i.hex) (.string j.hex) == .eq)
    rw [compare_string_beq, Bool.eq_iff_iff, beq_iff_eq, beq_iff_eq, compare_objectId_eq_iff]
  case objectId.string i t => exact (compare_string_beq i.hex t).symm
  case string.objectId s j =>
    change (j.hex == s) = (compare (.string s) (.string j.hex) == .eq)
    rw [compare_string_beq, Bool.beq_comm]

theorem ofValue_eq_iff (a b : Value) : Key.ofValue a = Key.ofValue b ↔ equal a b = true := by
  rw [ofValue_eq_inner_spelled, ofValue_eq_inner_spelled, Key.inner_eq_iff,
    equal_eq_compare_spelled, beq_iff_eq]

/-- Keys agree exactly on values that are equal, so equality is an equivalence. -/
theorem keys_decide_equality :
    (∀ a b, Key.ofValue a = Key.ofValue b ↔ equal a b = true) ∧
      Equivalence fun a b => equal a b = true := by
  refine ⟨ofValue_eq_iff, ?_, ?_, ?_⟩
  · intro a
    exact (ofValue_eq_iff a a).mp rfl
  · intro a b hab
    exact (ofValue_eq_iff b a).mp ((ofValue_eq_iff a b).mpr hab).symm
  · intro a b c hab hbc
    rw [← ofValue_eq_iff] at hab hbc ⊢
    exact hab.trans hbc

end Value

end Docbase
