import Docbase.Proofs.Value.Number
import Docbase.Proofs.Value.Shape

/-!
The order of values is a total preorder. What is proved of a comparison is how three of its
answers fit together (`Chains`); answers that fit stay so when ties are broken by further
answers that fit. So the composite values follow entry by entry and element by element, a
missing element being one more null, and the numbers from the line on which they stand.
-/
namespace Docbase

/-- Answers to `a, b`, to `b, c` and to `a, c` fit: if neither of the first two is `gt`, the
third is strict whenever one of them is. -/
def Chains (ab bc ac : Ordering) : Prop := ab ≠ .gt → bc ≠ .gt → ac = ab.then bc

theorem Chains.then {ab bc ac ab' bc' ac' : Ordering} (h : Chains ab bc ac)
    (h' : Chains ab' bc' ac') : Chains (ab.then ab') (bc.then bc') (ac.then ac') := by
  unfold Chains at *
  cases ab <;> cases bc <;> cases ab' <;> simp_all

theorem swap_of_orientedCmp {α : Type*} (cmp : α → α → Ordering) [Std.OrientedCmp cmp]
    (a b : α) : cmp b a = (cmp a b).swap :=
  Std.OrientedCmp.eq_swap

theorem chains_of_transCmp {α : Type*} (cmp : α → α → Ordering) [Std.TransCmp cmp] (a b c : α) :
    Chains (cmp a b) (cmp b c) (cmp a c) := by
  intro hab hbc
  cases h : cmp a b with
  | lt =>
    have hle : (cmp b c).isLE = true := by cases hc : cmp b c <;> simp_all
    exact Std.TransCmp.lt_of_lt_of_isLE h hle
  | eq => exact Std.TransCmp.congr_left h
  | gt => exact absurd h hab

theorem chains_cmp {α : Type*} [LinearOrder α] (a b c : α) :
    Chains (cmp a b) (cmp b c) (cmp a c) := by
  intro hab hbc
  rw [Ne, cmp_eq_gt_iff, not_lt] at hab hbc
  rcases hab.eq_or_lt with rfl | hlt
  · rw [cmp_self_eq_eq]
    rfl
  · rw [(cmp_eq_lt_iff _ _).mpr hlt, (cmp_eq_lt_iff _ _).mpr (hlt.trans_le hbc)]
    rfl

namespace Value

/-! Scalars. -/

/-- Bytes are compared as lists of numbers. -/
theorem compareBytes_eq (x y : Bytes) :
    compareBytes x y = List.compareLex (compareOn UInt8.toNat) x y := by
  induction x generalizing y with
  | nil => cases y <;> rfl
  | cons a x ih =>
    cases y with
    | nil => rfl
    | cons b y =>
      rw [compareBytes, List.compareLex_cons_cons, ih]
      rfl

instance : Std.TransCmp compareBytes := by
  have h : compareBytes = List.compareLex (compareOn UInt8.toNat) := by
    funext x y
    exact compareBytes_eq x y
  rw [h]
  infer_instance

theorem compareOption_eq (a b : Option String) : compareOption a b = Ord.compare a b := by
  cases a <;> cases b <;> rfl

instance : Std.TransCmp compareOption := by
  have h : compareOption = Ord.compare := by
    funext a b
    exact compareOption_eq a b
  rw [h]
  infer_instance

theorem compareBytes_eq_iff (x y : Bytes) : compareBytes x y = .eq ↔ x = y := by
  induction x generalizing y with
  | nil => cases y <;> simp [compareBytes]
  | cons a x ih =>
    cases y with
    | nil => simp [compareBytes]
    | cons b y =>
      simp [compareBytes, Ordering.then_eq_eq, ih, UInt8.toNat_inj]

theorem compareOption_eq_iff (d e : Option String) :
    compareOption d e = .eq ↔ d = e := by
  rw [compareOption_eq, Std.LawfulEqCmp.compare_eq_iff_eq]

/-! Classes. -/

theorem rank_injective (c d : TypeClass) (h : c.rank = d.rank) : c = d := by
  cases c <;> cases d <;> first | rfl | exact absurd h (by decide)

theorem compare_of_rank_lt (a b : Value) (h : a.typeClass.rank < b.typeClass.rank) :
    compare a b = .lt := by
  rw [compare_of_typeClass_ne a b (fun heq => by simp [heq] at h)]
  exact Nat.compare_eq_lt.mpr h

theorem rank_le_of_compare (a b : Value) (h : compare a b ≠ .gt) :
    a.typeClass.rank ≤ b.typeClass.rank := by
  by_contra hlt
  apply h
  rw [compare_of_typeClass_ne a b (fun heq => by simp [heq] at hlt)]
  exact Nat.compare_eq_gt.mpr (not_le.mp hlt)

/-- Only values of one class need a look at their contents. -/
theorem chains_of_class (a : Value)
    (h : ∀ b c, a.typeClass = b.typeClass → b.typeClass = c.typeClass →
      Chains (compare a b) (compare b c) (compare a c)) (b c : Value) :
    Chains (compare a b) (compare b c) (compare a c) := by
  by_cases hab : a.typeClass = b.typeClass
  · by_cases hbc : b.typeClass = c.typeClass
    · exact h b c hab hbc
    · intro hle hle'
      have hlt : b.typeClass.rank < c.typeClass.rank :=
        lt_of_le_of_ne (rank_le_of_compare b c hle') (mt (rank_injective _ _) hbc)
      rw [compare_of_rank_lt b c hlt, compare_of_rank_lt a c (hab ▸ hlt)]
      cases hcmp : compare a b <;> simp_all
  · intro hle hle'
    have hlt : a.typeClass.rank < b.typeClass.rank :=
      lt_of_le_of_ne (rank_le_of_compare a b hle) (mt (rank_injective _ _) hab)
    rw [compare_of_rank_lt a b hlt,
      compare_of_rank_lt a c (hlt.trans_le (rank_le_of_compare b c hle'))]
    rfl

/-! Composite values. -/

theorem compare_null_left (v : Value) : compare .null v = compareClass .null v := by
  cases v <;> rfl

theorem compare_null_right (v : Value) : compare v .null = compareClass v .null := by
  cases v <;> rfl

/-- Which of two lists has an element left. -/
def compareLeft (xs ys : List Value) : Ordering :=
  Ord.compare (min 1 xs.length) (min 1 ys.length)

/-- One step through two arrays at once, the shorter one being continued by nulls. -/
theorem compareItems_step (xs ys : List Value) :
    compareItems xs ys =
      ((compare (xs.headD .null) (ys.headD .null)).then
        (compareItems xs.tail ys.tail)).then (compareLeft xs ys) := by
  cases xs with
  | nil =>
    cases ys with
    | nil => rfl
    | cons y ys =>
      have hleft : compareLeft [] (y :: ys) = .lt := by
        simp only [compareLeft, List.length_nil, List.length_cons]
        exact Nat.compare_eq_lt.mpr (by omega)
      have hlength : Ord.compare 0 (y :: ys).length = .lt := Nat.compare_eq_lt.mpr (by simp)
      have hrest : Ord.compare 0 ys.length ≠ .gt := by simp [Nat.compare_eq_gt]
      simp only [compareItems, List.headD_nil, List.headD_cons, List.tail_nil, List.tail_cons,
        compare_null_left, List.foldr_cons, hleft, hlength, Ordering.then_assoc]
      -- A tie of the rest is broken by what both ways end with.
      cases hr : Ord.compare 0 ys.length
      · rfl
      · rfl
      · exact absurd hr hrest
  | cons x xs =>
    cases ys with
    | nil =>
      have hleft : compareLeft (x :: xs) [] = .gt := by
        simp only [compareLeft, List.length_nil, List.length_cons]
        exact Nat.compare_eq_gt.mpr (by omega)
      rw [compareItems, hleft]
      simp only [List.headD_nil, List.headD_cons, List.tail_nil, List.tail_cons,
        compare_null_right]
    | cons y ys =>
      have hleft : compareLeft (x :: xs) (y :: ys) = .eq := by
        simp only [compareLeft, List.length_cons]
        exact Nat.compare_eq_eq.mpr (by omega)
      rw [compareItems, hleft, Ordering.then_eq]
      rfl

/-- Answers about arrays fit if those about their elements do. -/
theorem chains_items (n : ℕ) (xs ys zs : List Value) (hx : xs.length ≤ n) (hy : ys.length ≤ n)
    (hz : zs.length ≤ n)
    (h : ∀ x, x ∈ xs ∨ x = .null → ∀ b c, Chains (compare x b) (compare b c) (compare x c)) :
    Chains (compareItems xs ys) (compareItems ys zs) (compareItems xs zs) := by
  induction n generalizing xs ys zs with
  | zero =>
    rw [List.length_eq_zero_iff.mp (by omega : xs.length = 0),
      List.length_eq_zero_iff.mp (by omega : ys.length = 0),
      List.length_eq_zero_iff.mp (by omega : zs.length = 0)]
    intro _ _
    rfl
  | succ n ih =>
    rw [compareItems_step xs ys, compareItems_step ys zs, compareItems_step xs zs]
    refine (Chains.then ?_ ?_).then (chains_of_transCmp Ord.compare (min 1 xs.length) _ _)
    · apply h
      cases xs <;> simp
    · apply ih
      · rw [List.length_tail]; omega
      · rw [List.length_tail]; omega
      · rw [List.length_tail]; omega
      · intro x hx
        exact h x (hx.imp_left List.mem_of_mem_tail)

theorem chains_fields (xs ys zs : List (String × Value))
    (h : ∀ entry ∈ xs, ∀ b c, Chains (compare entry.2 b) (compare b c) (compare entry.2 c)) :
    Chains (compareFields xs ys) (compareFields ys zs) (compareFields xs zs) := by
  induction xs generalizing ys zs with
  | nil =>
    cases ys <;> cases zs <;> simp [Chains, compareFields]
  | cons x xs ih =>
    cases ys with
    | nil => simp [Chains, compareFields]
    | cons y ys =>
      cases zs with
      | nil => simp [Chains, compareFields]
      | cons z zs =>
        simp only [compareFields]
        exact ((chains_of_transCmp _ _ _ _).then (h x List.mem_cons_self y.2 z.2)).then
          (ih ys zs fun entry hentry => h entry (List.mem_cons_of_mem _ hentry))

/-! All values. -/

theorem chains_numeric (a b c : Value) (ha : a.typeClass = .numeric)
    (hab : a.typeClass = b.typeClass) (hbc : b.typeClass = c.typeClass) :
    Chains (compare a b) (compare b c) (compare a c) := by
  obtain ⟨l, hl⟩ := (typeClass_eq_numeric_iff a).mp ha
  obtain ⟨m, hm⟩ := (typeClass_eq_numeric_iff b).mp (hab ▸ ha)
  obtain ⟨n, hn⟩ := (typeClass_eq_numeric_iff c).mp (hbc ▸ hab ▸ ha)
  have hl' := numeric?_fits a l hl
  have hm' := numeric?_fits b m hm
  have hn' := numeric?_fits c n hn
  rw [compare_of_numeric a b l m hl hm, compare_of_numeric b c m n hm hn,
    compare_of_numeric a c l n hl hn, Numeric.compare_eq_cmp_place l m hl' hm',
    Numeric.compare_eq_cmp_place m n hm' hn', Numeric.compare_eq_cmp_place l n hl' hn']
  exact chains_cmp _ _ _

theorem chains_of_alike (a : Value) (hn : a.typeClass ≠ .numeric)
    (h : ∀ b c, Alike a b → Alike b c → Chains (compare a b) (compare b c) (compare a c))
    (b c : Value) : Chains (compare a b) (compare b c) (compare a c) := by
  apply chains_of_class a
  intro b c hab hbc
  exact h b c (alike_of_typeClass_eq a b hab hn) (alike_of_typeClass_eq b c hbc (hab ▸ hn))

theorem chains_alike (a b c : Value) (hab : Alike a b) (hbc : Alike b c) (h : a.IsScalar) :
    Chains (compare a b) (compare b c) (compare a c) := by
  cases hab with
  | document => exact h.elim
  | array => exact h.elim
  | reference => exact h.elim
  | minKey =>
    cases hbc
    intro _ _
    rfl
  | null =>
    cases hbc
    intro _ _
    rfl
  | maxKey =>
    cases hbc
    intro _ _
    rfl
  | string s t =>
    cases hbc
    exact chains_of_transCmp Ord.compare s t _
  | boolean x y =>
    cases hbc
    exact chains_of_transCmp Ord.compare x.toNat y.toNat _
  | dateTime m n =>
    cases hbc
    exact chains_of_transCmp Ord.compare m.toInt n.toInt _
  | binary s t x y =>
    cases hbc
    exact (chains_of_transCmp compareBytes x y _).then
      (chains_of_transCmp Ord.compare s.toNat t.toNat _)
  | objectId i j =>
    cases hbc
    exact chains_of_transCmp compareBytes i.bytes j.bytes _
  | regex r s =>
    cases hbc
    exact (chains_of_transCmp Ord.compare r.pattern s.pattern _).then
      (chains_of_transCmp Ord.compare r.options s.options _)

/-- Scalars fit with all values, numbers and other classes included. -/
theorem chains_scalar (a : Value) (h : a.IsScalar) (b c : Value) :
    Chains (compare a b) (compare b c) (compare a c) := by
  by_cases hn : a.typeClass = .numeric
  · exact chains_of_class a (fun b c hab hbc => chains_numeric a b c hn hab hbc) b c
  · exact chains_of_alike a hn (fun b c hab hbc => chains_alike a b c hab hbc h) b c

theorem chains (a : Value) : ∀ b c, Chains (compare a b) (compare b c) (compare a c) := by
  induction a using nested_induction with
  | scalar a h => exact chains_scalar a h
  | document xs ih =>
    apply chains_of_alike _ (by simp [typeClass])
    intro b c hab hbc
    cases hab with
    | document _ ys =>
    cases hbc with
    | document _ zs => exact chains_fields xs ys zs ih
  | array xs ih =>
    apply chains_of_alike _ (by simp [typeClass])
    intro b c hab hbc
    cases hab with
    | array _ ys =>
    cases hbc with
    | array _ zs =>
      refine chains_items (max xs.length (max ys.length zs.length)) xs ys zs (by omega)
        (by omega) (by omega) ?_
      rintro x (hx | rfl)
      · exact ih x hx
      · exact chains_scalar .null trivial
  | reference d s x ih =>
    apply chains_of_alike _ (by simp [typeClass])
    intro b c hab hbc
    cases hab with
    | reference _ e _ t _ y =>
    cases hbc with
    | reference _ f _ u _ z =>
      exact ((chains_of_transCmp compareOption d e f).then
        (chains_of_transCmp Ord.compare s t u)).then (ih y z)

/-! The other way round. -/

theorem compareFields_swap (xs ys : List (String × Value))
    (h : ∀ entry ∈ xs, ∀ b, compare b entry.2 = (compare entry.2 b).swap) :
    compareFields ys xs = (compareFields xs ys).swap := by
  induction xs generalizing ys with
  | nil => cases ys <;> rfl
  | cons x xs ih =>
    cases ys with
    | nil => rfl
    | cons y ys =>
      have hkey := swap_of_orientedCmp Ord.compare x.1 y.1
      have hvalue := h x List.mem_cons_self y.2
      have hrest := ih ys fun entry hentry => h entry (List.mem_cons_of_mem _ hentry)
      simp only [compareFields, Ordering.swap_then]
      rw [hkey, hvalue, hrest]

theorem compareItems_swap (n : ℕ) (xs ys : List Value) (hx : xs.length ≤ n) (hy : ys.length ≤ n)
    (h : ∀ x, x ∈ xs ∨ x = .null → ∀ b, compare b x = (compare x b).swap) :
    compareItems ys xs = (compareItems xs ys).swap := by
  induction n generalizing xs ys with
  | zero =>
    rw [List.length_eq_zero_iff.mp (by omega : xs.length = 0),
      List.length_eq_zero_iff.mp (by omega : ys.length = 0)]
    rfl
  | succ n ih =>
    have hhead := h (xs.headD .null) (by cases xs <;> simp) (ys.headD .null)
    have htail := ih xs.tail ys.tail (by rw [List.length_tail]; omega)
      (by rw [List.length_tail]; omega) fun x hx => h x (hx.imp_left List.mem_of_mem_tail)
    have hleft := swap_of_orientedCmp Ord.compare (min 1 xs.length) (min 1 ys.length)
    rw [compareItems_step xs ys, compareItems_step ys xs, compareLeft, compareLeft, hhead, htail,
      hleft, Ordering.swap_then, Ordering.swap_then]

theorem compare_alike_swap (a b : Value) (hab : Alike a b) (h : a.IsScalar) :
    compare b a = (compare a b).swap := by
  cases hab with
  | document => exact h.elim
  | array => exact h.elim
  | reference => exact h.elim
  | minKey => rfl
  | null => rfl
  | maxKey => rfl
  | string s t => exact swap_of_orientedCmp Ord.compare s t
  | boolean x y => exact swap_of_orientedCmp Ord.compare x.toNat y.toNat
  | dateTime m n => exact swap_of_orientedCmp Ord.compare m.toInt n.toInt
  | objectId i j => exact swap_of_orientedCmp compareBytes i.bytes j.bytes
  | binary s t x y =>
    have hbytes := swap_of_orientedCmp compareBytes x y
    have hsubtype := swap_of_orientedCmp Ord.compare s.toNat t.toNat
    rw [compare, compare, hbytes, hsubtype, Ordering.swap_then]
  | regex r s =>
    have hpattern := swap_of_orientedCmp Ord.compare r.pattern s.pattern
    have hoptions := swap_of_orientedCmp Ord.compare r.options s.options
    rw [compare, compare, hpattern, hoptions, Ordering.swap_then]

theorem swap_of_class (a : Value)
    (h : ∀ b, a.typeClass = b.typeClass → compare b a = (compare a b).swap) (b : Value) :
    compare b a = (compare a b).swap := by
  by_cases hab : a.typeClass = b.typeClass
  · exact h b hab
  · rw [compare_of_typeClass_ne a b hab, compare_of_typeClass_ne b a (Ne.symm hab)]
    exact swap_of_orientedCmp Ord.compare a.typeClass.rank b.typeClass.rank

theorem swap_of_alike (a : Value) (hn : a.typeClass ≠ .numeric)
    (h : ∀ b, Alike a b → compare b a = (compare a b).swap) (b : Value) :
    compare b a = (compare a b).swap :=
  swap_of_class a (fun b hab => h b (alike_of_typeClass_eq a b hab hn)) b

theorem compare_numeric_swap (a b : Value) (ha : a.typeClass = .numeric)
    (hab : a.typeClass = b.typeClass) : compare b a = (compare a b).swap := by
  obtain ⟨m, hm⟩ := (typeClass_eq_numeric_iff a).mp ha
  obtain ⟨n, hn⟩ := (typeClass_eq_numeric_iff b).mp (hab ▸ ha)
  have hm' := numeric?_fits a m hm
  have hn' := numeric?_fits b n hn
  rw [compare_of_numeric a b m n hm hn, compare_of_numeric b a n m hn hm,
    Numeric.compare_eq_cmp_place m n hm' hn', Numeric.compare_eq_cmp_place n m hn' hm', cmp_swap]

theorem compare_scalar_swap (a : Value) (h : a.IsScalar) (b : Value) :
    compare b a = (compare a b).swap := by
  by_cases hn : a.typeClass = .numeric
  · exact swap_of_class a (fun b hab => compare_numeric_swap a b hn hab) b
  · exact swap_of_alike a hn (fun b hab => compare_alike_swap a b hab h) b

theorem compare_swap (a : Value) : ∀ b, compare b a = (compare a b).swap := by
  induction a using nested_induction with
  | scalar a h => exact compare_scalar_swap a h
  | document xs ih =>
    apply swap_of_alike _ (by simp [typeClass])
    intro b hab
    cases hab with
    | document _ ys => exact compareFields_swap xs ys ih
  | array xs ih =>
    apply swap_of_alike _ (by simp [typeClass])
    intro b hab
    cases hab with
    | array _ ys =>
      refine compareItems_swap (max xs.length ys.length) xs ys (by omega) (by omega) ?_
      rintro x (hx | rfl)
      · exact ih x hx
      · exact compare_scalar_swap .null trivial
  | reference d s x ih =>
    apply swap_of_alike _ (by simp [typeClass])
    intro b hab
    cases hab with
    | reference _ e _ t _ y =>
      have hdatabase := swap_of_orientedCmp compareOption d e
      have hcollection := swap_of_orientedCmp Ord.compare s t
      rw [compare, compare, hdatabase, hcollection, ih y, Ordering.swap_then, Ordering.swap_then]

theorem compare_self (a : Value) : compare a a = .eq := by
  have h := compare_swap a a
  cases hc : compare a a <;> simp_all

/-- Every value equals itself in the order, swapping two values swaps the answer, and two steps
up are a step up, which is strict as soon as one of the two is. -/
theorem compare_total_preorder :
    (∀ a, compare a a = .eq) ∧ (∀ a b, compare b a = (compare a b).swap) ∧
      ∀ a b c, compare a b ≠ .gt → compare b c ≠ .gt →
        compare a c ≠ .gt ∧
          (compare a b = .lt ∨ compare b c = .lt → compare a c = .lt) := by
  refine ⟨compare_self, compare_swap, ?_⟩
  intro a b c hab hbc
  rw [chains a b c hab hbc]
  cases h : compare a b <;> simp_all

/-- An integer between two doubles, and an array of which a longer one adds only a null. -/
theorem compare_total_preorder_wide :
    compare (.array [.null, .int64 9007199254740993])
        (.array [.null, .double ⟨0x4340000000000001⟩]) = .lt ∧
      compare (.array [.null, .double ⟨0x4340000000000001⟩])
        (.array [.null, .int64 9007199254740994, .null]) = .lt ∧
      compare (.array [.null, .int64 9007199254740993])
        (.array [.null, .int64 9007199254740994, .null]) = .lt := by
  have hab : compare (.array [.null, .int64 9007199254740993])
      (.array [.null, .double ⟨0x4340000000000001⟩]) = .lt := by
    decide +kernel
  have hbc : compare (.array [.null, .double ⟨0x4340000000000001⟩])
      (.array [.null, .int64 9007199254740994, .null]) = .lt := by
    decide +kernel
  exact ⟨hab, hbc, (compare_total_preorder.2.2 _ _ _ (by simp [hab]) (by simp [hbc])).2
    (.inl hab)⟩

end Value

end Docbase
