import Docbase.Proofs.MapReduce.Emission
import Docbase.Proofs.Value.Key

/-!
Plain keys: texts, numbers, booleans and null. They are grouped as keys of a table, and their
results are told apart as values. The two nearly agree. They part where different texts are
decoded to one, and where the decimal of a large double spells another integer than the one that
the double equals.
-/
namespace Docbase

namespace Binary64

/-- Equal doubles stand at one place. -/
theorem place_congr (x y : Binary64) (h : x.toRat = y.toRat) : x.place = y.place := by
  have hmagnitude : x.magnitude = y.magnitude := by
    apply wordValue_strictMono.injective
    rw [← abs_toRat, ← abs_toRat, h]
  have hreach := reach_congr x y hmagnitude
  rcases Nat.eq_zero_or_pos x.magnitude with hzero | hpos
  · rw [place, place, ← hreach, reach_zero x hzero]
    simp
  · have hvalue : 0 < wordValue x.magnitude := wordValue_zero ▸ wordValue_strictMono hpos
    rw [toRat_eq, toRat_eq, ← hmagnitude] at h
    rw [place, place, ← hreach]
    cases hx : x.isNegative <;> cases hy : y.isNegative <;> simp only [hx, hy] at h ⊢
    · simp only [Bool.false_eq_true, if_false, if_true] at h
      linarith
    · simp only [Bool.false_eq_true, if_false, if_true] at h
      linarith

theorem isFinite_of_isWhole (x : Binary64) (h : x.isWhole = true) : x.isFinite = true :=
  (Bool.and_eq_true_iff.mp h).1

theorem isNaN_of_isFinite (x : Binary64) (h : x.isFinite = true) : x.isNaN = false :=
  decide_eq_false (lt_asymm (of_decide_eq_true h))

theorem isFinite_of_place (x : Binary64) (h : x.place = 0) : x.isFinite = true ∧ x.toRat = 0 := by
  have hmagnitude : x.magnitude = 0 := by
    by_contra hne
    have hpos := x.reach_pos (Nat.pos_of_ne_zero hne)
    rw [← x.abs_place, h, abs_zero] at hpos
    exact lt_irrefl _ hpos
  refine ⟨?_, ?_⟩
  · rw [isFinite, hmagnitude]
    decide
  · rw [toRat_eq, hmagnitude, wordValue_zero]
    simp

end Binary64

namespace Script.Number

/-- The integers that doubles count as. -/
theorem intOfDouble?_eq_some_iff (x : Binary64) (n : Int64) :
    intOfDouble? x = some n ↔ x.isWhole = true ∧ x.truncate = n.toInt := by
  have hmax : Int64.maxValue.toInt = 2 ^ 63 - 1 := rfl
  unfold intOfDouble?
  by_cases hwhole : x.isWhole = true
  · rw [if_pos hwhole]
    dsimp only
    split_ifs with hfits
    · rw [Option.some_inj]
      constructor
      · rintro rfl
        exact ⟨hwhole, (Int64.toInt_ofInt_of_le hfits.1 (by omega)).symm⟩
      · rintro ⟨-, h⟩
        rw [h, Int64.ofInt_toInt]
    · simp only [hwhole, true_and]
      exact iff_of_false nofun fun h => hfits (h ▸ ⟨n.minValue_le_toInt, n.toInt_le⟩)
  · rw [if_neg hwhole]
    exact iff_of_false nofun fun h => hwhole h.1

end Script.Number

namespace MapReduce

open Script

/-- Texts, numbers and booleans, and null, which nil counts as. -/
inductive IsPlain : Datum → Prop
  | boolean (b : Bool) : IsPlain (.boolean b)
  | int (n : Int64) : IsPlain (.int n)
  | double (x : Binary64) : IsPlain (.double x)
  | text (s : Bytes) : IsPlain (.text s)
  | null : IsPlain null

/-- The value of a plain key. -/
def plainValue : Datum → Value
  | .boolean b => .boolean b
  | .int n => if Int32.minValue.toInt ≤ n.toInt ∧ n.toInt ≤ Int32.maxValue.toInt then
      .int32 (Int32.ofInt n.toInt) else .int64 n
  | .double x => .double x
  | .text s => .string (Utf8.decode s)
  | _ => .null

/-- Keys that are grouped apart although their values are equal: texts that are decoded to one,
and a double of which the decimal spells an integer that it does not equal. -/
def Parted : Datum → Datum → Prop
  | .text s, .text t => s ≠ t ∧ Utf8.decode s = Utf8.decode t
  | .int n, .double x | .double x, .int n =>
    x.isSpelled = true ∧ x.shortestInt? = some n.toInt ∧ x.truncate ≠ n.toInt
  | _, _ => False

/-- Keys that are grouped together although their values differ: a double equals an integer, and
its decimal spells another one. -/
def Joined : Datum → Datum → Prop
  | .int n, .double x | .double x, .int n =>
    x.isSpelled = true ∧ x.truncate = n.toInt ∧ x.shortestInt? ≠ some n.toInt
  | _, _ => False

/-! The class of a key and the key of its value. -/

/-- The key by which the value of a plain key is told apart. -/
def plainKey (k : Datum) : Key := Key.ofValue (plainValue k)

theorem plainKey_eq_iff (k l : Datum) :
    plainKey k = plainKey l ↔ (plainValue k).equal (plainValue l) = true :=
  Value.ofValue_eq_iff _ _

theorem plainKey_int (n : Int64) : plainKey (.int n) = .integer n.toInt := by
  rw [plainKey, plainValue]
  split_ifs with hfits
  · have hmin : Int32.minValue.toInt = -2 ^ 31 := rfl
    have hmax : Int32.maxValue.toInt = 2 ^ 31 - 1 := rfl
    exact congrArg Key.integer (Int32.toInt_ofInt_of_le (by omega) (by omega))
  · rfl

theorem plainKey_double (x : Binary64) : plainKey (.double x) = Key.ofDouble x := rfl

theorem classOf_double {x : Binary64} (hnan : x.isNaN = false) :
    classOf (.double x) = some (Datum.double x).normalizeKey :=
  if_pos (by simp [Datum.isKey, hnan])

theorem classOf_nan {x : Binary64} (hnan : x.isNaN = true) : classOf (.double x) = none :=
  if_neg (by simp [Datum.isKey, hnan])

theorem classOf_double_eq_int_iff (x : Binary64) (n : Int64) :
    classOf (.double x) = classOf (.int n) ↔ x.isWhole = true ∧ x.truncate = n.toInt := by
  have hint : classOf (.int n) = some (.int n) := rfl
  rw [← Number.intOfDouble?_eq_some_iff, hint]
  cases hnan : x.isNaN with
  | true =>
    rw [classOf_nan hnan, Number.intOfDouble?_eq_some_iff]
    refine iff_of_false nofun fun h => ?_
    cases hnan.symm.trans (x.isNaN_of_isFinite (x.isFinite_of_isWhole h.1))
  | false =>
    rw [classOf_double hnan, Datum.normalizeKey]
    cases Number.intOfDouble? x <;> simp

/-- The integers whose key a double has: from `2 ^ 53` on its decimal tells. -/
theorem ofDouble_eq_integer_iff (x : Binary64) (n : Int64) :
    Key.ofDouble x = .integer n.toInt ↔
      if x.isSpelled then x.shortestInt? = some n.toInt
      else x.isWhole = true ∧ x.truncate = n.toInt := by
  have hn : n.toInt.natAbs ≤ 2 ^ 63 := by
    have hlow := n.le_toInt
    have hhigh := n.toInt_lt
    omega
  have hplace : Key.ofDouble x = .integer n.toInt ↔ x.isNaN = false ∧ x.place = n.toInt := by
    rw [eq_comm, Key.ofNumeric_int_double n.toInt x hn, Numeric.place, Numeric.place]
    cases x.isNaN with
    | true => simp
    | false => simp [eq_comm]
  rw [hplace]
  split_ifs with hspelled
  · obtain ⟨m, hm, hplace⟩ := x.shortestInt?_of_isSpelled hspelled
    rw [hm, hplace, Int.cast_inj, Option.some_inj]
    exact and_iff_right (x.isNaN_of_isFinite (x.isFinite_of_isSpelled hspelled))
  · rw [x.place_of_not_isSpelled (by simpa using hspelled)]
    constructor
    · rintro ⟨-, h⟩
      have hfinite : x.isFinite = true := by
        by_contra hwide
        exact x.ne_of_wide (x.wide_of_not_isFinite (by simpa using hwide)) n.toInt hn h
      have hwhole := x.isWhole_of_eq_int hfinite n.toInt h
      exact ⟨hwhole, Int.cast_injective ((x.truncate_of_isWhole hwhole).trans h)⟩
    · rintro ⟨hwhole, h⟩
      rw [← x.truncate_of_isWhole hwhole, h]
      exact ⟨x.isNaN_of_isFinite (x.isFinite_of_isWhole hwhole), rfl⟩

/-- Doubles are grouped together as their values are equal: only the zeros are two of one. -/
theorem classOf_double_eq_iff (x y : Binary64) :
    classOf (.double x) = classOf (.double y) ↔ Key.ofDouble x = Key.ofDouble y := by
  rw [Key.ofDouble_eq_iff, Numeric.place, Numeric.place]
  cases hx : x.isNaN <;> cases hy : y.isNaN
  · rw [classOf_double hx, classOf_double hy, Option.some_inj]
    simp only [Bool.false_eq_true, if_false, WithBot.coe_inj]
    constructor
    · intro h
      rw [Datum.normalizeKey, Datum.normalizeKey] at h
      cases hm : Number.intOfDouble? x <;> cases hn : Number.intOfDouble? y <;>
        simp only [hm, hn, Datum.double.injEq, Datum.int.injEq, reduceCtorEq] at h
      · rw [h]
      · obtain ⟨hxwhole, hxvalue⟩ := (Number.intOfDouble?_eq_some_iff x _).mp hm
        obtain ⟨hywhole, hyvalue⟩ := (Number.intOfDouble?_eq_some_iff y _).mp hn
        apply x.place_congr y
        rw [← x.truncate_of_isWhole hxwhole, ← y.truncate_of_isWhole hywhole, hxvalue, hyvalue, h]
    · intro h
      rcases x.eq_of_place y h with rfl | hzero
      · rfl
      · have hcount (z : Binary64) (hz : z.place = 0) : Number.intOfDouble? z = some 0 := by
          obtain ⟨hfinite, hvalue⟩ := z.isFinite_of_place hz
          have hwhole := z.isWhole_of_eq_int hfinite 0 (by simpa using hvalue)
          refine (Number.intOfDouble?_eq_some_iff z 0).mpr ⟨hwhole, ?_⟩
          exact Int.cast_injective ((z.truncate_of_isWhole hwhole).trans (by simpa using hvalue))
        rw [Datum.normalizeKey, Datum.normalizeKey, hcount x hzero, hcount y (h ▸ hzero)]
  · rw [classOf_double hx, classOf_nan hy]
    simp
  · rw [classOf_nan hx, classOf_double hy]
    simp
  · rw [classOf_nan hx, classOf_nan hy]
    simp

/-- Where the decimal of a double spells another integer than the one that it equals. -/
theorem double_int_cases (x : Binary64) (n : Int64) :
    (classOf (.double x) = classOf (.int n) ∧ Key.ofDouble x ≠ .integer n.toInt ↔
      Joined (.double x) (.int n)) ∧
    (classOf (.double x) ≠ classOf (.int n) ∧ Key.ofDouble x = .integer n.toInt ↔
      Parted (.double x) (.int n)) := by
  simp only [ne_eq, classOf_double_eq_int_iff, ofDouble_eq_integer_iff, Joined, Parted]
  cases hspelled : x.isSpelled with
  | true =>
    have hwhole := x.isWhole_of_isSpelled hspelled
    simp only [hwhole, if_true, true_and]
    exact and_comm
  | false => simp

/-- The class of the value of a plain key. -/
def kind : Datum → TypeClass
  | .int _ | .double _ => .numeric
  | .boolean _ => .boolean
  | .text _ => .string
  | _ => .null

theorem typeClass_plainKey {k : Datum} (hk : IsPlain k) : (plainKey k).typeClass = kind k := by
  cases hk with
  | int n => rw [plainKey_int]; rfl
  | double x => exact Key.typeClass_ofDouble x
  | boolean | text | null => rfl

theorem kind_of_classOf {k : Datum} (hk : IsPlain k) :
    ((classOf k).map kind).getD .numeric = kind k := by
  cases hk with
  | double x =>
    cases hnan : x.isNaN with
    | true => rw [classOf_nan hnan]; rfl
    | false =>
      rw [classOf_double hnan, Datum.normalizeKey]
      cases Number.intOfDouble? x <;> rfl
  | boolean | int | text | null => rfl

/-- Where grouping and equality agree. -/
theorem agree {k l : Datum} (h : classOf k = classOf l ↔ plainKey k = plainKey l)
    (hnone : ¬Joined k l ∧ ¬Parted k l) :
    (classOf k = classOf l ∧ plainKey k ≠ plainKey l ↔ Joined k l) ∧
      (classOf k ≠ classOf l ∧ plainKey k = plainKey l ↔ Parted k l) :=
  ⟨iff_of_false (fun hjoined => hjoined.2 (h.mp hjoined.1)) hnone.1,
    iff_of_false (fun hparted => hparted.1 (h.mpr hparted.2)) hnone.2⟩

/-- Grouping and equality disagree on keys that are joined or parted, and on no others. -/
theorem plain_keys {k l : Datum} (hk : IsPlain k) (hl : IsPlain l) :
    (classOf k = classOf l ∧ plainKey k ≠ plainKey l ↔ Joined k l) ∧
      (classOf k ≠ classOf l ∧ plainKey k = plainKey l ↔ Parted k l) := by
  by_cases hkind : kind k = kind l
  · cases hk with
    | boolean b =>
      cases hl with
      | boolean c => exact agree (by cases b <;> cases c <;> decide) ⟨id, id⟩
      | _ => cases hkind
    | text s =>
      cases hl with
      | text t =>
        have hclass : classOf (.text s) = classOf (.text t) ↔ s = t :=
          Option.some_inj.trans (Datum.text.injEq s t).to_iff
        have hkey : plainKey (.text s) = plainKey (.text t) ↔ Utf8.decode s = Utf8.decode t :=
          (Key.string.injEq _ _).to_iff
        rw [Ne, Ne, hclass, hkey]
        exact ⟨iff_of_false (fun h => h.2 (congrArg Utf8.decode h.1)) id, Iff.rfl⟩
      | _ => cases hkind
    | null =>
      cases hl with
      | null => exact agree (iff_of_true rfl rfl) ⟨id, id⟩
      | _ => cases hkind
    | int m =>
      cases hl with
      | int n =>
        refine agree ?_ ⟨id, id⟩
        rw [plainKey_int, plainKey_int, Key.integer.injEq, Int64.toInt_inj]
        exact Option.some_inj.trans (Datum.int.injEq m n).to_iff
      | double y =>
        have h := double_int_cases y m
        rw [plainKey_int, plainKey_double]
        simp only [Ne, eq_comm] at h ⊢
        exact h
      | _ => cases hkind
    | double x =>
      cases hl with
      | int n =>
        rw [plainKey_int, plainKey_double]
        exact double_int_cases x n
      | double y => exact agree (classOf_double_eq_iff x y) ⟨id, id⟩
      | _ => cases hkind
  · refine agree (iff_of_false (fun h => hkind ?_) fun h => hkind ?_) ?_
    · rw [← kind_of_classOf hk, ← kind_of_classOf hl, h]
    · rw [← typeClass_plainKey hk, ← typeClass_plainKey hl, h]
    · cases hk <;> cases hl <;> first | exact ⟨id, id⟩ | exact absurd rfl hkind

/-- The shortest decimal of 2 ^ 60 spells another integer. -/
example : Joined (.int 1152921504606846976) (.double (.ofInt (2 ^ 60))) ∧
    Parted (.int 1152921504606847000) (.double (.ofInt (2 ^ 60))) := by
  simp only [Joined, Parted]
  decide +kernel

end MapReduce

end Docbase
