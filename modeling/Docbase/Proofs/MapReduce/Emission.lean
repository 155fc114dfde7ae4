import Docbase.MapReduce.Registry
import Mathlib.Data.List.Dedup
import Mathlib.Tactic

/-!
Emissions one after the other, and what is to be filed of them: one key for each class of keys,
and the values of each class.
-/
namespace Docbase.MapReduce

open Docbase.Script

/-- The table that the global `null` holds in a fresh scope. -/
def null : Datum := .table 6

/-- Nil counts as `null`. -/
def orNull (d : Datum) : Datum := if d.isNil then null else d

/-- A key with a value, neither of them nil. -/
structure Emission where
  key : Datum
  value : Datum

/-- What a call with some arguments emits. -/
def Emission.ofArgs (args : List Datum) : Emission :=
  ⟨orNull (args.headD .nil), orNull (args.tail.headD .nil)⟩

/-- Keys are told apart as keys of a table are: texts and booleans by value, numbers as numbers,
and tables and functions by their place. `none` is the class of every NaN. -/
def classOf (key : Datum) : Option Datum := if key.isKey then some key.normalizeKey else none

/-- The keys, of each class the one that came first, in the order in which they came. -/
def firstKeys : List Emission → List Datum
  | [] => []
  | e :: rest => e.key :: (firstKeys rest).filter fun k => classOf k ≠ classOf e.key

/-- The values that were emitted under the class of a key, in the order in which they came. -/
def valuesOf (key : Datum) (ems : List Emission) : List Datum :=
  (ems.filter fun e => classOf e.key = classOf key).map Emission.value

theorem orNull_isNil (d : Datum) : (orNull d).isNil = false := by
  cases d <;> rfl

variable {ems : List Emission} {k : Datum}

theorem exists_of_mem_firstKeys (h : k ∈ firstKeys ems) : ∃ e ∈ ems, e.key = k := by
  induction ems with
  | nil => simp [firstKeys] at h
  | cons e ems ih =>
    rcases List.mem_cons.mp h with rfl | h
    · exact ⟨e, List.mem_cons_self, rfl⟩
    · obtain ⟨e', he', hk⟩ := ih (List.mem_filter.mp h).1
      exact ⟨e', List.mem_cons_of_mem _ he', hk⟩

/-- Every class that was emitted has its key. -/
theorem mem_classes_iff {c : Option Datum} :
    c ∈ (firstKeys ems).map classOf ↔ c ∈ ems.map fun e => classOf e.key := by
  induction ems with
  | nil => simp [firstKeys]
  | cons e ems ih =>
    rw [firstKeys, List.map_cons, List.map_cons, List.mem_cons, List.mem_cons, ← ih]
    by_cases hc : c = classOf e.key
    · simp [hc]
    · refine or_congr_right ?_
      simp only [List.mem_map, List.mem_filter, decide_eq_true_eq]
      constructor
      · rintro ⟨k, ⟨hk, -⟩, rfl⟩
        exact ⟨k, hk, rfl⟩
      · rintro ⟨k, hk, rfl⟩
        exact ⟨k, ⟨hk, hc⟩, rfl⟩

theorem nodup_classes (ems : List Emission) : ((firstKeys ems).map classOf).Nodup := by
  induction ems with
  | nil => exact List.nodup_nil
  | cons e ems ih =>
    rw [firstKeys, List.map_cons, List.nodup_cons]
    refine ⟨?_, ih.sublist (List.filter_sublist.map classOf)⟩
    rw [List.mem_map]
    rintro ⟨k, hk, heq⟩
    simpa [heq] using (List.mem_filter.mp hk).2

/-- An emission of a known class leaves the keys as they are; any other comes last. -/
theorem firstKeys_append (ems : List Emission) (e : Emission) :
    firstKeys (ems ++ [e]) =
      if classOf e.key ∈ (firstKeys ems).map classOf then firstKeys ems
      else firstKeys ems ++ [e.key] := by
  induction ems with
  | nil => simp [firstKeys]
  | cons e' ems ih =>
    rw [List.cons_append, firstKeys, ih, firstKeys, List.map_cons]
    by_cases hsame : classOf e.key = classOf e'.key
    · rw [hsame, if_pos List.mem_cons_self]
      split_ifs
      · rfl
      · rw [List.filter_append, List.filter_singleton]
        simp [hsame]
    · have hmem : classOf e.key ∈ classOf e'.key ::
          ((firstKeys ems).filter fun k => classOf k ≠ classOf e'.key).map classOf ↔
          classOf e.key ∈ (firstKeys ems).map classOf := by
        simp only [List.mem_cons, hsame, false_or, List.mem_map, List.mem_filter,
          decide_eq_true_eq]
        constructor
        · rintro ⟨k, ⟨hk, -⟩, heq⟩
          exact ⟨k, hk, heq⟩
        · rintro ⟨k, hk, heq⟩
          exact ⟨k, ⟨hk, heq ▸ hsame⟩, heq⟩
      rw [if_congr hmem rfl rfl]
      split_ifs
      · rfl
      · rw [List.filter_append, List.filter_singleton]
        simp [hsame]

theorem valuesOf_append (k : Datum) (ems : List Emission) (e : Emission) :
    valuesOf k (ems ++ [e]) =
      if classOf e.key = classOf k then valuesOf k ems ++ [e.value] else valuesOf k ems := by
  unfold valuesOf
  rw [List.filter_append, List.map_append, List.filter_singleton]
  split_ifs with h <;> simp [h]

/-- Together the classes have all emissions. -/
theorem sum_length_valuesOf (ems : List Emission) :
    ((firstKeys ems).map fun k => (valuesOf k ems).length).sum = ems.length := by
  have hperm : ((firstKeys ems).map classOf).Perm
      (ems.map fun e => classOf e.key).dedup := by
    rw [List.perm_ext_iff_of_nodup (nodup_classes ems) (List.nodup_dedup _)]
    intro c
    rw [List.mem_dedup, mem_classes_iff]
  have hcount (k : Datum) : (valuesOf k ems).length =
      (ems.map fun e => classOf e.key).count (classOf k) := by
    rw [valuesOf, List.length_map, ← List.countP_eq_length_filter, List.count, List.countP_map]
    exact List.countP_congr fun e _ => by simp
  calc ((firstKeys ems).map fun k => (valuesOf k ems).length).sum
      = (((firstKeys ems).map classOf).map fun c =>
          (ems.map fun e => classOf e.key).count c).sum := by
        rw [List.map_map]
        exact congrArg List.sum (List.map_congr_left fun k _ => hcount k)
    _ = ((ems.map fun e => classOf e.key).dedup.map fun c =>
          (ems.map fun e => classOf e.key).count c).sum := (hperm.map _).sum_eq
    _ = (ems.map fun e => classOf e.key).length := by
        refine Eq.trans ?_ (List.sum_map_count_dedup_eq_length _)
        refine congrArg List.sum (List.map_congr_left fun c _ => ?_)
        congr
        exact lawful_beq_subsingleton _ _
    _ = ems.length := List.length_map _

end Docbase.MapReduce
