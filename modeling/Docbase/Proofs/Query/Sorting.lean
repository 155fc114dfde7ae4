import Docbase.Proofs.Value.Order
import Docbase.Query.Sort
import Mathlib.Data.List.Sort

/-!
The order of documents under a sort specification is a total preorder, because the order of
values is and ties under one key are broken by the next. Sorting puts documents in this order,
and those that are equal in it keep their places.
-/
namespace Docbase

theorem Chains.flip {ab bc ac : Ordering} (h : Chains bc ab ac) : Chains ab bc ac := by
  intro hab hbc
  rw [h hbc hab]
  cases ab <;> cases bc <;> first | rfl | exact absurd rfl hab | exact absurd rfl hbc

/-- Two steps up are a step up, which is strict as soon as one of the two is. -/
theorem Chains.trans {ab bc ac : Ordering} (h : Chains ab bc ac) (hab : ab ≠ .gt) (hbc : bc ≠ .gt) :
    ac ≠ .gt ∧ (ab = .lt ∨ bc = .lt → ac = .lt) := by
  rw [h hab hbc]
  cases ab <;> simp_all

theorem Value.le_trans {a b c : Value} (hab : a.compare b ≠ .gt) (hbc : b.compare c ≠ .gt) :
    a.compare c ≠ .gt :=
  ((chains a b c).trans hab hbc).1

namespace SortKey

theorem least_mem (v : Value) (vs : List Value) : least v vs ∈ v :: vs := by
  induction vs generalizing v with
  | nil => exact List.mem_singleton_self v
  | cons w vs ih =>
    rw [least]
    split
    · exact List.mem_cons_of_mem _ (ih w)
    · exact List.mem_cons.mpr ((List.mem_cons.mp (ih v)).imp_right (List.mem_cons_of_mem w))

/-- The one of two values that is kept is not above either of them. -/
theorem kept_le (v w : Value) :
    (if w.compare v == .lt then w else v).compare v ≠ .gt ∧
      (if w.compare v == .lt then w else v).compare w ≠ .gt := by
  split
  · next h => simp_all [Value.compare_self]
  · next h =>
    rw [Value.compare_swap w v, Value.compare_self]
    cases hcompare : w.compare v <;> simp_all

/-- No value is below the least one. -/
theorem least_le (v : Value) (vs : List Value) :
    ∀ w ∈ v :: vs, (least v vs).compare w ≠ .gt := by
  induction vs generalizing v with
  | nil =>
    intro w hw
    rw [List.mem_singleton.mp hw, least, Value.compare_self]
    decide
  | cons x vs ih =>
    intro w hw
    rw [least]
    generalize hkept : (if x.compare v == .lt then x else v) = kept
    obtain ⟨hv, hx⟩ : kept.compare v ≠ .gt ∧ kept.compare x ≠ .gt := hkept ▸ kept_le v x
    have hleast : (least kept vs).compare kept ≠ .gt := ih kept kept List.mem_cons_self
    rcases List.mem_cons.mp hw with rfl | hmem
    · exact Value.le_trans hleast hv
    · rcases List.mem_cons.mp hmem with rfl | hrest
      · exact Value.le_trans hleast hx
      · exact ih kept w (List.mem_cons_of_mem _ hrest)

theorem compare_swap (k : SortKey) (a b : Document) : k.compare b a = (k.compare a b).swap := by
  unfold compare
  cases k.direction with
  | ascending => exact Value.compare_swap _ _
  | descending => exact Value.compare_swap _ _

theorem chains (k : SortKey) (a b c : Document) :
    Chains (k.compare a b) (k.compare b c) (k.compare a c) := by
  unfold compare
  cases k.direction with
  | ascending => exact Value.chains _ _ _
  | descending => exact (Value.chains _ _ _).flip

end SortKey

namespace SortSpec

theorem compareBy_swap (keys : List SortKey) (a b : Document) :
    compareBy keys b a = (compareBy keys a b).swap := by
  induction keys with
  | nil => rfl
  | cons k ks ih => rw [compareBy, compareBy, Ordering.swap_then, ← k.compare_swap, ih]

theorem chains_compareBy (keys : List SortKey) (a b c : Document) :
    Chains (compareBy keys a b) (compareBy keys b c) (compareBy keys a c) := by
  induction keys with
  | nil => exact fun _ _ => rfl
  | cons k ks ih => exact (k.chains a b c).then ih

/-- The first document may stand before the second. -/
def le (s : SortSpec) (a b : Document) : Bool := s.compare a b != .gt

variable (s : SortSpec) (a b c : Document)

theorem le_iff : s.le a b = true ↔ s.compare a b ≠ .gt := by
  rw [le, bne_iff_ne]

theorem compare_trans (hab : s.compare a b ≠ .gt) (hbc : s.compare b c ≠ .gt) :
    s.compare a c ≠ .gt ∧ (s.compare a b = .lt ∨ s.compare b c = .lt → s.compare a c = .lt) :=
  (chains_compareBy s.keys a b c).trans hab hbc

theorem le_trans (hab : s.le a b = true) (hbc : s.le b c = true) : s.le a c = true := by
  rw [le_iff] at *
  exact (s.compare_trans a b c hab hbc).1

theorem compare_swap : s.compare b a = (s.compare a b).swap := compareBy_swap s.keys a b

theorem le_total : (s.le a b || s.le b a) = true := by
  rw [le, le, s.compare_swap a b]
  cases s.compare a b <;> rfl

/-- Without keys all documents are equal, and they stay where they are. -/
theorem sort_eq_mergeSort (docs : List Document) : s.sort docs = docs.mergeSort s.le := by
  unfold sort
  split_ifs with h
  · have hle : ∀ a b, s.le a b = true := by
      intro a b
      rw [isEmpty, List.isEmpty_iff] at h
      rw [le, compare, h]
      rfl
    exact (List.mergeSort_of_pairwise (List.pairwise_of_forall hle)).symm
  · rfl

end SortSpec

/-- Sorting a list that ascends leaves elements that may stand in either order ascending. -/
theorem pairwise_mergeSort_of_lt {α : Type*} [LinearOrder α] {le : α → α → Bool} {l : List α}
    (trans : ∀ a b c, le a b = true → le b c = true → le a c = true)
    (total : ∀ a b, (le a b || le b a) = true) (h : l.Pairwise (· < ·)) :
    (l.mergeSort le).Pairwise fun a b => le a b = true ∧ (le b a = true → a < b) := by
  have hpositions : ∀ p ∈ l.zipIdx, ∀ q ∈ l.zipIdx, p.2 ≤ q.2 → p.1 ≤ q.1 := by
    intro p hp q hq hle
    obtain ⟨hplt, hp⟩ := List.getElem?_eq_some_iff.mp (List.mem_zipIdx_iff_getElem?.mp hp)
    obtain ⟨hqlt, hq⟩ := List.getElem?_eq_some_iff.mp (List.mem_zipIdx_iff_getElem?.mp hq)
    rw [← hp, ← hq]
    exact h.sortedLT.strictMono_get.monotone hle
  have hdecorated : (l.mergeSort le).Pairwise fun a b =>
      le a b = true ∧ (le b a = true → a ≤ b) := by
    rw [← List.mergeSort_zipIdx, List.pairwise_map]
    refine (List.pairwise_mergeSort (List.zipIdxLE_trans trans) (List.zipIdxLE_total total)
      l.zipIdx).imp_of_mem fun {p q} hp hq hle => ?_
    rw [List.mem_mergeSort] at hp hq
    unfold List.zipIdxLE at hle
    split_ifs at hle with hpq hqp
    · exact ⟨hpq, fun _ => hpositions p hp q hq (of_decide_eq_true hle)⟩
    · exact ⟨hpq, fun hback => absurd hback hqp⟩
  have hne : (l.mergeSort le).Nodup :=
    (List.mergeSort_perm l le).nodup_iff.mpr (h.imp ne_of_lt)
  exact (hdecorated.and hne).imp fun ⟨⟨hle, hback⟩, hne⟩ =>
    ⟨hle, fun h => lt_of_le_of_ne (hback h) hne⟩

end Docbase
