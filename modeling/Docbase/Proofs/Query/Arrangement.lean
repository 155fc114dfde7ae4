import Docbase.Proofs.Query.Sorting

/-!
How sorting arranges documents. Under any sort specification the positions of a list of documents
have one order in which the documents ascend and those that are equal stand as they stood, and the
sorted list is the list in this order. Sorting it again finds nothing to move.
-/
namespace Docbase.SortSpec

variable {s : SortSpec} {docs : List Document} {positions positions' : List (Fin docs.length)}

theorem compare_self (s : SortSpec) (a : Document) : s.compare a a = .eq := by
  have h := s.compare_swap a a
  cases hc : s.compare a a <;> simp_all

/-- The positions of documents in an order in which the documents ascend and those that are equal
stand as they stood. -/
structure Arranges (s : SortSpec) (docs : List Document)
    (positions : List (Fin docs.length)) : Prop where
  all : positions.Perm (List.finRange docs.length)
  ascending : positions.Pairwise fun i j => s.compare (docs.get i) (docs.get j) ≠ .gt
  stable : positions.Pairwise fun i j => s.compare (docs.get i) (docs.get j) = .eq → i < j

/-- Of two positions, the comparison of their documents or their own order tells which comes
first. -/
theorem Arranges.unique (h : s.Arranges docs positions) (h' : s.Arranges docs positions') :
    positions = positions' := by
  have hperm : positions.Perm positions' := h.all.trans h'.all.symm
  refine hperm.eq_of_pairwise (fun i j _ _ hij hji => ?_) (h.ascending.and h.stable)
    (h'.ascending.and h'.stable)
  have hswap := s.compare_swap (docs.get i) (docs.get j)
  have heq : s.compare (docs.get i) (docs.get j) = .eq := by
    have hle := hij.1
    have hback := hji.1
    rw [hswap] at hback
    cases hcompare : s.compare (docs.get i) (docs.get j) <;> simp_all
  have hback : s.compare (docs.get j) (docs.get i) = .eq := by
    rw [hswap, heq]
    rfl
  exact absurd (hij.2 heq) (hji.2 hback).asymm

/-- Sorting positions that ascend by their documents. -/
theorem pairwise_mergeSort_positions (s : SortSpec) (h : positions.Pairwise (· < ·)) :
    (positions.mergeSort fun i j => s.le (docs.get i) (docs.get j)).Pairwise fun i j =>
      s.compare (docs.get i) (docs.get j) ≠ .gt ∧
        (s.compare (docs.get i) (docs.get j) = .eq → i < j) := by
  refine (pairwise_mergeSort_of_lt (fun i j k => s.le_trans (docs.get i) (docs.get j) (docs.get k))
    (fun i j => s.le_total (docs.get i) (docs.get j)) h).imp ?_
  rintro i j ⟨hle, hback⟩
  refine ⟨(s.le_iff _ _).mp hle, fun heq => hback ((s.le_iff _ _).mpr ?_)⟩
  rw [s.compare_swap (docs.get i) (docs.get j), heq]
  decide

/-- Sorting positions by their documents sorts the documents. -/
theorem map_mergeSort_positions (s : SortSpec) (positions : List (Fin docs.length)) :
    (positions.mergeSort fun i j => s.le (docs.get i) (docs.get j)).map docs.get =
      s.sort (positions.map docs.get) := by
  rw [s.sort_eq_mergeSort]
  exact List.map_mergeSort fun i _ j _ => rfl

/-- The sorted list is the list in its one arrangement. -/
theorem exists_arranges (s : SortSpec) (docs : List Document) :
    ∃ positions, s.Arranges docs positions ∧ s.sort docs = positions.map docs.get := by
  have hordered := pairwise_mergeSort_positions s (List.pairwise_lt_finRange docs.length)
  refine ⟨_, ⟨List.mergeSort_perm _ _, hordered.imp And.left, hordered.imp And.right⟩, ?_⟩
  rw [map_mergeSort_positions, List.map_get_finRange]

theorem sort_of_arranges (h : s.Arranges docs positions) :
    s.sort docs = positions.map docs.get := by
  obtain ⟨sorted, hsorted, hmap⟩ := s.exists_arranges docs
  rw [hmap, hsorted.unique h]

theorem sort_sort (s : SortSpec) (docs : List Document) : s.sort (s.sort docs) = s.sort docs := by
  rw [s.sort_eq_mergeSort docs, s.sort_eq_mergeSort]
  exact List.mergeSort_of_pairwise (List.pairwise_mergeSort s.le_trans s.le_total docs)

/-- Any sort specification is a total preorder of all documents, and sorting puts any list of
documents in the only order of its positions in which they ascend and those that are equal stand as
they stood. Sorting twice is sorting once. -/
theorem sorting_arranges (s : SortSpec) :
    (∀ a, s.compare a a = .eq) ∧ (∀ a b, s.compare b a = (s.compare a b).swap) ∧
      (∀ a b c, s.compare a b ≠ .gt → s.compare b c ≠ .gt →
        s.compare a c ≠ .gt ∧
          (s.compare a b = .lt ∨ s.compare b c = .lt → s.compare a c = .lt)) ∧
      ∀ docs,
        (∃ positions, s.sort docs = positions.map docs.get ∧ s.Arranges docs positions ∧
          ∀ positions', s.Arranges docs positions' → positions' = positions) ∧
        s.sort (s.sort docs) = s.sort docs := by
  refine ⟨s.compare_self, s.compare_swap, s.compare_trans, fun docs => ⟨?_, s.sort_sort docs⟩⟩
  obtain ⟨positions, harranges, hsort⟩ := s.exists_arranges docs
  exact ⟨positions, hsort, harranges, fun positions' h => h.unique harranges⟩

/-- Upward through an array of documents, and then downward. -/
def mixedSort : SortSpec := ⟨[⟨⟨["a", "b"]⟩, .ascending⟩, ⟨⟨["c"]⟩, .descending⟩]⟩

/-- The first and the last are equal: both have the least number 2 and the greatest number 9. The
second is behind them, and the third, which lacks the first field, before them. -/
def mixedDocuments : List Document :=
  [[("a", .array [.document [("b", .int32 4)], .document [("b", .int32 2)]]),
      ("c", .array [.int32 1, .int32 9])],
    [("a", .document [("b", .int32 2)]), ("c", .int32 3)],
    [("c", .int32 1)],
    [("a", .array [.document [("b", .array [.int32 2, .string "x"])]]), ("c", .int64 9)]]

theorem sorting_arranges_mixed :
    mixedSort.sort mixedDocuments = [mixedDocuments[2], mixedDocuments[0], mixedDocuments[3],
        mixedDocuments[1]] ∧
      mixedSort.compare mixedDocuments[2] mixedDocuments[1] = .lt := by
  obtain ⟨-, -, htrans, hsort⟩ := sorting_arranges mixedSort
  obtain ⟨⟨positions, hpositions, -, hunique⟩, -⟩ := hsort mixedDocuments
  have harranges : mixedSort.Arranges mixedDocuments
      [⟨2, by decide⟩, ⟨0, by decide⟩, ⟨3, by decide⟩, ⟨1, by decide⟩] :=
    ⟨by decide +kernel, by decide +kernel, by decide +kernel⟩
  constructor
  · rw [hpositions, ← hunique _ harranges]
    rfl
  · have hbefore : mixedSort.compare mixedDocuments[2] mixedDocuments[0] = .lt := by
      decide +kernel
    have hafter : mixedSort.compare mixedDocuments[0] mixedDocuments[1] = .lt := by
      decide +kernel
    exact (htrans _ _ _ (by simp [hbefore]) (by simp [hafter])).2 (.inl hbefore)

end Docbase.SortSpec
