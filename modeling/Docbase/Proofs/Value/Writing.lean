import Docbase.Value.Document
import Mathlib.Tactic

/-!
What is in a document after a key is written. The key is among the keys, once, with the new
value alone, and the other entries are those from before.
-/
namespace Docbase.Document

theorem insert_new (doc : Document) (k : String) (v : Value) (hk : k ∉ doc.map Prod.fst) :
    insert doc k v = doc ++ [(k, v)] := by
  induction doc with
  | nil => rfl
  | cons f doc ih =>
    obtain ⟨l, w⟩ := f
    simp only [List.map_cons, List.mem_cons, not_or] at hk
    rw [insert, if_neg (Ne.symm hk.1), ih hk.2, List.cons_append]

theorem mem_keys_insert (doc : Document) (key name : String) (v : Value) :
    name ∈ (insert doc key v).map Prod.fst ↔ name = key ∨ name ∈ doc.map Prod.fst := by
  induction doc with
  | nil => simp [insert]
  | cons entry doc ih =>
    obtain ⟨k, w⟩ := entry
    rw [insert]
    by_cases hk : k = key
    · rw [if_pos hk]
      simp [hk]
    · rw [if_neg hk, List.map_cons, List.map_cons, List.mem_cons, ih, List.mem_cons]
      exact or_left_comm

/-- A new key comes last, and a key that is there stays where it is. -/
theorem keys_insert (doc : Document) (key : String) (v : Value) :
    (insert doc key v).map Prod.fst =
      if key ∈ doc.map Prod.fst then doc.map Prod.fst else doc.map Prod.fst ++ [key] := by
  induction doc with
  | nil => rfl
  | cons entry doc ih =>
    obtain ⟨k, w⟩ := entry
    rw [insert]
    by_cases hk : k = key
    · simp [hk]
    · rw [if_neg hk, List.map_cons, ih]
      by_cases hmem : key ∈ doc.map Prod.fst
      · have hin : key ∈ ((k, w) :: doc).map Prod.fst := List.mem_cons_of_mem k hmem
        rw [if_pos hmem, if_pos hin, List.map_cons]
      · have hnot : key ∉ ((k, w) :: doc).map Prod.fst := by
          rw [List.map_cons, List.mem_cons, not_or]
          exact ⟨Ne.symm hk, hmem⟩
        rw [if_neg hmem, if_neg hnot, List.map_cons, List.cons_append]

theorem nodup_insert {doc : Document} (hdoc : (doc.map Prod.fst).Nodup) (key : String)
    (v : Value) : ((insert doc key v).map Prod.fst).Nodup := by
  induction doc with
  | nil => simp [insert]
  | cons entry doc ih =>
    obtain ⟨k, w⟩ := entry
    rw [List.map_cons, List.nodup_cons] at hdoc
    rw [insert]
    by_cases hk : k = key
    · rw [if_pos hk]
      exact List.nodup_cons.mpr hdoc
    · rw [if_neg hk, List.map_cons, List.nodup_cons, mem_keys_insert]
      exact ⟨not_or.mpr ⟨hk, hdoc.1⟩, ih hdoc.2⟩

/-- What was under the key is gone. -/
theorem mem_insert {doc : Document} (hdoc : (doc.map Prod.fst).Nodup) {key : String} {v : Value}
    {entry : String × Value} (hentry : entry ∈ insert doc key v) :
    entry = (key, v) ∨ entry ∈ doc ∧ entry.1 ≠ key := by
  induction doc with
  | nil => exact .inl (List.mem_singleton.mp hentry)
  | cons first doc ih =>
    obtain ⟨k, w⟩ := first
    rw [List.map_cons, List.nodup_cons] at hdoc
    rw [insert] at hentry
    by_cases hk : k = key
    · rw [if_pos hk, List.mem_cons] at hentry
      rcases hentry with rfl | hentry
      · exact .inl (congrArg (·, v) hk)
      · refine .inr ⟨List.mem_cons_of_mem _ hentry, fun heq => hdoc.1 ?_⟩
        have hkey : k = entry.1 := hk.trans heq.symm
        rw [hkey]
        exact List.mem_map.mpr ⟨entry, hentry, rfl⟩
    · rw [if_neg hk, List.mem_cons] at hentry
      rcases hentry with rfl | hentry
      · exact .inr ⟨List.mem_cons_self, hk⟩
      · rcases ih hdoc.2 hentry with heq | ⟨hmem, hne⟩
        · exact .inl heq
        · exact .inr ⟨List.mem_cons_of_mem _ hmem, hne⟩

theorem contains_iff (doc : Document) (key : String) :
    contains doc key = true ↔ key ∈ doc.map Prod.fst := by
  induction doc with
  | nil => simp [contains, get?]
  | cons entry doc ih =>
    obtain ⟨k, w⟩ := entry
    rw [contains] at ih ⊢
    rw [get?, List.map_cons, List.mem_cons]
    by_cases hk : k = key
    · simp [hk]
    · rw [if_neg hk, ih]
      exact ⟨.inr, fun h => h.resolve_left (Ne.symm hk)⟩

end Docbase.Document
