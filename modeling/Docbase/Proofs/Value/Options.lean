import Docbase.Value.Basic
import Mathlib.Tactic

/-!
The options of a regular expression are put in order once: options in order stay as they are.
-/
namespace Docbase.Regex

theorem mem_insertLetter (c d : Char) (cs : List Char) (h : d ∈ insertLetter c cs) :
    d = c ∨ d ∈ cs := by
  induction cs with
  | nil => simpa [insertLetter] using h
  | cons a cs ih =>
    unfold insertLetter at h
    split_ifs at h with hlt heq
    · simpa using h
    · exact .inr h
    · rcases List.mem_cons.mp h with rfl | h
      · exact .inr List.mem_cons_self
      · exact (ih h).imp_right (List.mem_cons_of_mem _)

theorem sorted_insertLetter (c : Char) (cs : List Char) (h : cs.Pairwise (· < ·)) :
    (insertLetter c cs).Pairwise (· < ·) := by
  induction cs with
  | nil => simp [insertLetter]
  | cons a cs ih =>
    obtain ⟨ha, hcs⟩ := List.pairwise_cons.mp h
    unfold insertLetter
    split_ifs with hlt heq
    · exact List.pairwise_cons.mpr ⟨fun d hd => (List.mem_cons.mp hd).elim (· ▸ hlt)
        fun hd => Char.lt_trans hlt (ha d hd), h⟩
    · exact h
    · refine List.pairwise_cons.mpr ⟨fun d hd => ?_, ih hcs⟩
      rcases mem_insertLetter c d cs hd with rfl | hd
      · exact Std.lt_of_le_of_ne (Char.not_lt.mp hlt) (Ne.symm heq)
      · exact ha d hd

theorem insertLetter_sorted (cs : List Char) (h : cs.Pairwise (· < ·)) :
    cs.foldr insertLetter [] = cs := by
  induction cs with
  | nil => rfl
  | cons c cs ih =>
    obtain ⟨hc, hcs⟩ := List.pairwise_cons.mp h
    rw [List.foldr_cons, ih hcs]
    cases cs with
    | nil => rfl
    | cons d cs => rw [insertLetter, if_pos (hc d List.mem_cons_self)]

theorem ofText_options (pattern options : String) :
    ofText (ofText pattern options).pattern (ofText pattern options).options =
      ofText pattern options := by
  have hsorted : (options.toList.foldr insertLetter []).Pairwise (· < ·) := by
    induction options.toList with
    | nil => exact .nil
    | cons c cs ih => exact sorted_insertLetter c _ ih
  unfold ofText sortOptions
  rw [String.toList_ofList, insertLetter_sorted _ hsorted]

end Docbase.Regex
