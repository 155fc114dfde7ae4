import Docbase.Proofs.Refusal
import Docbase.Query.Compile
import Mathlib.Tactic

/-!
A query is compiled entry by entry, and an array of queries member by member. The compilation
of a list succeeds when it does for each part alone, and what it gives is what the parts give.
-/
namespace Docbase

/-- Two computations of lists in a row succeed when both do, with one list after the other. -/
theorem append_eq_ok_iff {ε α : Type} (x y : Except ε (List α)) (as : List α) :
    (do return (← x) ++ (← y)) = .ok as ↔
      ∃ here more, x = .ok here ∧ y = .ok more ∧ as = here ++ more := by
  simp only [bind_eq_ok_iff, pure_eq_ok_iff]
  constructor
  · rintro ⟨here, hhere, more, hmore, rfl⟩
    exact ⟨here, more, hhere, hmore, rfl⟩
  · rintro ⟨here, more, hhere, hmore, rfl⟩
    exact ⟨here, hhere, more, hmore, rfl⟩

/-- How a computation works on a list entry by entry. -/
structure ByEntry {ε α β : Type} (f : List α → Except ε (List β)) : Prop where
  nil : f [] = .ok []
  cons : ∀ a rest, f (a :: rest) = do return (← f [a]) ++ (← f rest)

namespace ByEntry

variable {ε α β : Type} {f : List α → Except ε (List β)}

theorem append (h : ByEntry f) (as bs : List α) :
    f (as ++ bs) = do return (← f as) ++ (← f bs) := by
  induction as with
  | nil =>
    rw [h.nil, List.nil_append]
    cases f bs <;> rfl
  | cons a rest ih =>
    rw [List.cons_append, h.cons, ih, h.cons a rest]
    cases f [a] with
    | error e => rfl
    | ok here =>
      cases f rest with
      | error e => rfl
      | ok more =>
        cases f bs with
        | error e => rfl
        | ok others => exact congrArg Except.ok (List.append_assoc here more others).symm

/-- What the entries give comes in their order. -/
theorem eq_mapM (h : ByEntry f) (as : List α) :
    f as = List.flatten <$> as.mapM fun a => f [a] := by
  induction as with
  | nil => exact h.nil
  | cons a rest ih =>
    rw [h.cons, ih, List.mapM_cons]
    cases f [a] with
    | error e => rfl
    | ok here => cases rest.mapM fun a => f [a] <;> rfl

theorem succeeds_iff (h : ByEntry f) (as : List α) :
    (∃ bs, f as = .ok bs) ↔ ∀ a ∈ as, ∃ bs, f [a] = .ok bs := by
  rw [h.eq_mapM, map_succeeds_iff, mapM_succeeds_iff]

theorem exists_of_mem (h : ByEntry f) (as : List α) (bs : List β) (hbs : f as = .ok bs) (b : β)
    (hb : b ∈ bs) : ∃ a ∈ as, ∃ here, f [a] = .ok here ∧ b ∈ here := by
  induction as generalizing bs with
  | nil =>
    rw [h.nil] at hbs
    cases hbs
    simp at hb
  | cons a rest ih =>
    rw [h.cons, append_eq_ok_iff] at hbs
    obtain ⟨here, more, hhere, hmore, rfl⟩ := hbs
    rcases List.mem_append.mp hb with hb | hb
    · exact ⟨a, List.mem_cons_self, here, hhere, hb⟩
    · obtain ⟨a', ha', found⟩ := ih more hmore hb
      exact ⟨a', List.mem_cons_of_mem _ ha', found⟩

end ByEntry

theorem FieldTest.compileAll_byEntry : ByEntry FieldTest.compileAll where
  nil := rfl
  cons := by
    rintro ⟨key, value⟩ rest
    rw [compileAll, compileAll]
    cases TestKey.ofText key
    case size =>
      cases sizeOf? value <;> simp only [compileAll, pure_bind, bind_assoc, List.append_nil]
    all_goals simp only [compileAll, pure_bind, bind_assoc, List.append_nil]

theorem Filter.compileFields_byEntry (scripts : Bool) :
    ByEntry (Filter.compileFields scripts) where
  nil := rfl
  cons := by
    rintro ⟨key, value⟩ rest
    rw [compileFields.eq_def scripts (_ :: _), compileFields.eq_def scripts [_]]
    dsimp only
    cases QueryKey.ofText key
    case script =>
      cases scripts with
      | false => rfl
      | true =>
        cases value <;>
          simp only [if_true, compileFields, pure_bind, bind_assoc, List.append_nil]
    case unknown => rfl
    all_goals simp only [compileFields, pure_bind, bind_assoc, List.append_nil]

theorem Filter.compileItems_byEntry (scripts : Bool) (key : String) :
    ByEntry (Filter.compileItems scripts key) where
  nil := rfl
  cons := by
    rintro value rest
    cases value
    case document fields =>
      simp only [compileItems, pure_bind, bind_assoc, List.singleton_append]
    all_goals rfl

end Docbase
