import Docbase.Value.Path
import Mathlib.Tactic

/-!
Paths by their segments. The text of a path is cut at its dots, so a name without one comes off
the front; a field leads to the one value that it has, and a segment that is not an index passes
through an array to the documents and references in it.
-/
namespace Docbase.Path

/-! Texts of paths. -/

theorem splitDots_of_not_mem (cs : List Char) (h : '.' ∉ cs) : splitDots cs = [cs] := by
  induction cs with
  | nil => rfl
  | cons c rest ih =>
    obtain ⟨hc, hrest⟩ := not_or.mp (mt List.mem_cons.mpr h)
    rw [splitDots, if_neg (Ne.symm hc), ih hrest]

theorem splitDots_ne_nil (cs : List Char) : splitDots cs ≠ [] := by
  cases cs with
  | nil => exact List.cons_ne_nil _ _
  | cons c rest =>
    rw [splitDots]
    split
    · exact List.cons_ne_nil _ _
    · split <;> exact List.cons_ne_nil _ _

/-- Every dot parts the text, whatever stands before it. -/
theorem splitDots_append (cs ds : List Char) :
    splitDots (cs ++ '.' :: ds) = splitDots cs ++ splitDots ds := by
  induction cs with
  | nil => rfl
  | cons c rest ih =>
    rw [List.cons_append, splitDots, splitDots]
    split
    · rw [ih, List.cons_append]
    · obtain ⟨part, parts, hsplit⟩ := List.exists_cons_of_ne_nil (splitDots_ne_nil rest)
      rw [ih, hsplit]
      rfl

/-- The first part has the first character, unless that is a dot. -/
theorem head?_of_splitDots (cs part : List Char) (parts : List (List Char))
    (h : splitDots cs = part :: parts) : part.head? = cs.head?.filter (· ≠ '.') := by
  cases cs with
  | nil =>
    cases h
    rfl
  | cons c rest =>
    rw [splitDots] at h
    by_cases hc : c = '.'
    · rw [if_pos hc] at h
      cases h
      simp [Option.filter, hc]
    · rw [if_neg hc] at h
      split at h
      · cases h
        simp [Option.filter, hc]
      · cases h
        simp [Option.filter, hc]

theorem ofText_of_not_mem (f : String) (h : '.' ∉ f.toList) : ofText f = ⟨[f]⟩ := by
  rw [ofText, splitDots_of_not_mem _ h]
  simp

theorem exists_segments (text : String) : ∃ head rest, ofText text = ⟨head :: rest⟩ := by
  obtain ⟨part, parts, hsplit⟩ := List.exists_cons_of_ne_nil (splitDots_ne_nil text.toList)
  exact ⟨String.ofList part, parts.map String.ofList, by rw [ofText, hsplit, List.map_cons]⟩

theorem segments_append (f g : String) :
    (ofText (f ++ "." ++ g)).segments = (ofText f).segments ++ (ofText g).segments := by
  have hchars : (f ++ "." ++ g).toList = f.toList ++ '.' :: g.toList := by simp
  rw [ofText, hchars, splitDots_append, List.map_append]
  rfl

theorem ofText_append (f g : String) (h : '.' ∉ f.toList) :
    ofText (f ++ "." ++ g) = ⟨f :: (ofText g).segments⟩ := by
  have hsegments := segments_append f g
  rw [ofText_of_not_mem f h] at hsegments
  exact congrArg Path.mk hsegments

/-! Values at the end of a path. -/

theorem resolveField_eq (key : String) (rest : List String) (d : Document) :
    resolveField key rest d = (Document.get? d key).toList.flatMap fun v => resolve v rest := by
  induction d with
  | nil => rfl
  | cons entry more ih =>
    rw [resolveField, Document.get?]
    split
    · simp
    · exact ih

theorem resolveIn_field (key : String) (d : Document) :
    resolveIn ⟨[key]⟩ d = (Document.get? d key).toList := by
  have hself : ∀ v, resolve v [] = [v] := fun v => by rw [resolve]
  rw [resolveIn]
  dsimp only
  rw [resolveField_eq, funext hself, List.flatMap_singleton']

/-- What a path that passes through an array reaches from one of its elements. -/
def passed (segments : List String) (v : Value) : List Value :=
  match v with
  | .document _ | .reference .. => resolve v segments
  | _ => []

theorem resolveEach_eq (head : String) (rest : List String) (items : List Value) :
    resolveEach head rest items = items.flatMap (passed (head :: rest)) := by
  induction items with
  | nil => rfl
  | cons v more ih =>
    rw [List.flatMap_cons, ← ih]
    cases v <;> rfl

/-- Only digits, and at least one, are an index. -/
theorem index?_eq_none (segment : String)
    (h : segment = "" ∨ ∃ c ∈ segment.toList, c.isDigit = false) : index? segment = none := by
  have hcheck : (segment.toList.isEmpty || !segment.toList.all Char.isDigit) = true := by
    rcases h with rfl | ⟨c, hc, hdigit⟩
    · rfl
    · rw [Bool.or_eq_true, Bool.not_eq_true', List.all_eq_false]
      exact .inr ⟨c, hc, by simp [hdigit]⟩
  rw [index?]
  exact if_pos hcheck

end Docbase.Path
