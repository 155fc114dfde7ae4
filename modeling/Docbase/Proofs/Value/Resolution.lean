import Docbase.Proofs.Value.Path

/-!
Paths segment by segment. A segment is one step from a value, and a path reaches what its steps
reach when each is taken from all that the steps before it have reached. In an array a segment of
digits is a position; digits that write 2 ^ 64 or more are none, and pass through the array as any
other name does.
-/
namespace Docbase.Path

/-! Segments of digits. -/

/-- The segment has digits and nothing else. -/
def IsNumber (segment : String) : Prop := segment ≠ "" ∧ ∀ c ∈ segment.toList, c.isDigit = true

/-- The number that the digits write. -/
def number (segment : String) : ℕ := Nat.ofDigitChars 10 segment.toList 0

theorem isNumber_iff (segment : String) :
    (segment.toList.isEmpty || !segment.toList.all Char.isDigit) = false ↔ IsNumber segment := by
  rw [Bool.or_eq_false_iff, Bool.not_eq_false', List.all_eq_true, IsNumber]
  refine and_congr_left' ?_
  simp

instance (segment : String) : Decidable (IsNumber segment) :=
  decidable_of_iff _ (isNumber_iff segment)

theorem index?_of_isNumber (segment : String) (h : IsNumber segment) :
    index? segment = if number segment < 2 ^ 64 then some (number segment) else none := by
  rw [index?]
  exact if_neg (by rw [(isNumber_iff segment).mpr h]; exact Bool.false_ne_true)

theorem index?_of_not_isNumber (segment : String) (h : ¬IsNumber segment) :
    index? segment = none := by
  refine index?_eq_none segment (or_iff_not_imp_left.mpr fun hne => ?_)
  by_contra hall
  push Not at hall
  exact h ⟨hne, fun c hc => by simpa using hall c hc⟩

/-! One step. -/

/-- What a segment names in a document, or in a reference. -/
def named (segment : String) : Value → List Value
  | .document fields => (Document.get? fields segment).toList
  | .reference _ _ id => if segment = "$id" then [id] else []
  | _ => []

/-- The values one segment further. -/
def step (segment : String) : Value → List Value
  | .array items =>
    if IsNumber segment ∧ number segment < 2 ^ 64 then items[number segment]?.toList
    else items.flatMap (named segment)
  | v => named segment v

theorem resolve_nil (v : Value) : resolve v [] = [v] := by
  rw [resolve]

theorem passed_cons (segment : String) (rest : List String) (v : Value) :
    passed (segment :: rest) v = (named segment v).flatMap fun w => resolve w rest := by
  cases v with
  | document fields => exact resolveField_eq segment rest fields
  | reference database collection id =>
    rw [passed, resolve, named]
    split
    · rw [List.flatMap_singleton]
    · rfl
  | _ => rfl

theorem resolveAt_eq (rest : List String) (i : ℕ) (items : List Value) :
    resolveAt rest i items = items[i]?.toList.flatMap fun v => resolve v rest := by
  induction items generalizing i with
  | nil => rfl
  | cons v more ih =>
    cases i with
    | zero => rw [resolveAt, List.getElem?_cons_zero, Option.toList_some, List.flatMap_singleton]
    | succ i => exact ih i

/-- An array is left through one element, or through all that are documents or references. -/
theorem resolve_array (segment : String) (rest : List String) (items : List Value) :
    resolve (.array items) (segment :: rest) =
      if IsNumber segment ∧ number segment < 2 ^ 64 then
        items[number segment]?.toList.flatMap fun v => resolve v rest
      else items.flatMap (passed (segment :: rest)) := by
  rw [resolve, ← resolveAt_eq, ← resolveEach_eq]
  by_cases hnumber : IsNumber segment
  · rw [index?_of_isNumber segment hnumber]
    by_cases hfits : number segment < 2 ^ 64
    · rw [if_pos hfits, if_pos ⟨hnumber, hfits⟩]
    · rw [if_neg hfits, if_neg fun h => hfits h.2]
  · rw [index?_of_not_isNumber segment hnumber, if_neg fun h => hnumber h.1]

/-- The first segment is one step, and the others start from where it leads. -/
theorem resolve_cons (v : Value) (segment : String) (rest : List String) :
    resolve v (segment :: rest) = (step segment v).flatMap fun w => resolve w rest := by
  cases v with
  | array items =>
    rw [resolve_array, step]
    split
    · rfl
    · rw [List.flatMap_assoc, funext (passed_cons segment rest)]
  | document fields => exact passed_cons segment rest (.document fields)
  | reference database collection id =>
    exact passed_cons segment rest (.reference database collection id)
  | _ => rfl

/-! All steps. -/

/-- The steps one after the other, each from all values that there are by then. -/
def follow (segments : List String) (values : List Value) : List Value :=
  segments.foldl (fun reached segment => reached.flatMap (step segment)) values

theorem follow_eq (segments : List String) (values : List Value) :
    follow segments values = values.flatMap fun v => resolve v segments := by
  induction segments generalizing values with
  | nil =>
    rw [funext resolve_nil, List.flatMap_singleton']
    rfl
  | cons segment rest ih =>
    calc follow (segment :: rest) values
        = follow rest (values.flatMap (step segment)) := rfl
      _ = (values.flatMap (step segment)).flatMap fun v => resolve v rest := ih _
      _ = values.flatMap fun v => resolve v (segment :: rest) := by
        rw [List.flatMap_assoc]
        exact List.flatMap_congr fun v _ => (resolve_cons v segment rest).symm

theorem follow_append (segments more : List String) (values : List Value) :
    follow (segments ++ more) values = follow more (follow segments values) :=
  List.foldl_append

theorem resolveIn_eq_follow (head : String) (rest : List String) (d : Document) :
    resolveIn ⟨head :: rest⟩ d = follow (head :: rest) [.document d] := by
  rw [follow_eq, List.flatMap_singleton]
  rfl

/-- What a path reaches is found step by step, from a document or from any other value; every text
is a path of at least one segment, and a path of two parts reaches what the second part reaches
from each value that the first part reaches. -/
theorem resolution_iterates_steps :
    (∀ v segments, resolve v segments = follow segments [v]) ∧
      (∀ head rest d, resolveIn ⟨head :: rest⟩ d = follow (head :: rest) [.document d]) ∧
      (∀ text, ∃ head rest, ofText text = ⟨head :: rest⟩) ∧
      ∀ p q d, resolveIn (ofText (p ++ "." ++ q)) d =
        (resolveIn (ofText p) d).flatMap fun v => resolve v (ofText q).segments := by
  refine ⟨fun v segments => ?_, resolveIn_eq_follow, exists_segments, fun p q d => ?_⟩
  · rw [follow_eq, List.flatMap_singleton]
  · have hin (text : String) : resolveIn (ofText text) d =
        follow (ofText text).segments [.document d] := by
      obtain ⟨head, rest, htext⟩ := exists_segments text
      rw [htext, resolveIn_eq_follow]
    rw [hin, segments_append, follow_append, ← hin, follow_eq]

/-! Positions. -/

/-- In an array a segment of digits leads to the element at that position, or to nothing behind the
end, as long as it writes a number below 2 ^ 64; no element is asked for a field of that name. A
segment that writes more leads to what it names in the elements. -/
theorem numbers_index_arrays (items : List Value) (segment : String) (h : IsNumber segment)
    (rest : List String) :
    (number segment < 2 ^ 64 →
      resolve (.array items) (segment :: rest) =
        match items[number segment]? with
        | some v => resolve v rest
        | none => []) ∧
      (2 ^ 64 ≤ number segment →
        resolve (.array items) (segment :: rest) =
          items.flatMap fun v => (named segment v).flatMap fun w => resolve w rest) := by
  constructor
  · intro hfits
    rw [resolve_array, if_pos ⟨h, hfits⟩]
    cases items[number segment]? with
    | none => rfl
    | some v => exact List.flatMap_singleton _ v
  · intro hbeyond
    rw [resolve_array, if_neg fun hnumber => hbeyond.not_gt hnumber.2,
      funext (passed_cons segment rest)]

/-- Zeros in front, however many, and elements with a field of the same name. -/
theorem numbers_index_arrays_zeros :
    resolve (.array [.document [("0000000000000000000001", .int32 1)],
      .document [("0000000000000000000001", .int32 2), ("b", .int32 3)]])
        ["0000000000000000000001", "b"] = [.int32 3] := by
  have hnumber : number "0000000000000000000001" = 1 := by decide +kernel
  rw [(numbers_index_arrays _ _ (by decide +kernel) _).1 (by rw [hnumber]; decide), hnumber]
  rfl

/-- The array has no element at the position, and what is reached is a field of that name. -/
theorem numbers_index_arrays_fails_beyond :
    IsNumber "18446744073709551616" ∧
      ([.document [("18446744073709551616", .int32 1)]] : List Value)[number
        "18446744073709551616"]? = none ∧
      resolve (.array [.document [("18446744073709551616", .int32 1)]])
        ["18446744073709551616"] = [.int32 1] := by
  have hdigits : IsNumber "18446744073709551616" := by decide +kernel
  have hnumber : number "18446744073709551616" = 2 ^ 64 := by decide +kernel
  refine ⟨hdigits, ?_, ?_⟩
  · rw [hnumber]
    exact List.getElem?_eq_none (by decide)
  · rw [resolve_array, if_neg fun h => h.2.ne hnumber]
    rfl

end Docbase.Path
