import Docbase.Proofs.Value.Key
import Docbase.Proofs.Value.Path

/-!
What the order does not tell apart. Values with one inner key, which are those that the order
calls equal, stay so along paths, and no comparison with a third value tells them apart.
-/
namespace Docbase

namespace Key

theorem innerItems_eq_map (vs : List Value) : innerItems vs = vs.map inner := by
  induction vs with
  | nil => rfl
  | cons v rest ih => rw [innerItems, ih, List.map_cons]

variable (a b : Value) (h : inner a = inner b)

include h

theorem typeClass_eq_of_inner : a.typeClass = b.typeClass := by
  rw [← typeClass_inner, ← typeClass_inner, h]

/-- Two values with one inner key are numbers, or have the same constructor. -/
theorem numeric_or_alike_of_inner :
    a.typeClass = .numeric ∧ b.typeClass = .numeric ∨ Value.Alike a b := by
  have hclass := typeClass_eq_of_inner a b h
  by_cases hn : a.typeClass = .numeric
  · exact .inl ⟨hn, hclass ▸ hn⟩
  · exact .inr (Value.alike_of_typeClass_eq a b hclass hn)

theorem compare_left_congr (c : Value) : Value.compare a c = Value.compare b c := by
  have hab : Value.compare a b = .eq := (inner_eq_iff a b).mp h
  have hba : Value.compare b a = .eq := by rw [Value.compare_swap a b, hab]; rfl
  by_cases hbc : Value.compare b c = .gt
  · have hcb : Value.compare c b = .lt := by rw [Value.compare_swap b c, hbc]; rfl
    have hca := Value.chains c b a (by simp [hcb]) (by simp [hba])
    rw [hbc, Value.compare_swap c a, hca, hcb]
    rfl
  · have hac := Value.chains a b c (by simp [hab]) hbc
    rw [hac, hab]
    rfl

theorem compare_right_congr (c : Value) : Value.compare c a = Value.compare c b := by
  rw [Value.compare_swap a c, Value.compare_swap b c, compare_left_congr a b h c]

theorem ofValue_eq_of_inner : ofValue a = ofValue b := by
  rcases numeric_or_alike_of_inner a b h with ⟨ha, hb⟩ | hab
  · cases a <;> cases b <;> first | exact h | simp [Value.typeClass] at ha hb
  · cases hab with
    | objectId i j => rw [inner, inner, Key.objectId.injEq] at h; rw [h]
    | _ => exact h

theorem equal_left_congr (c : Value) : Value.equal a c = Value.equal b c := by
  rw [Bool.eq_iff_iff, ← Value.ofValue_eq_iff, ← Value.ofValue_eq_iff, ofValue_eq_of_inner a b h]

end Key

open Key

/-- The expansions by a function that respects the order stay equal in it. -/
theorem map_inner_flatMap (f : Value → List Value) (xs ys : List Value)
    (hf : ∀ a ∈ xs, ∀ b, inner a = inner b → (f a).map inner = (f b).map inner)
    (h : xs.map inner = ys.map inner) :
    (xs.flatMap f).map inner = (ys.flatMap f).map inner := by
  induction xs generalizing ys with
  | nil => rw [List.map_eq_nil_iff.mp h.symm]
  | cons x xs ih =>
    cases ys with
    | nil => simp at h
    | cons y ys =>
      obtain ⟨hhead, htail⟩ := List.cons.inj h
      have hrest := ih ys (fun a ha => hf a (List.mem_cons_of_mem _ ha)) htail
      rw [List.flatMap_cons, List.flatMap_cons, List.map_append, List.map_append,
        hf x List.mem_cons_self y hhead, hrest]

theorem any_congr_of_inner (p : Value → Bool) (hp : ∀ a b, inner a = inner b → p a = p b)
    (xs ys : List Value) (h : xs.map inner = ys.map inner) : xs.any p = ys.any p := by
  induction xs generalizing ys with
  | nil => rw [List.map_eq_nil_iff.mp h.symm]
  | cons x xs ih =>
    cases ys with
    | nil => simp at h
    | cons y ys =>
      obtain ⟨hhead, htail⟩ := List.cons.inj h
      rw [List.any_cons, List.any_cons, hp x y hhead, ih ys htail]

namespace Path

/-- Paths lead from the value, and from any with its inner key, to values with the same ones. -/
def Respects (a : Value) : Prop :=
  ∀ b, inner a = inner b →
    ∀ segments, (resolve a segments).map inner = (resolve b segments).map inner

theorem resolveField_respects (key : String) (segments : List String)
    (xs ys : List (String × Value)) (hxs : ∀ entry ∈ xs, Respects entry.2)
    (h : innerFields xs = innerFields ys) :
    (resolveField key segments xs).map inner = (resolveField key segments ys).map inner := by
  induction xs generalizing ys with
  | nil =>
    cases ys with
    | nil => rfl
    | cons y ys => simp [innerFields] at h
  | cons x xs ih =>
    cases ys with
    | nil => simp [innerFields] at h
    | cons y ys =>
      obtain ⟨k, v⟩ := x
      obtain ⟨l, w⟩ := y
      simp only [innerFields, List.cons.injEq, Prod.mk.injEq] at h
      obtain ⟨⟨rfl, hvalue⟩, hrest⟩ := h
      rw [resolveField, resolveField]
      split
      · exact hxs _ List.mem_cons_self w hvalue segments
      · exact ih ys (fun entry hentry => hxs entry (List.mem_cons_of_mem _ hentry)) hrest

theorem resolveAt_respects (segments : List String) (i : ℕ) (xs ys : List Value)
    (hxs : ∀ v ∈ xs, Respects v) (h : xs.map inner = ys.map inner) :
    (resolveAt segments i xs).map inner = (resolveAt segments i ys).map inner := by
  induction xs generalizing ys i with
  | nil => rw [List.map_eq_nil_iff.mp h.symm]
  | cons x xs ih =>
    cases ys with
    | nil => simp at h
    | cons y ys =>
      obtain ⟨hhead, htail⟩ := List.cons.inj h
      cases i with
      | zero => exact hxs x List.mem_cons_self y hhead segments
      | succ i => exact ih i ys (fun v hv => hxs v (List.mem_cons_of_mem _ hv)) htail

theorem passed_respects (segments : List String) (a : Value) (ha : Respects a) (b : Value)
    (h : inner a = inner b) : (passed segments a).map inner = (passed segments b).map inner := by
  rcases numeric_or_alike_of_inner a b h with ⟨hna, hnb⟩ | hab
  · cases a <;> cases b <;> first | rfl | simp [Value.typeClass] at hna hnb
  · cases hab with
    | document | reference => exact ha _ h segments
    | _ => rfl

theorem respects (a : Value) : Respects a := by
  induction a using Value.nested_induction with
  | scalar a ha =>
    intro b h segments
    cases segments with
    | nil => simpa [resolve] using h
    | cons head rest =>
      rcases numeric_or_alike_of_inner a b h with ⟨hna, hnb⟩ | hab
      · cases a <;> cases b <;> first | rfl | simp [Value.typeClass] at hna hnb
      · cases hab with
        | document | array | reference => cases ha
        | _ => rfl
  | document xs ih =>
    intro b h segments
    cases segments with
    | nil => simpa [resolve] using h
    | cons head rest =>
      rcases numeric_or_alike_of_inner _ b h with ⟨hna, -⟩ | hab
      · cases hna
      · cases hab with
        | document _ ys => exact resolveField_respects head rest xs ys ih (Key.document.inj h)
  | array xs ih =>
    intro b h segments
    cases segments with
    | nil => simpa [resolve] using h
    | cons head rest =>
      rcases numeric_or_alike_of_inner _ b h with ⟨hna, -⟩ | hab
      · cases hna
      · cases hab with
        | array _ ys =>
          have hitems : xs.map inner = ys.map inner := by
            simpa only [Key.inner, Key.array.injEq, innerItems_eq_map] using h
          rw [resolve, resolve]
          cases index? head with
          | some i => exact resolveAt_respects rest i xs ys ih hitems
          | none =>
            dsimp only
            rw [resolveEach_eq, resolveEach_eq]
            exact map_inner_flatMap _ xs ys
              (fun v hv => passed_respects (head :: rest) v (ih v hv)) hitems
  | reference d s x ih =>
    intro b h segments
    cases segments with
    | nil => simpa [resolve] using h
    | cons head rest =>
      rcases numeric_or_alike_of_inner _ b h with ⟨hna, -⟩ | hab
      · cases hna
      · cases hab with
        | reference _ e _ t _ y =>
          rw [resolve, resolve]
          split
          · exact ih y (Key.reference.inj h).2.2 rest
          · rfl

/-- From documents that are equal in the order a path reaches values that are. -/
theorem resolveIn_respects (p : Path) (d e : Document) (h : innerFields d = innerFields e) :
    (p.resolveIn d).map inner = (p.resolveIn e).map inner := by
  unfold resolveIn
  split
  · rfl
  · exact resolveField_respects _ _ d e (fun entry _ => respects entry.2) h

end Path

end Docbase
