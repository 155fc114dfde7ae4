import Docbase.Proofs.Query.Evaluation
import Docbase.Proofs.Query.Part
import Docbase.Proofs.Value.Congruence
import Docbase.Query.Sort

/-!
Documents that are equal in the order match the same filters and sort alike, whatever the
width of their numbers. Scripts and tests for a remainder are left out, which look at the
numbers themselves.
-/
namespace Docbase

open Key

/-! The values that a test is put to. -/

/-- The elements of an array, and none of any other value. -/
def Value.itemsOf : Value → List Value
  | .array items => items
  | _ => []

theorem candidates_eq (resolved : List Value) :
    candidates resolved =
      if resolved.isEmpty then [.null] else resolved.flatMap fun v => v :: v.itemsOf := rfl

theorem itemsOf_respects (a b : Value) (h : inner a = inner b) :
    a.itemsOf.map inner = b.itemsOf.map inner := by
  rcases numeric_or_alike_of_inner a b h with ⟨ha, hb⟩ | hab
  · cases a <;> cases b <;> first | rfl | simp [Value.typeClass] at ha hb
  · cases hab with
    | array xs ys =>
      have hitems := Key.array.inj h
      rwa [innerItems_eq_map, innerItems_eq_map] at hitems
    | _ => rfl

theorem elements_respects (xs ys : List Value) (h : xs.map inner = ys.map inner) :
    (elements xs).map inner = (elements ys).map inner :=
  map_inner_flatMap _ xs ys (fun a _ b hab => itemsOf_respects a b hab) h

theorem isEmpty_respects (xs ys : List Value) (h : xs.map inner = ys.map inner) :
    xs.isEmpty = ys.isEmpty := by
  rw [← List.isEmpty_map (f := inner), h, List.isEmpty_map]

theorem candidates_respects (xs ys : List Value) (h : xs.map inner = ys.map inner) :
    (candidates xs).map inner = (candidates ys).map inner := by
  rw [candidates_eq, candidates_eq, isEmpty_respects xs ys h]
  split
  · rfl
  · refine map_inner_flatMap _ xs ys (fun a _ b hab => ?_) h
    rw [List.map_cons, List.map_cons, hab, itemsOf_respects a b hab]

theorem any_candidates_respects (p : Value → Bool) (hp : ∀ a b, inner a = inner b → p a = p b)
    (xs ys : List Value) (h : xs.map inner = ys.map inner) :
    (candidates xs).any p = (candidates ys).any p :=
  any_congr_of_inner p hp _ _ (candidates_respects xs ys h)

/-! What is asked of one value. -/

section

variable (a b : Value) (h : inner a = inner b)

include h

theorem Relation.holds_respects (relation : Relation) (operand : Value) :
    relation.holds operand a = relation.holds operand b := by
  rw [holds, holds, typeClass_eq_of_inner a b h, compare_left_congr a b h]

theorem CompiledRegex.accepts_respects (r : CompiledRegex) : r.accepts a = r.accepts b := by
  rcases numeric_or_alike_of_inner a b h with ⟨ha, hb⟩ | hab
  · cases a <;> cases b <;> first | rfl | simp [Value.typeClass] at ha hb
  · cases hab with
    | string s t => rw [Key.string.inj h]
    | regex s t => rw [Key.regex.inj h]
    | _ => rfl

theorem Operand.accepts_respects (operand : Operand) : operand.accepts a = operand.accepts b := by
  cases operand with
  | value w => exact equal_left_congr a b h w
  | regex r => exact CompiledRegex.accepts_respects a b h r

theorem any_accepts_respects (operands : List Operand) :
    (operands.any fun operand => operand.accepts a) =
      operands.any fun operand => operand.accepts b := by
  congr 1
  funext operand
  exact operand.accepts_respects a b h

theorem Value.hasSize_respects (n : ℕ) : Value.hasSize n a = Value.hasSize n b := by
  have hlength : a.itemsOf.length = b.itemsOf.length := by
    rw [← List.length_map (f := inner), itemsOf_respects a b h, List.length_map]
  rcases numeric_or_alike_of_inner a b h with ⟨ha, hb⟩ | hab
  · cases a <;> cases b <;> first | rfl | simp [Value.typeClass] at ha hb
  · cases hab with
    | array xs ys => rw [hasSize, hasSize]; exact congrArg (· == n) hlength
    | _ => rfl

end

/-! Matching. -/

theorem anyHolds_congr {ε α : Type} (f g : α → Except ε Bool) (as : List α)
    (h : ∀ a ∈ as, f a = g a) : anyHolds f as = anyHolds g as := by
  induction as with
  | nil => rfl
  | cons a rest ih =>
    rw [anyHolds, anyHolds, h a List.mem_cons_self,
      ih fun a ha => h a (List.mem_cons_of_mem _ ha)]

theorem anyHolds_respects {ε : Type} (f : Value → Except ε Bool)
    (hf : ∀ a b, inner a = inner b → f a = f b) (xs ys : List Value)
    (h : xs.map inner = ys.map inner) : anyHolds f xs = anyHolds f ys := by
  induction xs generalizing ys with
  | nil => rw [List.map_eq_nil_iff.mp h.symm]
  | cons x xs ih =>
    cases ys with
    | nil => simp at h
    | cons y ys =>
      obtain ⟨hhead, htail⟩ := List.cons.inj h
      rw [anyHolds, anyHolds, hf x y hhead, ih ys htail]

namespace Node

/-- The node gives one answer for what the order does not tell apart. -/
def Respects : Node → Prop
  | .filter f => ∀ d e, innerFields d = innerFields e → f.matches d = f.matches e
  | .test t => ∀ xs ys, xs.map inner = ys.map inner → t.holds xs = t.holds ys

theorem respects (n : Node) (h : ∀ m, Below m n → ¬ m.IsScript ∧ ¬ m.IsModulo) : n.Respects := by
  induction n using inside_induction with
  | step n ih =>
    have inside (m : Node) (hm : Inside m n) : m.Respects :=
      ih m hm (((forall_below_iff n).mp h).2 m hm)
    obtain ⟨hscript, hmodulo⟩ := h n .refl
    cases n with
    | filter f =>
      intro d e hde
      cases f with
      | and fs =>
        rw [Filter.matches_and, Filter.matches_and]
        exact congrArg _ (anyHolds_congr _ _ fs fun f hf =>
          congrArg _ (inside _ (.and hf) d e hde))
      | or fs =>
        rw [Filter.matches_or, Filter.matches_or]
        exact anyHolds_congr _ _ fs fun f hf => inside _ (.or hf) d e hde
      | nor fs =>
        rw [Filter.matches_nor, Filter.matches_nor]
        exact congrArg _ (anyHolds_congr _ _ fs fun f hf => inside _ (.nor hf) d e hde)
      | field path t => exact inside _ .field _ _ (path.resolveIn_respects d e hde)
      | script source => exact absurd trivial hscript
    | test t =>
      intro xs ys hxy
      cases t with
      | equal v =>
        exact congrArg pure
          (any_candidates_respects _ (fun a b hab => equal_left_congr a b hab v) xs ys hxy)
      | notEqual v =>
        exact congrArg (pure !·)
          (any_candidates_respects _ (fun a b hab => equal_left_congr a b hab v) xs ys hxy)
      | related relation v =>
        exact congrArg pure (any_candidates_respects _
          (fun a b hab => relation.holds_respects a b hab v) xs ys hxy)
      | isIn operands =>
        exact congrArg pure (any_candidates_respects _
          (fun a b hab => any_accepts_respects a b hab operands) xs ys hxy)
      | notIn operands =>
        exact congrArg (pure !·) (any_candidates_respects _
          (fun a b hab => any_accepts_respects a b hab operands) xs ys hxy)
      | all operands =>
        have haccepts (operand : Operand) :
            (candidates xs).any operand.accepts = (candidates ys).any operand.accepts :=
          any_candidates_respects _ (fun a b hab => operand.accepts_respects a b hab) xs ys hxy
        rw [FieldTest.holds, FieldTest.holds, funext haccepts]
      | present wanted => exact congrArg (pure <| · != wanted) (isEmpty_respects xs ys hxy)
      | modulo divisor remainder => exact absurd trivial hmodulo
      | size n =>
        exact congrArg pure
          (any_congr_of_inner _ (fun a b hab => Value.hasSize_respects a b hab n) xs ys hxy)
      | regex r =>
        exact congrArg pure
          (any_candidates_respects _ (fun a b hab => r.accepts_respects a b hab) xs ys hxy)
      | element t =>
        rw [FieldTest.holds_element, FieldTest.holds_element]
        refine anyHolds_respects _ (fun a b hab => ?_) _ _ (elements_respects xs ys hxy)
        exact inside _ .element [a] [b] (by simp [hab])
      | elementQuery f =>
        rw [FieldTest.holds_elementQuery, FieldTest.holds_elementQuery]
        refine anyHolds_respects _ (fun a b hab => ?_) _ _ (elements_respects xs ys hxy)
        rcases numeric_or_alike_of_inner a b hab with ⟨ha, hb⟩ | halike
        · cases a <;> cases b <;> first | rfl | simp [Value.typeClass] at ha hb
        · cases halike with
          | document d e => exact inside _ .elementQuery d e (Key.document.inj hab)
          | _ => rfl
      | not t => exact congrArg (Bool.not <$> ·) (inside _ .not xs ys hxy)
      | and ts =>
        rw [FieldTest.holds_and, FieldTest.holds_and]
        exact congrArg _ (anyHolds_congr _ _ ts fun t ht =>
          congrArg _ (inside _ (.tests ht) xs ys hxy))

end Node

/-! Sorting. -/

namespace SortKey

theorem offered_eq (k : SortKey) (d : Document) :
    k.offered d = (k.field.resolveIn d).flatMap fun v =>
      if v.itemsOf.isEmpty then [v] else v.itemsOf := by
  rw [offered]
  congr 1
  funext v
  split
  · rfl
  · next hno =>
    cases v with
    | array items =>
      cases items with
      | nil => rfl
      | cons x xs => exact absurd rfl (hno x xs)
    | _ => rfl

variable (d e : Document) (h : innerFields d = innerFields e)

include h

theorem offered_respects (k : SortKey) : (k.offered d).map inner = (k.offered e).map inner := by
  rw [offered_eq, offered_eq]
  refine map_inner_flatMap _ _ _ (fun a _ b hab => ?_) (k.field.resolveIn_respects d e h)
  have hitems := itemsOf_respects a b hab
  rw [isEmpty_respects _ _ hitems]
  split
  · rw [List.map_singleton, List.map_singleton, hab]
  · exact hitems

omit h in
theorem least_respects (a b : Value) (hab : inner a = inner b) (xs ys : List Value)
    (hxy : xs.map inner = ys.map inner) : inner (least a xs) = inner (least b ys) := by
  induction xs generalizing ys a b with
  | nil =>
    rw [List.map_eq_nil_iff.mp hxy.symm]
    exact hab
  | cons x xs ih =>
    cases ys with
    | nil => simp at hxy
    | cons y ys =>
      obtain ⟨hhead, htail⟩ := List.cons.inj hxy
      rw [least, least, compare_left_congr x y hhead, compare_right_congr a b hab]
      refine ih _ _ ?_ ys htail
      split
      · exact hhead
      · exact hab

omit h in
theorem greatest_respects (a b : Value) (hab : inner a = inner b) (xs ys : List Value)
    (hxy : xs.map inner = ys.map inner) : inner (greatest a xs) = inner (greatest b ys) := by
  induction xs generalizing ys a b with
  | nil =>
    rw [List.map_eq_nil_iff.mp hxy.symm]
    exact hab
  | cons x xs ih =>
    cases ys with
    | nil => simp at hxy
    | cons y ys =>
      obtain ⟨hhead, htail⟩ := List.cons.inj hxy
      rw [greatest, greatest, compare_left_congr x y hhead, compare_right_congr a b hab]
      refine ih _ _ ?_ ys htail
      split
      · exact hab
      · exact hhead

theorem value_respects (k : SortKey) : inner (k.value d) = inner (k.value e) := by
  have hoffered := offered_respects d e h k
  unfold value
  cases hd : k.offered d with
  | nil =>
    rw [hd] at hoffered
    rw [List.map_eq_nil_iff.mp hoffered.symm]
  | cons v vs =>
    cases he : k.offered e with
    | nil => simp [hd, he] at hoffered
    | cons w ws =>
      rw [hd, he] at hoffered
      obtain ⟨hhead, htail⟩ := List.cons.inj hoffered
      cases k.direction with
      | ascending => exact least_respects v w hhead vs ws htail
      | descending => exact greatest_respects v w hhead vs ws htail

theorem compare_eq (k : SortKey) : k.compare d e = .eq := by
  have hvalue := value_respects d e h k
  unfold compare
  cases k.direction with
  | ascending => exact (inner_eq_iff _ _).mp hvalue
  | descending => exact (inner_eq_iff _ _).mp hvalue.symm

end SortKey

theorem SortSpec.compareBy_eq (keys : List SortKey) (d e : Document)
    (h : innerFields d = innerFields e) : compareBy keys d e = .eq := by
  induction keys with
  | nil => rfl
  | cons k ks ih => rw [compareBy, k.compare_eq d e h, ih]; rfl

/-- Documents that are equal in the order match the same filters, unless a filter has scripts
or asks for remainders, and no sort specification tells them apart. -/
theorem queries_respect_order (f : Filter)
    (hf : ∀ n, Node.Below n (.filter f) → ¬ n.IsScript ∧ ¬ n.IsModulo) (d e : Document)
    (h : Value.compareFields d e = .eq) :
    f.matches d = f.matches e ∧ ∀ s : SortSpec, s.compare d e = .eq := by
  have hinner : innerFields d = innerFields e :=
    (innerFields_eq_iff d e fun entry _ => inner_eq_iff entry.2).mpr h
  exact ⟨Node.respects _ hf d e hinner, fun s => SortSpec.compareBy_eq s.keys d e hinner⟩

/-- No element of an array in a reference is below one. -/
def noneBelowOne : Filter :=
  .nor [.field ⟨["a", "$id"]⟩ (.not (.element (.related .less (.int32 1))))]

/-- A reference whose id is an array of the given number. -/
def referenceTo (v : Value) : Document := [("a", .array [.reference none "c" (.array [v])])]

/-- A negative zero in place of one of 64 bits. -/
theorem queries_respect_order_zero :
    Value.compareFields (referenceTo (.int64 0)) (referenceTo (.double ⟨0x8000000000000000⟩)) = .eq ∧
      noneBelowOne.matches (referenceTo (.int64 0)) =
        noneBelowOne.matches (referenceTo (.double ⟨0x8000000000000000⟩)) ∧
      ∀ s : SortSpec, s.compare (referenceTo (.int64 0))
        (referenceTo (.double ⟨0x8000000000000000⟩)) = .eq := by
  have hequal : Value.compareFields (referenceTo (.int64 0))
      (referenceTo (.double ⟨0x8000000000000000⟩)) = .eq := by
    decide +kernel
  refine ⟨hequal, queries_respect_order noneBelowOne ?_ _ _ hequal⟩
  unfold noneBelowOne
  refine (Node.forall_below_iff _).mpr ⟨⟨id, id⟩, ?_⟩
  rintro _ (_ | _ | hmem)
  rw [List.mem_singleton.mp hmem]
  refine (Node.forall_below_iff _).mpr ⟨⟨id, id⟩, ?_⟩
  rintro _ ⟨⟩
  refine (Node.forall_below_iff _).mpr ⟨⟨id, id⟩, ?_⟩
  rintro _ ⟨⟩
  refine (Node.forall_below_iff _).mpr ⟨⟨id, id⟩, ?_⟩
  rintro _ ⟨⟩
  refine (Node.forall_below_iff _).mpr ⟨⟨id, id⟩, ?_⟩
  rintro _ ⟨⟩

end Docbase
