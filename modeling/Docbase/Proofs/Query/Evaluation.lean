import Docbase.Query.Match

/-!
The evaluation of filters and tests, each as a search through the nodes inside for one that
holds, or for one that does not.
-/
namespace Docbase

theorem anyHolds_eq_error {ε α : Type} (test : α → Except ε Bool) (as : List α) (e : ε)
    (h : anyHolds test as = .error e) : ∃ a ∈ as, test a = .error e := by
  induction as with
  | nil => cases h
  | cons a rest ih =>
    rw [anyHolds] at h
    cases ha : test a with
    | error e' =>
      rw [ha] at h
      exact ⟨a, List.mem_cons_self, ha.trans (congrArg _ (Except.error.inj h))⟩
    | ok b =>
      cases b with
      | true =>
        rw [ha] at h
        cases h
      | false =>
        rw [ha] at h
        obtain ⟨a', ha', he⟩ := ih h
        exact ⟨a', List.mem_cons_of_mem _ ha', he⟩

theorem map_eq_error_iff {ε α β : Type} (f : α → β) (x : Except ε α) (e : ε) :
    f <$> x = .error e ↔ x = .error e := by
  cases x <;> simp [Functor.map, Except.map]

namespace Filter

variable (d : Document)

theorem anyMatches_eq (fs : List Filter) : anyMatches d fs = anyHolds (Filter.matches d) fs := by
  induction fs with
  | nil => rfl
  | cons f rest ih => rw [anyMatches, anyHolds, ih]

/-- That all of them match is that none does not. -/
theorem allMatch_eq (fs : List Filter) :
    allMatch d fs = Bool.not <$> anyHolds (fun f => Bool.not <$> f.matches d) fs := by
  induction fs with
  | nil => rfl
  | cons f rest ih =>
    rw [allMatch, anyHolds, ih]
    cases f.matches d with
    | error e => rfl
    | ok b => cases b <;> rfl

theorem matches_and (fs : List Filter) :
    (Filter.and fs).matches d = Bool.not <$> anyHolds (fun f => Bool.not <$> f.matches d) fs :=
  allMatch_eq d fs

theorem matches_or (fs : List Filter) :
    (Filter.or fs).matches d = anyHolds (fun f => f.matches d) fs := anyMatches_eq d fs

theorem matches_nor (fs : List Filter) :
    (Filter.nor fs).matches d = Bool.not <$> anyHolds (fun f => f.matches d) fs :=
  congrArg (Bool.not <$> ·) (anyMatches_eq d fs)

theorem matches_field (path : Path) (t : FieldTest) :
    (Filter.field path t).matches d = t.holds (path.resolveIn d) := rfl

end Filter

namespace FieldTest

variable (resolved : List Value)

theorem allHold_eq (ts : List FieldTest) :
    allHold resolved ts = Bool.not <$> anyHolds (fun t => Bool.not <$> t.holds resolved) ts := by
  induction ts with
  | nil => rfl
  | cons t rest ih =>
    rw [allHold, anyHolds, ih]
    cases t.holds resolved with
    | error e => rfl
    | ok b => cases b <;> rfl

theorem holds_and (ts : List FieldTest) :
    (FieldTest.and ts).holds resolved =
      Bool.not <$> anyHolds (fun t => Bool.not <$> t.holds resolved) ts := allHold_eq resolved ts

theorem holds_not (t : FieldTest) :
    (FieldTest.not t).holds resolved = Bool.not <$> t.holds resolved := rfl

theorem holds_element (t : FieldTest) :
    (FieldTest.element t).holds resolved =
      anyHolds (fun v => t.holds [v]) (elements resolved) := rfl

theorem holds_elementQuery (f : Filter) :
    (FieldTest.elementQuery f).holds resolved =
      anyHolds (fun v =>
        match v with
        | .document d => f.matches d
        | _ => .ok false) (elements resolved) := rfl

end FieldTest

end Docbase
