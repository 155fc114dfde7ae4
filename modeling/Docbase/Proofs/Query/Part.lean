import Docbase.Query.Filter
import Mathlib.Logic.Relation

/-!
The parts of a filter: the filters and tests that it is built from, at any depth.
-/
namespace Docbase

/-- A filter or a test, wherever it stands. -/
inductive Node where
  | filter (f : Filter)
  | test (t : FieldTest)

namespace Node

/-- The first node stands directly inside the second. -/
inductive Inside : Node → Node → Prop
  | and {f : Filter} {fs : List Filter} : f ∈ fs → Inside (.filter f) (.filter (.and fs))
  | or {f : Filter} {fs : List Filter} : f ∈ fs → Inside (.filter f) (.filter (.or fs))
  | nor {f : Filter} {fs : List Filter} : f ∈ fs → Inside (.filter f) (.filter (.nor fs))
  | field {path : Path} {t : FieldTest} : Inside (.test t) (.filter (.field path t))
  | element {t : FieldTest} : Inside (.test t) (.test (.element t))
  | elementQuery {f : Filter} : Inside (.filter f) (.test (.elementQuery f))
  | not {t : FieldTest} : Inside (.test t) (.test (.not t))
  | tests {t : FieldTest} {ts : List FieldTest} : t ∈ ts → Inside (.test t) (.test (.and ts))

theorem sizeOf_lt_of_inside (m n : Node) (h : Inside m n) : sizeOf m < sizeOf n := by
  cases h with
  | and hmem | or hmem | nor hmem | tests hmem =>
    have := List.sizeOf_lt_of_mem hmem
    simp only [filter.sizeOf_spec, test.sizeOf_spec, Filter.and.sizeOf_spec,
      Filter.or.sizeOf_spec, Filter.nor.sizeOf_spec, FieldTest.and.sizeOf_spec]
    omega
  | field | element | elementQuery | not =>
    simp only [filter.sizeOf_spec, test.sizeOf_spec, Filter.field.sizeOf_spec,
      FieldTest.element.sizeOf_spec, FieldTest.elementQuery.sizeOf_spec, FieldTest.not.sizeOf_spec]
    omega

/-- What a node has as soon as the nodes inside it do, every node has. -/
@[elab_as_elim]
theorem inside_induction {motive : Node → Prop}
    (step : ∀ n, (∀ m, Inside m n → motive m) → motive n) (n : Node) : motive n :=
  step n fun m _ => inside_induction step m
termination_by sizeOf n
decreasing_by exact sizeOf_lt_of_inside m n (by assumption)

/-- A node stands in another at some depth, or is that node. -/
def Below : Node → Node → Prop := Relation.ReflTransGen Inside

theorem forall_below_iff {P : Node → Prop} (n : Node) :
    (∀ m, Below m n → P m) ↔ P n ∧ ∀ c, Inside c n → ∀ m, Below m c → P m := by
  constructor
  · intro h
    exact ⟨h n .refl, fun c hc m hm => h m (hm.tail hc)⟩
  · rintro ⟨hself, hinside⟩ m hm
    rcases hm.cases_tail with rfl | ⟨c, hmc, hc⟩
    · exact hself
    · exact hinside c hc m hmc

/-- A script predicate. -/
def IsScript : Node → Prop
  | .filter (.script _) => True
  | _ => False

/-- A test for a remainder. -/
def IsModulo : Node → Prop
  | .test (.modulo ..) => True
  | _ => False

end Node

end Docbase
