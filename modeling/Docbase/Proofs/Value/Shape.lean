import Docbase.Value.Order

/-!
Values by their shape. Induction over a value comes with the hypothesis for the values inside
it, and two values of one class other than the numbers have the same constructor.
-/
namespace Docbase.Value

/-- Values without values inside. -/
def IsScalar : Value → Prop
  | .document _ | .array _ | .reference .. => False
  | _ => True

/-- The recursor of values that descends into entries and elements. -/
@[elab_as_elim]
theorem nested_induction {motive : Value → Prop}
    (scalar : ∀ v, v.IsScalar → motive v)
    (document : ∀ fields, (∀ entry ∈ fields, motive entry.2) → motive (.document fields))
    (array : ∀ items, (∀ v ∈ items, motive v) → motive (.array items))
    (reference : ∀ database collection id, motive id →
      motive (.reference database collection id)) : ∀ v, motive v
  | .document fields => document fields fun entry _ =>
      nested_induction scalar document array reference entry.2
  | .array items => array items fun v _ =>
      nested_induction scalar document array reference v
  | .reference database collection id => reference database collection id
      (nested_induction scalar document array reference id)
  | .minKey => scalar _ trivial
  | .null => scalar _ trivial
  | .int32 _ => scalar _ trivial
  | .int64 _ => scalar _ trivial
  | .double _ => scalar _ trivial
  | .string _ => scalar _ trivial
  | .boolean _ => scalar _ trivial
  | .dateTime _ => scalar _ trivial
  | .binary .. => scalar _ trivial
  | .objectId _ => scalar _ trivial
  | .regex _ => scalar _ trivial
  | .maxKey => scalar _ trivial
termination_by v => sizeOf v
decreasing_by
  · have hmem := List.sizeOf_lt_of_mem (by assumption : entry ∈ fields)
    have hentry : sizeOf entry = 1 + sizeOf entry.1 + sizeOf entry.2 := rfl
    simp only [Value.document.sizeOf_spec]
    omega
  · have hmem := List.sizeOf_lt_of_mem (by assumption : v ∈ items)
    simp only [Value.array.sizeOf_spec]
    omega
  · simp only [Value.reference.sizeOf_spec]
    omega

/-- Two values of one class that is not that of the numbers. -/
inductive Alike : Value → Value → Prop
  | minKey : Alike .minKey .minKey
  | null : Alike .null .null
  | string (s t : String) : Alike (.string s) (.string t)
  | boolean (b c : Bool) : Alike (.boolean b) (.boolean c)
  | dateTime (m n : Int64) : Alike (.dateTime m) (.dateTime n)
  | binary (s t : UInt8) (x y : Bytes) : Alike (.binary s x) (.binary t y)
  | objectId (i j : ObjectId) : Alike (.objectId i) (.objectId j)
  | regex (r s : Regex) : Alike (.regex r) (.regex s)
  | document (xs ys : List (String × Value)) : Alike (.document xs) (.document ys)
  | array (xs ys : List Value) : Alike (.array xs) (.array ys)
  | reference (d e : Option String) (c f : String) (x y : Value) :
      Alike (.reference d c x) (.reference e f y)
  | maxKey : Alike .maxKey .maxKey

theorem alike_of_typeClass_eq (a b : Value) (h : a.typeClass = b.typeClass)
    (hn : a.typeClass ≠ .numeric) : Alike a b := by
  cases a <;> cases b <;> first | constructor | exact absurd rfl hn | simp [typeClass] at h

theorem typeClass_eq_numeric_iff (v : Value) :
    v.typeClass = .numeric ↔ ∃ n, v.numeric? = some n := by
  cases v <;> simp [typeClass, numeric?]

/-- Values of different classes are ordered by class. -/
theorem compare_of_typeClass_ne (a b : Value) (h : a.typeClass ≠ b.typeClass) :
    compare a b = compareClass a b := by
  cases a <;> cases b <;> first | exact absurd rfl h | rfl

theorem compare_of_numeric (a b : Value) (m n : Numeric) (ha : a.numeric? = some m)
    (hb : b.numeric? = some n) : compare a b = m.compare n := by
  cases a <;> cases ha <;> cases b <;> cases hb <;> rfl

end Docbase.Value
