import Docbase.Proofs.Query.Conjunction
import Docbase.Proofs.Query.Derived
import Docbase.Proofs.Text.Hex
import Docbase.Proofs.Value.Order

/-!
Range tests and equality. A test that admits equality is the strict one or equality, because
values that are equal in the order are of one class; it is so for every operand except those that
name an object id, which are equal to values of another class. A greater operand asks for more of
what is above it and for less of what is below, because the order is transitive. Of one value of
the operand's class exactly one of less, equal and greater holds.
-/
namespace Docbase

namespace Value

/-- An object id, or a text of 24 lowercase hexadecimal digits. -/
def NamesId : Value → Prop
  | .objectId _ => True
  | .string s => s.toList.length = 24 ∧ ∀ c ∈ s.toList, c ∈ Hex.digits
  | _ => False

theorem namesId_hex (id : ObjectId) : (Value.string id.hex).NamesId := by
  obtain ⟨hlength, hdigits⟩ := Hex.encodeChars_spec id.bytes
  rw [NamesId, ObjectId.hex, Hex.encode, String.toList_ofList, hlength, id.size_eq]
  exact ⟨rfl, hdigits⟩

/-- Values of one class are equal when the order says so. -/
theorem equal_of_typeClass_eq (x v : Value) (h : x.typeClass = v.typeClass) :
    x.equal v = (x.compare v == .eq) := by
  cases x <;> cases v <;> first | rfl | simp [typeClass] at h

/-- Apart from object ids and their texts all values are equal when the order says so. -/
theorem equal_of_not_namesId (x v : Value) (h : ¬ v.NamesId) :
    x.equal v = (x.compare v == .eq) := by
  cases v with
  | objectId => exact absurd trivial h
  | string s =>
    cases x with
    | objectId id =>
      have hne : id.hex ≠ s := fun heq => h (heq ▸ namesId_hex id)
      exact beq_false_of_ne hne
    | _ => rfl
  | _ => cases x <;> rfl

theorem typeClass_eq_of_compare_eq (x v : Value) (h : x.compare v = .eq) :
    x.typeClass = v.typeClass := by
  by_contra hne
  rw [compare_of_typeClass_ne x v hne] at h
  exact hne (rank_injective _ _ (Nat.compare_eq_eq.mp h))

end Value

namespace Relation

/-- A relation that admits equality, and the strict one. -/
inductive Includes : Relation → Relation → Prop
  | greater : Includes .greaterEqual .greater
  | less : Includes .lessEqual .less

theorem Includes.accepts_eq {r s : Relation} (h : Includes r s) (o : Ordering) :
    r.accepts o = (s.accepts o || o == .eq) := by
  cases h <;> cases o <;> rfl

theorem Includes.holds_eq {r s : Relation} (h : Includes r s) (v x : Value) (hv : ¬ v.NamesId) :
    r.holds v x = (s.holds v x || x.equal v) := by
  rw [Value.equal_of_not_namesId x v hv, holds, holds, h.accepts_eq]
  by_cases heq : x.compare v = .eq
  · have hclass := Value.typeClass_eq_of_compare_eq x v heq
    simp [heq, hclass]
  · simp [beq_false_of_ne heq]

/-- The order of the operand to a value that is related to it, as the order of that value to the
operand accepts it. -/
theorem accepts_swap (o : Ordering) :
    (greater.accepts o = true ↔ o.swap = .lt) ∧ (greaterEqual.accepts o = true ↔ o.swap ≠ .gt) ∧
      (less.accepts o = true ↔ o = .lt) ∧ (lessEqual.accepts o = true ↔ o ≠ .gt) := by
  cases o <;> decide

section

variable (v w x : Value) (hclass : v.typeClass = w.typeClass) (hle : v.compare w ≠ .gt)

include hclass in
theorem holds_of_accepts (r : Relation)
    (h : r.accepts (x.compare w) = true → r.accepts (x.compare v) = true)
    (hx : r.holds w x = true) : r.holds v x = true := by
  rw [holds, Bool.and_eq_true] at hx ⊢
  rw [hclass]
  exact ⟨hx.1, h hx.2⟩

include hclass hle

/-- What is above an operand is above every lower one. -/
theorem holds_lower (r : Relation) (hr : r = .greater ∨ r = .greaterEqual)
    (hx : r.holds w x = true) : r.holds v x = true := by
  refine holds_of_accepts v w x hclass r ?_ hx
  -- The relations look from the value to the operand, the chain from the operands to the value.
  have hchain := Value.chains v w x hle
  obtain ⟨hgreater, hgreaterEqual, -, -⟩ := accepts_swap (x.compare w)
  obtain ⟨hgreater', hgreaterEqual', -, -⟩ := accepts_swap (x.compare v)
  rw [← Value.compare_swap x w] at hgreater hgreaterEqual
  rw [← Value.compare_swap x v] at hgreater' hgreaterEqual'
  rcases hr with rfl | rfl
  · rw [hgreater, hgreater']
    intro hlt
    rw [hchain (by simp [hlt]), hlt]
    cases hvw : v.compare w <;> first | rfl | exact absurd hvw hle
  · rw [hgreaterEqual, hgreaterEqual']
    intro hwx
    rw [hchain hwx]
    cases hvw : v.compare w <;> simp_all

/-- What is below an operand is below every higher one. -/
theorem holds_higher (r : Relation) (hr : r = .less ∨ r = .lessEqual)
    (hx : r.holds v x = true) : r.holds w x = true := by
  refine holds_of_accepts w v x hclass.symm r ?_ hx
  have hchain := fun hxv => Value.chains x v w hxv hle
  obtain ⟨-, -, hless, hlessEqual⟩ := accepts_swap (x.compare v)
  obtain ⟨-, -, hless', hlessEqual'⟩ := accepts_swap (x.compare w)
  rcases hr with rfl | rfl
  · rw [hless, hless']
    intro hlt
    rw [hchain (by simp [hlt]), hlt]
    rfl
  · rw [hlessEqual, hlessEqual']
    intro hxv
    rw [hchain hxv]
    cases hcompare : x.compare v <;> simp_all

end

end Relation

namespace Query

/-- The query compiles and the document is among its answers. -/
def Matches (q : Document) (d : Document) : Prop := ∃ m, meaning q = .ok m ∧ m d = .ok true

/-- The tests that compare with an operand in the order. -/
inductive RangeTest : String → Relation → Prop
  | greater : RangeTest "$gt" .greater
  | greaterEqual : RangeTest "$gte" .greaterEqual
  | less : RangeTest "$lt" .less
  | lessEqual : RangeTest "$lte" .lessEqual

theorem compile_equal (v : Value) :
    FieldTest.compile (.document [("$eq", v)]) = .ok (.equal v) := by
  rw [FieldTest.compile, FieldTest.compileAll, show TestKey.ofText "$eq" = .equal by decide]
  rfl

theorem RangeTest.ofText_eq {op : String} {r : Relation} (h : RangeTest op r) :
    TestKey.ofText op = .related r := by
  cases h <;> decide

theorem compile_rangeTest {op : String} {r : Relation} (h : RangeTest op r) (v : Value) :
    FieldTest.compile (.document [(op, v)]) = .ok (.related r v) := by
  rw [FieldTest.compile, FieldTest.compileAll, h.ofText_eq]
  cases h <;> rfl

variable {p : String} (hp : isOperatorKey p = false)

include hp

theorem meaning_equal (v : Value) :
    meaning (asks p "$eq" v) = .ok (offered (Path.ofText p) fun x => x.equal v) := by
  rw [meaning_asks hp, compile_equal]
  rfl

theorem meaning_rangeTest {op : String} {r : Relation} (h : RangeTest op r) (v : Value) :
    meaning (asks p op v) = .ok (offered (Path.ofText p) (r.holds v)) := by
  rw [meaning_asks hp, compile_rangeTest h]
  rfl

theorem matches_equal_iff (v : Value) (d : Document) :
    Matches (asks p "$eq" v) d ↔
      ∃ x ∈ candidates ((Path.ofText p).resolveIn d), x.equal v = true := by
  rw [Matches, meaning_equal hp]
  simp [offered]

theorem matches_rangeTest_iff {op : String} {r : Relation} (h : RangeTest op r) (v : Value)
    (d : Document) :
    Matches (asks p op v) d ↔
      ∃ x ∈ candidates ((Path.ofText p).resolveIn d), r.holds v x = true := by
  rw [Matches, meaning_rangeTest hp h]
  simp [offered]

theorem matches_includes_iff {op op' : String} {r s : Relation} (hop : RangeTest op r)
    (hop' : RangeTest op' s) (h : Relation.Includes r s) (v : Value) (hv : ¬ v.NamesId)
    (d : Document) :
    Matches (asks p op v) d ↔ Matches (asks p op' v) d ∨ Matches (asks p "$eq" v) d := by
  rw [matches_rangeTest_iff hp hop, matches_rangeTest_iff hp hop', matches_equal_iff hp]
  simp only [h.holds_eq v _ hv, Bool.or_eq_true, and_or_left, exists_or]

theorem matches_of_holds {op : String} {r : Relation} (h : RangeTest op r) (v w : Value)
    (hholds : ∀ x, r.holds v x = true → r.holds w x = true) (d : Document)
    (hd : Matches (asks p op v) d) : Matches (asks p op w) d := by
  rw [matches_rangeTest_iff hp h] at hd ⊢
  obtain ⟨x, hx, hxv⟩ := hd
  exact ⟨x, hx, hholds x hxv⟩

omit hp

/-- The operator that asks for one answer of the order. -/
def operatorOf : Ordering → String
  | .lt => "$lt"
  | .eq => "$eq"
  | .gt => "$gt"

theorem candidates_singleton (x : Value) (h : x.typeClass ≠ .array) : candidates [x] = [x] := by
  cases x with
  | array => exact absurd rfl h
  | _ => rfl

theorem holds_of_typeClass_eq (r : Relation) (x v : Value) (h : x.typeClass = v.typeClass) :
    r.holds v x = r.accepts (x.compare v) := by
  simp [Relation.holds, h]

include hp

section

variable (v x : Value) (d : Document) (hd : (Path.ofText p).resolveIn d = [x])
  (hclass : x.typeClass = v.typeClass) (harray : x.typeClass ≠ .array)

include hd hclass harray

theorem matches_rangeTest_single {op : String} {r : Relation} (h : RangeTest op r) :
    Matches (asks p op v) d ↔ r.accepts (x.compare v) = true := by
  rw [matches_rangeTest_iff hp h, hd, candidates_singleton x harray]
  simp [holds_of_typeClass_eq r x v hclass]

/-- A single value matches the operator of the answer that the order gives. -/
theorem matches_operatorOf_iff (o : Ordering) :
    Matches (asks p (operatorOf o) v) d ↔ x.compare v = o := by
  cases o with
  | lt => simp [operatorOf, matches_rangeTest_single hp v x d hd hclass harray .less,
      Relation.accepts]
  | eq =>
    rw [operatorOf, matches_equal_iff hp, hd, candidates_singleton x harray]
    simp [Value.equal_of_typeClass_eq x v hclass]
  | gt => simp [operatorOf, matches_rangeTest_single hp v x d hd hclass harray .greater,
      Relation.accepts]

end

omit hp

/-- A range test that admits equality finds what the strict one or equality finds, an operand
further down the range finds more, and of one value in the class of the operand exactly one of
less, equal and greater holds. -/
theorem ranges_cohere (hp : isOperatorKey p = false) :
    (∀ op ∈ ["$eq", "$gt", "$gte", "$lt", "$lte"], ∀ v, ∃ m,
        meaning (asks p op v) = .ok m ∧ Answers m) ∧
      (∀ v : Value, ¬ v.NamesId → ∀ d,
        (Matches (asks p "$gte" v) d ↔ Matches (asks p "$gt" v) d ∨ Matches (asks p "$eq" v) d) ∧
          (Matches (asks p "$lte" v) d ↔
            Matches (asks p "$lt" v) d ∨ Matches (asks p "$eq" v) d)) ∧
      (∀ v w : Value, v.typeClass = w.typeClass → v.compare w ≠ .gt → ∀ d,
        (∀ op ∈ ["$gt", "$gte"], Matches (asks p op w) d → Matches (asks p op v) d) ∧
          ∀ op ∈ ["$lt", "$lte"], Matches (asks p op v) d → Matches (asks p op w) d) ∧
      ∀ (v x : Value) (d : Document), (Path.ofText p).resolveIn d = [x] →
        x.typeClass = v.typeClass → x.typeClass ≠ .array →
        ∃! o, Matches (asks p (operatorOf o) v) d := by
  refine ⟨?_, ?_, ?_, ?_⟩
  · intro op hop v
    simp only [List.mem_cons, List.not_mem_nil, or_false] at hop
    rcases hop with rfl | rfl | rfl | rfl | rfl
    · exact ⟨_, meaning_equal hp v, fun d => ⟨_, rfl⟩⟩
    · exact ⟨_, meaning_rangeTest hp .greater v, fun d => ⟨_, rfl⟩⟩
    · exact ⟨_, meaning_rangeTest hp .greaterEqual v, fun d => ⟨_, rfl⟩⟩
    · exact ⟨_, meaning_rangeTest hp .less v, fun d => ⟨_, rfl⟩⟩
    · exact ⟨_, meaning_rangeTest hp .lessEqual v, fun d => ⟨_, rfl⟩⟩
  · intro v hv d
    exact ⟨matches_includes_iff hp .greaterEqual .greater .greater v hv d,
      matches_includes_iff hp .lessEqual .less .less v hv d⟩
  · intro v w hclass hle d
    refine ⟨fun op hop => ?_, fun op hop => ?_⟩
    · simp only [List.mem_cons, List.not_mem_nil, or_false] at hop
      rcases hop with rfl | rfl
      · exact matches_of_holds hp .greater w v
          (fun x => Relation.holds_lower v w x hclass hle _ (.inl rfl)) d
      · exact matches_of_holds hp .greaterEqual w v
          (fun x => Relation.holds_lower v w x hclass hle _ (.inr rfl)) d
    · simp only [List.mem_cons, List.not_mem_nil, or_false] at hop
      rcases hop with rfl | rfl
      · exact matches_of_holds hp .less v w
          (fun x => Relation.holds_higher v w x hclass hle _ (.inl rfl)) d
      · exact matches_of_holds hp .lessEqual v w
          (fun x => Relation.holds_higher v w x hclass hle _ (.inr rfl)) d
  · intro v x d hd hclass harray
    have hiff := matches_operatorOf_iff hp v x d hd hclass harray
    exact ⟨x.compare v, (hiff _).mpr rfl, fun o ho => ((hiff o).mp ho).symm⟩

/-- Numbers of different widths, and a text that names no id. -/
theorem ranges_cohere_widths :
    (∀ d, Matches (asks "a" "$gte" (.string "g")) d ↔
        Matches (asks "a" "$gt" (.string "g")) d ∨ Matches (asks "a" "$eq" (.string "g")) d) ∧
      Matches (asks "a" "$gt" (.int32 1)) [("a", .array [.null, .int64 2])] ∧
      ∃! o, Matches (asks "a" (operatorOf o) (.int32 1)) [("a", .int64 2)] := by
  have hp : isOperatorKey "a" = false := by decide
  obtain ⟨-, hincludes, hmonotone, hunique⟩ := ranges_cohere hp
  have hname : ¬ (Value.string "g").NamesId := fun h => absurd h.1 (by decide)
  have habove : Matches (asks "a" "$gt" (.double ⟨0x3ff8000000000000⟩))
      [("a", .array [.null, .int64 2])] :=
    ⟨_, meaning_rangeTest hp .greater _, congrArg Except.ok (by decide +kernel)⟩
  have hle : (Value.int32 1).compare (.double ⟨0x3ff8000000000000⟩) ≠ .gt := by decide +kernel
  obtain ⟨hdown, -⟩ := hmonotone (.int32 1) (.double ⟨0x3ff8000000000000⟩) rfl hle
    [("a", .array [.null, .int64 2])]
  exact ⟨fun d => (hincludes _ hname d).1, hdown "$gt" (by decide) habove,
    hunique _ (.int64 2) _ rfl rfl (by decide)⟩

end Query

end Docbase
