import Docbase.Proofs.Query.Meaning

/-!
Operators that stand for combinations of others. A negated operator is the negation of the one
without, a list of operands asks for any or for all of its members, and lists of queries are
combined by the connectives that their keys name.
-/
namespace Docbase

namespace Query

/-- What is asked of a field with one operator. -/
def asks (p op : String) (v : Value) : Document := [(p, .document [(op, v)])]

/-- What a member of a list of operands asks for: to match it if it is a pattern, and else to
equal it. -/
def askedBy (p : String) : Value → Document
  | .regex r => [(p, .regex r)]
  | v => asks p "$eq" v

/-- What a member of a list of operands is compiled to. -/
def operand : Value → Except QueryError Operand
  | .regex r => Operand.regex <$> FieldTest.compileRegex r
  | v => .ok (.value v)

theorem operandsOf_eq_mapM (key : String) (items : List Value) :
    FieldTest.operandsOf key (.array items) = items.mapM operand := by
  rw [FieldTest.operandsOf]
  rfl

/-- The tests of a list of operands. -/
inductive ListTest : String → (List Operand → FieldTest) → Prop
  | isIn : ListTest "$in" .isIn
  | notIn : ListTest "$nin" .notIn
  | all : ListTest "$all" .all

theorem compile_listTest {op : String} {make : List Operand → FieldTest} (h : ListTest op make)
    (items : List Value) :
    FieldTest.compile (.document [(op, .array items)]) = make <$> items.mapM operand := by
  rw [← operandsOf_eq_mapM op, FieldTest.compile]
  cases h with
  | isIn =>
    rw [FieldTest.compileAll, show TestKey.ofText "$in" = .isIn by decide]
    cases FieldTest.operandsOf "$in" (.array items) <;> rfl
  | notIn =>
    rw [FieldTest.compileAll, show TestKey.ofText "$nin" = .notIn by decide]
    cases FieldTest.operandsOf "$nin" (.array items) <;> rfl
  | all =>
    rw [FieldTest.compileAll, show TestKey.ofText "$all" = .all by decide]
    cases FieldTest.operandsOf "$all" (.array items) <;> rfl

theorem compile_not (v : Value) :
    FieldTest.compile (.document [("$not", v)]) = FieldTest.not <$> FieldTest.compile v := by
  rw [FieldTest.compile, FieldTest.compileAll, show TestKey.ofText "$not" = .not by decide]
  cases FieldTest.compile v <;> rfl

/-- Whether an operand accepts one of the candidates that a path leads to. -/
def accepted (path : Path) (o : Operand) : Verdicts := fun d =>
  .ok ((candidates (path.resolveIn d)).any o.accepts)

theorem verdicts_isIn (path : Path) (os : List Operand) :
    verdicts (.field path (.isIn os)) = disjunction (os.map (accepted path)) := by
  funext d
  have hswap : ((candidates (path.resolveIn d)).any fun v => os.any fun o => o.accepts v) =
      os.any fun o => (candidates (path.resolveIn d)).any o.accepts := by
    rw [Bool.eq_iff_iff]
    simp only [List.any_eq_true]
    constructor
    · rintro ⟨v, hv, o, ho, haccepts⟩
      exact ⟨o, ho, v, hv, haccepts⟩
    · rintro ⟨o, ho, v, hv, haccepts⟩
      exact ⟨v, hv, o, ho, haccepts⟩
  rw [verdicts, Filter.matches_field, FieldTest.holds, hswap, disjunction_map]
  exact List.anyM_pure.symm

/-- Whether all hold, and there is any. -/
def nonemptyConjunction (ms : List Verdicts) : Verdicts := fun d =>
  if ms.isEmpty then .ok false else conjunction ms d

theorem verdicts_all (path : Path) (os : List Operand) :
    verdicts (.field path (.all os)) = nonemptyConjunction (os.map (accepted path)) := by
  funext d
  have hall : conjunction (os.map (accepted path)) d =
      pure (os.all fun o => (candidates (path.resolveIn d)).any o.accepts) := by
    rw [conjunction_map]
    exact List.allM_pure
  rw [verdicts, Filter.matches_field, FieldTest.holds, nonemptyConjunction, hall, List.isEmpty_map]
  cases os.isEmpty <;> rfl

variable {p : String} (hp : isOperatorKey p = false)

include hp

/-- An operator by itself asks for what it compiles to. -/
theorem meaning_asks (op : String) (v : Value) :
    meaning (asks p op v) = (fun t => verdicts (.field (Path.ofText p) t)) <$>
      FieldTest.compile (.document [(op, v)]) :=
  meaning_field p hp (.document [(op, v)])

theorem meaning_askedBy (v : Value) :
    meaning (askedBy p v) = accepted (Path.ofText p) <$> operand v := by
  cases v with
  | regex r =>
    rw [askedBy, meaning_field p hp, FieldTest.compile, operand]
    cases FieldTest.compileRegex r <;> rfl
  | _ => exact meaning_asks hp "$eq" _

/-- What the members of a list ask for, in order. -/
theorem mapM_askedBy (items : List Value) :
    items.mapM (fun v => meaning (askedBy p v)) =
      List.map (accepted (Path.ofText p)) <$> items.mapM operand := by
  rw [← mapM_map_comm]
  congr 1
  funext v
  exact meaning_askedBy hp v

theorem meaning_notEqual (v : Value) :
    meaning (asks p "$ne" v) = negation <$> meaning (asks p "$eq" v) := by
  rw [meaning_asks hp, meaning_asks hp]
  rfl

theorem meaning_isIn (items : List Value) :
    meaning (asks p "$in" (.array items)) =
      disjunction <$> items.mapM fun v => meaning (askedBy p v) := by
  rw [meaning_asks hp, mapM_askedBy hp, compile_listTest .isIn]
  cases items.mapM operand with
  | error e => rfl
  | ok os => exact congrArg Except.ok (verdicts_isIn _ os)

theorem meaning_notIn (items : List Value) :
    meaning (asks p "$nin" (.array items)) =
      negation <$> meaning (asks p "$in" (.array items)) := by
  rw [meaning_asks hp, meaning_asks hp, compile_listTest .isIn, compile_listTest .notIn]
  cases items.mapM operand <;> rfl

theorem meaning_all (items : List Value) :
    meaning (asks p "$all" (.array items)) =
      nonemptyConjunction <$> items.mapM fun v => meaning (askedBy p v) := by
  rw [meaning_asks hp, mapM_askedBy hp, compile_listTest .all]
  cases items.mapM operand with
  | error e => rfl
  | ok os => exact congrArg Except.ok (verdicts_all _ os)

theorem meaning_not (condition : Value) :
    meaning (asks p "$not" condition) = negation <$> meaning [(p, condition)] := by
  rw [meaning_asks hp, meaning_field p hp, compile_not]
  cases FieldTest.compile condition <;> rfl

omit hp

/-- The derived operators mean what their definitions say: as tests of a field, where a list of
operands may hold patterns and a condition may be anything, and as connectives of queries. -/
theorem derived_operators (hp : isOperatorKey p = false) (v condition : Value)
    (items : List Value) (queries : List Document) :
    meaning (asks p "$ne" v) = negation <$> meaning (asks p "$eq" v) ∧
      meaning (asks p "$in" (.array items)) =
        disjunction <$> items.mapM (fun x => meaning (askedBy p x)) ∧
      meaning (asks p "$nin" (.array items)) =
        negation <$> meaning (asks p "$in" (.array items)) ∧
      meaning (asks p "$all" (.array items)) =
        nonemptyConjunction <$> items.mapM (fun x => meaning (askedBy p x)) ∧
      meaning (asks p "$not" condition) = negation <$> meaning [(p, condition)] ∧
      (Compiles (asks p "$not" condition) ↔ Compiles [(p, condition)]) ∧
      (∀ key ∈ ["$and", "$or", "$nor"], Compiles (joins key queries) ↔
        queries ≠ [] ∧ ∀ q ∈ queries, Compiles q) ∧
      (queries ≠ [] →
        meaning (joins "$and" queries) = conjunction <$> queries.mapM meaning ∧
        meaning (joins "$or" queries) = disjunction <$> queries.mapM meaning ∧
        meaning (joins "$nor" queries) = negation <$> meaning (joins "$or" queries)) := by
  refine ⟨meaning_notEqual hp v, meaning_isIn hp items, meaning_notIn hp items,
    meaning_all hp items, meaning_not hp condition, ?_, ?_, ?_⟩
  · rw [compiles_iff, compiles_iff, meaning_not hp condition, map_succeeds_iff]
  · intro key hkey
    simp only [List.mem_cons, List.not_mem_nil, or_false] at hkey
    rcases hkey with rfl | rfl | rfl
    · exact compiles_joins_iff .and queries
    · exact compiles_joins_iff .or queries
    · exact compiles_joins_iff .nor queries
  · intro hne
    refine ⟨meaning_joins .and queries hne, meaning_joins .or queries hne, ?_⟩
    rw [meaning_joins .nor queries hne, meaning_joins .or queries hne]
    cases queries.mapM meaning <;> rfl

/-- The number one is found by asking for what is not greater than one, and not by asking for
what is neither one nor anything else. -/
theorem derived_operators_one :
    isOperatorKey "a" = false ∧
      (∃ m, meaning (asks "a" "$not" (.document [("$gt", .int32 1)])) = .ok m ∧
        m [("a", .int32 1)] = .ok true) ∧
      ∃ m, meaning (joins "$nor" [asks "a" "$eq" (.int32 1), []]) = .ok m ∧
        m [("a", .int32 1)] = .ok false := by
  have hp : isOperatorKey "a" = false := by decide
  obtain ⟨-, -, -, -, hnot, -, -, hjoins⟩ := derived_operators hp .null
    (.document [("$gt", .int32 1)]) [] [asks "a" "$eq" (.int32 1), []]
  obtain ⟨-, hor, hnor⟩ := hjoins (List.cons_ne_nil _ _)
  exact ⟨hp, ⟨_, hnot, rfl⟩, ⟨_, hnor.trans (congrArg (negation <$> ·) hor), rfl⟩⟩

end Query

end Docbase
