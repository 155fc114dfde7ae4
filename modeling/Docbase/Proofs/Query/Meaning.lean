import Docbase.Proofs.Query.Acceptance
import Docbase.Proofs.Query.Evaluation

/-!
What a query means: the error of its compilation, or the answers that its filter gives for every
document. A query is compiled part by part, and its filter is evaluated part by part, so its
meaning is made of the meanings of its parts, errors and failing scripts included.
-/
namespace Docbase

namespace Query

/-- The answers for all documents. -/
abbrev Verdicts := Document → Except ScriptError Bool

def negation (m : Verdicts) : Verdicts := fun d => Bool.not <$> m d

/-- Whether all hold, asked in order and no further than the first that does not. -/
def conjunction (ms : List Verdicts) : Verdicts := fun d => ms.allM fun m => m d

/-- Whether any holds, asked in order and no further than the first that does. -/
def disjunction (ms : List Verdicts) : Verdicts := fun d => ms.anyM fun m => m d

/-- The answers of a filter. -/
def verdicts (f : Filter) : Verdicts := fun d => f.matches d

/-- Whether some candidate that a path leads to passes. -/
def offered (path : Path) (test : Value → Bool) : Verdicts := fun d =>
  .ok ((candidates (path.resolveIn d)).any test)

/-- The answers of the filter that a query compiles to, or the error. -/
def meaning (q : Document) : Except QueryError Verdicts := verdicts <$> Filter.compile q

/-! Combined answers. -/

theorem allM_eq {ε α : Type} (test : α → Except ε Bool) (as : List α) :
    as.allM test = Bool.not <$> anyHolds (fun a => Bool.not <$> test a) as := by
  induction as with
  | nil => rfl
  | cons a rest ih =>
    rw [List.allM, anyHolds, ih]
    cases test a with
    | error e => rfl
    | ok b => cases b <;> rfl

theorem anyM_eq {ε α : Type} (test : α → Except ε Bool) (as : List α) :
    as.anyM test = anyHolds test as := by
  induction as with
  | nil => rfl
  | cons a rest ih =>
    rw [List.anyM, anyHolds, ih]
    cases test a with
    | error e => rfl
    | ok b => cases b <;> rfl

theorem anyHolds_map {ε α β : Type} (g : α → β) (test : β → Except ε Bool) (as : List α) :
    anyHolds test (as.map g) = anyHolds (fun a => test (g a)) as := by
  induction as with
  | nil => rfl
  | cons a rest ih => rw [List.map_cons, anyHolds, anyHolds, ih]

theorem conjunction_map {α : Type} (g : α → Verdicts) (as : List α) (d : Document) :
    conjunction (as.map g) d = as.allM fun a => g a d := by
  rw [conjunction, allM_eq, allM_eq, anyHolds_map]

theorem disjunction_map {α : Type} (g : α → Verdicts) (as : List α) (d : Document) :
    disjunction (as.map g) d = as.anyM fun a => g a d := by
  rw [disjunction, anyM_eq, anyM_eq, anyHolds_map]

theorem verdicts_and (fs : List Filter) : verdicts (.and fs) = conjunction (fs.map verdicts) := by
  funext d
  rw [verdicts, Filter.matches_and, conjunction_map, allM_eq]
  rfl

theorem verdicts_or (fs : List Filter) : verdicts (.or fs) = disjunction (fs.map verdicts) := by
  funext d
  rw [verdicts, Filter.matches_or, disjunction_map, anyM_eq]
  rfl

theorem verdicts_nor (fs : List Filter) :
    verdicts (.nor fs) = negation (disjunction (fs.map verdicts)) := by
  funext d
  rw [← verdicts_or, verdicts, negation, verdicts, Filter.matches_nor, Filter.matches_or]

theorem verdicts_tests (path : Path) (ts : List FieldTest) :
    verdicts (.field path (.and ts)) =
      conjunction (ts.map fun t => verdicts (.field path t)) := by
  funext d
  rw [verdicts, Filter.matches_field, FieldTest.holds_and, conjunction_map, allM_eq]
  rfl

theorem conjunction_cons (m : Verdicts) (ms : List Verdicts) (d : Document) :
    conjunction (m :: ms) d = do if ← m d then conjunction ms d else return false := by
  rw [conjunction, List.allM]
  cases m d with
  | error e => rfl
  | ok b => cases b <;> rfl

theorem conjunction_singleton (m : Verdicts) : conjunction [m] = m := by
  funext d
  rw [conjunction_cons]
  cases m d with
  | error e => rfl
  | ok b => cases b <;> rfl

theorem conjunction_append (ms ms' : List Verdicts) :
    conjunction (ms ++ ms') = conjunction [conjunction ms, conjunction ms'] := by
  funext d
  induction ms with
  | nil =>
    rw [List.nil_append, conjunction_cons, conjunction_singleton]
    rfl
  | cons m rest ih =>
    rw [conjunction_cons, conjunction_singleton] at ih
    rw [List.cons_append, conjunction_cons, ih, conjunction_cons, conjunction_singleton,
      conjunction_cons]
    cases m d with
    | error e => rfl
    | ok b => cases b <;> rfl

theorem conjunction_flatten (mss : List (List Verdicts)) :
    conjunction mss.flatten = conjunction (mss.map conjunction) := by
  induction mss with
  | nil => rfl
  | cons ms rest ih =>
    funext d
    rw [List.flatten_cons, conjunction_append, ih, List.map_cons, conjunction_cons,
      conjunction_singleton, conjunction_cons]

theorem verdicts_combine (fs : List Filter) :
    verdicts (Filter.combine fs) = conjunction (fs.map verdicts) := by
  unfold Filter.combine
  split
  · rw [List.map_cons, List.map_nil, conjunction_singleton]
  · exact verdicts_and fs

/-! The meaning of a query of one entry. -/

theorem ofText_of_field (key : String) (h : isOperatorKey key = false) :
    QueryKey.ofText key = .field := by
  have hspelt := speltClause_ofText key
  generalize QueryKey.ofText key = k at hspelt ⊢
  cases hspelt with
  | unknown ho => rw [h] at ho; cases ho
  | field => rfl
  | _ => exact absurd h (by decide)

theorem not_startsWithOperator (key : String) (h : isOperatorKey key = false) (v : Value)
    (rest : Document) : ¬ StartsWithOperator ((key, v) :: rest) := by
  simp [StartsWithOperator, h]

theorem compileFields_field (key : String) (h : isOperatorKey key = false) (scripts : Bool)
    (v : Value) :
    Filter.compileFields scripts [(key, v)] =
      (fun t => [.field (Path.ofText key) t]) <$> FieldTest.compile v := by
  rw [Filter.compileFields.eq_def]
  dsimp only
  rw [ofText_of_field key h]
  cases FieldTest.compile v <;> rfl

/-- A field is asked for what its condition compiles to. -/
theorem meaning_field (key : String) (h : isOperatorKey key = false) (v : Value) :
    meaning [(key, v)] =
      (fun t => verdicts (.field (Path.ofText key) t)) <$> FieldTest.compile v := by
  rw [meaning, Filter.compile, compileFields_field key h]
  cases FieldTest.compile v <;> rfl

theorem compileItems_eq_mapM (scripts : Bool) (key : String) (queries : List Document) :
    Filter.compileItems scripts key (queries.map .document) =
      queries.mapM fun q => Filter.combine <$> Filter.compileFields scripts q := by
  induction queries with
  | nil => rfl
  | cons q rest ih =>
    rw [List.map_cons, Filter.compileItems, ih, List.mapM_cons]
    cases Filter.compileFields scripts q <;> rfl

theorem compileMembers_eq_mapM (key : String) (queries : List Document) (h : queries ≠ []) :
    Filter.compileMembers true key (.array (queries.map .document)) =
      queries.mapM Filter.compile := by
  cases queries with
  | nil => exact absurd rfl h
  | cons q rest =>
    rw [List.map_cons, Filter.compileMembers, ← List.map_cons, compileItems_eq_mapM]
    · rfl
    · simp

/-- The keys that combine queries, and how their answers are combined. -/
inductive Combining : String → (List Verdicts → Verdicts) → Prop
  | and : Combining "$and" conjunction
  | or : Combining "$or" disjunction
  | nor : Combining "$nor" fun ms => negation (disjunction ms)

variable {key : String} {combined : List Verdicts → Verdicts}

theorem compileFields_combining (h : Combining key combined) :
    ∃ make : List Filter → Filter,
      (∀ scripts v, Filter.compileFields scripts [(key, v)] =
        (fun fs => [make fs]) <$> Filter.compileMembers scripts key v) ∧
        ∀ fs, verdicts (make fs) = combined (fs.map verdicts) := by
  cases h with
  | and =>
    refine ⟨.and, fun scripts v => ?_, verdicts_and⟩
    rw [Filter.compileFields.eq_def]
    dsimp only
    rw [show QueryKey.ofText "$and" = .and by decide]
    cases Filter.compileMembers scripts "$and" v <;> rfl
  | or =>
    refine ⟨.or, fun scripts v => ?_, verdicts_or⟩
    rw [Filter.compileFields.eq_def]
    dsimp only
    rw [show QueryKey.ofText "$or" = .or by decide]
    cases Filter.compileMembers scripts "$or" v <;> rfl
  | nor =>
    refine ⟨.nor, fun scripts v => ?_, verdicts_nor⟩
    rw [Filter.compileFields.eq_def]
    dsimp only
    rw [show QueryKey.ofText "$nor" = .nor by decide]
    cases Filter.compileMembers scripts "$nor" v <;> rfl

theorem compile_combining (h : Combining key combined) (v : Value) :
    ∃ make : List Filter → Filter,
      Filter.compile [(key, v)] = make <$> Filter.compileMembers true key v ∧
        ∀ fs, verdicts (make fs) = combined (fs.map verdicts) := by
  obtain ⟨make, hfields, hverdicts⟩ := compileFields_combining h
  refine ⟨make, ?_, hverdicts⟩
  rw [Filter.compile, hfields]
  cases Filter.compileMembers true key v <;> rfl

/-- A list of queries under a key that combines them. -/
def joins (key : String) (queries : List Document) : Document :=
  [(key, .array (queries.map .document))]

theorem meaning_joins (h : Combining key combined) (queries : List Document)
    (hne : queries ≠ []) : meaning (joins key queries) = combined <$> queries.mapM meaning := by
  obtain ⟨make, hcompile, hverdicts⟩ := compile_combining h (.array (queries.map .document))
  have hmeanings : queries.mapM meaning = List.map verdicts <$> queries.mapM Filter.compile :=
    mapM_map_comm Filter.compile verdicts queries
  rw [meaning, joins, hcompile, compileMembers_eq_mapM key queries hne, hmeanings]
  cases queries.mapM Filter.compile with
  | error e => rfl
  | ok fs => exact congrArg Except.ok (hverdicts fs)

/-- A query that compiles. -/
def Compiles (q : Document) : Prop := ∃ f, Filter.compile q = .ok f

theorem compiles_iff (q : Document) : Compiles q ↔ ∃ m, meaning q = .ok m :=
  (map_succeeds_iff verdicts (Filter.compile q)).symm

theorem compiles_joins_iff (h : Combining key combined) (queries : List Document) :
    Compiles (joins key queries) ↔ queries ≠ [] ∧ ∀ q ∈ queries, Compiles q := by
  obtain ⟨make, hcompile, -⟩ := compile_combining h (.array (queries.map .document))
  unfold Compiles
  rw [joins, hcompile, map_succeeds_iff]
  by_cases hne : queries = []
  · rw [hne]
    constructor
    · rintro ⟨fs, hfs⟩
      cases hfs
    · intro h
      exact absurd rfl h.1
  · rw [compileMembers_eq_mapM key queries hne, mapM_succeeds_iff, and_iff_right hne]

end Query

end Docbase
