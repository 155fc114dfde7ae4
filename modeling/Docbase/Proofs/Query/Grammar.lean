import Docbase.Proofs.Query.Operand
import Docbase.Proofs.Value.Shape

/-!
The grammar of query documents, and that the compiler accepts exactly what it derives. The
grammar is said of entries, whatever their order: a query has clauses, a document of tests has
tests besides its pattern, and a condition is a pattern, a document of tests or a literal.
-/
namespace Docbase

namespace Query

/-- The source passes the check of its syntax in a fresh scope. -/
def IsScript (source : String) : Prop :=
  ∃ s, (Scope.checkSyntax scriptName source).run .fresh = .ok () s

/-- The first key of a document has a dollar sign. -/
def StartsWithOperator (d : Document) : Prop := ∃ entry ∈ d.head?, isOperatorKey entry.1 = true

def logicalKeys : List String := ["$and", "$or", "$nor"]

/-- The first key of a document is one that only queries have. -/
def StartsWithClause (d : Document) : Prop :=
  ∃ entry ∈ d.head?, entry.1 ∈ "$where" :: logicalKeys

/-- Tests of any operand. -/
def operandKeys : List String := ["$eq", "$ne", "$gt", "$gte", "$lt", "$lte", "$exists"]

/-- Tests of a list of operands. -/
def listKeys : List String := ["$in", "$nin", "$all"]

/-- A document of tests has a pattern or none. Letters are a text beside a pattern, and take
the place of those that the pattern has of its own. -/
inductive PatternPart (d : Document) : Prop
  | none : Document.get? d "$regex" = none → Document.get? d "$options" = none → PatternPart d
  | text (pattern : String) (options : Option String) :
      Document.get? d "$regex" = some (.string pattern) →
      Document.get? d "$options" = options.map .string →
      (Regex.ofText pattern (options.getD "")).Compiles → PatternPart d
  | regex (r : Regex) (options : Option String) :
      Document.get? d "$regex" = some (.regex r) →
      Document.get? d "$options" = options.map .string →
      (Regex.ofText r.pattern (options.getD r.options)).Compiles → PatternPart d

mutual

/-- A query document, where script predicates may be allowed. -/
inductive IsQuery : Bool → Document → Prop
  | intro {scripts : Bool} {d : Document} :
      (∀ entry ∈ d, IsClause scripts entry.1 entry.2) → IsQuery scripts d

inductive IsClause : Bool → String → Value → Prop
  | logical {scripts : Bool} {key : String} {queries : List Document} :
      key ∈ logicalKeys → queries ≠ [] → (∀ d ∈ queries, IsQuery scripts d) →
      IsClause scripts key (.array (queries.map .document))
  | script {source : String} : IsScript source → IsClause true "$where" (.string source)
  | comment {scripts : Bool} {v : Value} : IsClause scripts "$comment" v
  | field {scripts : Bool} {key : String} {v : Value} :
      isOperatorKey key = false → IsCondition v → IsClause scripts key v

/-- What a field may be asked for. -/
inductive IsCondition : Value → Prop
  | regex {r : Regex} : r.Compiles → IsCondition (.regex r)
  | tests {d : Document} : StartsWithOperator d → IsTests d → IsCondition (.document d)
  | literal {v : Value} : (∀ r, v ≠ .regex r) →
      (∀ d, v = .document d → ¬ StartsWithOperator d) → IsCondition v

/-- A document of tests; keys without a dollar sign say nothing. -/
inductive IsTests : Document → Prop
  | intro {d : Document} : PatternPart d →
      (∀ entry ∈ d, isOperatorKey entry.1 = true → entry.1 ≠ "$regex" →
        entry.1 ≠ "$options" → IsTest entry.1 entry.2) → IsTests d

inductive IsTest : String → Value → Prop
  | operand {key : String} {v : Value} : key ∈ operandKeys → IsTest key v
  | list {key : String} {items : List Value} : key ∈ listKeys →
      (∀ r, .regex r ∈ items → r.Compiles) → IsTest key (.array items)
  | modulo {divisor remainder : Value} {p q : ℚ} : divisor.toRat? = some p →
      remainder.toRat? = some q → 1 ≤ |p| → IsTest "$mod" (.array [divisor, remainder])
  | size {v : Value} {n : ℕ} : v.toRat? = some (n : ℚ) → IsTest "$size" v
  | not {v : Value} : IsCondition v → IsTest "$not" v
  | elementTests {d : Document} : StartsWithOperator d → ¬ StartsWithClause d → IsTests d →
      IsTest "$elemMatch" (.document d)
  | elementQuery {d : Document} : (StartsWithOperator d → StartsWithClause d) →
      IsQuery false d → IsTest "$elemMatch" (.document d)

end

end Query

/-! The grammar read backwards. -/

namespace Query

theorem isTest_iff (key : String) (v : Value) :
    IsTest key v ↔ key ∈ operandKeys ∨
      (key ∈ listKeys ∧ ∃ items, v = .array items ∧ ∀ r, .regex r ∈ items → r.Compiles) ∨
      (key = "$mod" ∧
        ∃ a b p q, v = .array [a, b] ∧ a.toRat? = some p ∧ b.toRat? = some q ∧ 1 ≤ |p|) ∨
      (key = "$size" ∧ ∃ n : ℕ, v.toRat? = some (n : ℚ)) ∨ (key = "$not" ∧ IsCondition v) ∨
      (key = "$elemMatch" ∧ ∃ d, v = .document d ∧
        (StartsWithOperator d ∧ ¬ StartsWithClause d ∧ IsTests d ∨
          (StartsWithOperator d → StartsWithClause d) ∧ IsQuery false d)) := by
  constructor
  · intro h
    cases h with
    | operand hkey => exact .inl hkey
    | list hkey hitems => exact .inr (.inl ⟨hkey, _, rfl, hitems⟩)
    | modulo hp hq hone => exact .inr (.inr (.inl ⟨rfl, _, _, _, _, rfl, hp, hq, hone⟩))
    | size hn => exact .inr (.inr (.inr (.inl ⟨rfl, _, hn⟩)))
    | not hv => exact .inr (.inr (.inr (.inr (.inl ⟨rfl, hv⟩))))
    | elementTests ho hc ht =>
      exact .inr (.inr (.inr (.inr (.inr ⟨rfl, _, rfl, .inl ⟨ho, hc, ht⟩⟩))))
    | elementQuery ho hq =>
      exact .inr (.inr (.inr (.inr (.inr ⟨rfl, _, rfl, .inr ⟨ho, hq⟩⟩))))
  · rintro (hkey | ⟨hkey, items, rfl, hitems⟩ | ⟨rfl, a, b, p, q, rfl, hp, hq, hone⟩ |
      ⟨rfl, n, hn⟩ | ⟨rfl, hv⟩ | ⟨rfl, d, rfl, ⟨ho, hc, ht⟩ | ⟨ho, hq⟩⟩)
    · exact .operand hkey
    · exact .list hkey hitems
    · exact .modulo hp hq hone
    · exact .size hn
    · exact .not hv
    · exact .elementTests ho hc ht
    · exact .elementQuery ho hq

theorem isClause_iff (scripts : Bool) (key : String) (v : Value) :
    IsClause scripts key v ↔
      (key ∈ logicalKeys ∧ ∃ queries : List Document, v = .array (queries.map .document) ∧
        queries ≠ [] ∧ ∀ d ∈ queries, IsQuery scripts d) ∨
      (key = "$where" ∧ scripts = true ∧ ∃ source, v = .string source ∧ IsScript source) ∨
      key = "$comment" ∨ (isOperatorKey key = false ∧ IsCondition v) := by
  constructor
  · intro h
    cases h with
    | logical hkey hne hall => exact .inl ⟨hkey, _, rfl, hne, hall⟩
    | script hsource => exact .inr (.inl ⟨rfl, rfl, _, rfl, hsource⟩)
    | comment => exact .inr (.inr (.inl rfl))
    | field hkey hv => exact .inr (.inr (.inr ⟨hkey, hv⟩))
  · rintro (⟨hkey, queries, rfl, hne, hall⟩ | ⟨rfl, rfl, source, rfl, hsource⟩ | rfl | ⟨hkey, hv⟩)
    · exact .logical hkey hne hall
    · exact .script hsource
    · exact .comment
    · exact .field hkey hv

theorem isCondition_regex_iff (r : Regex) : IsCondition (.regex r) ↔ r.Compiles := by
  constructor
  · intro h
    cases h with
    | regex hr => exact hr
    | literal hno _ => exact absurd rfl (hno r)
  · exact .regex

theorem isCondition_document_iff (d : Document) :
    IsCondition (.document d) ↔ (StartsWithOperator d → IsTests d) := by
  constructor
  · intro h ho
    cases h with
    | tests _ ht => exact ht
    | literal _ hno => exact absurd ho (hno d rfl)
  · intro h
    by_cases ho : StartsWithOperator d
    · exact .tests ho (h ho)
    · refine .literal (by simp) ?_
      rintro _ ⟨⟩
      exact ho

theorem isQuery_iff (scripts : Bool) (d : Document) :
    IsQuery scripts d ↔ ∀ entry ∈ d, IsClause scripts entry.1 entry.2 :=
  ⟨fun ⟨h⟩ => h, .intro⟩

theorem isTests_iff (d : Document) :
    IsTests d ↔ PatternPart d ∧ ∀ entry ∈ d, isOperatorKey entry.1 = true →
      entry.1 ≠ "$regex" → entry.1 ≠ "$options" → IsTest entry.1 entry.2 :=
  ⟨fun ⟨hp, h⟩ => ⟨hp, h⟩, fun ⟨hp, h⟩ => .intro hp h⟩

theorem startsWithOperator_iff (d : Document) :
    StartsWithOperator d ↔ FieldTest.isOperators d = true := by
  cases d <;> simp [StartsWithOperator, FieldTest.isOperators]

theorem startsWithClause_iff (d : Document) :
    StartsWithClause d ↔ FieldTest.isLogical d = true := by
  cases d with
  | nil => simp [StartsWithClause, FieldTest.isLogical]
  | cons entry rest =>
    obtain ⟨key, v⟩ := entry
    simp only [StartsWithClause, FieldTest.isLogical, QueryKey.ofText, logicalKeys, List.head?_cons]
    split_ifs <;> simp_all

instance (d : Document) : Decidable (StartsWithOperator d) :=
  decidable_of_iff' _ (startsWithOperator_iff d)

instance (d : Document) : Decidable (StartsWithClause d) :=
  decidable_of_iff' _ (startsWithClause_iff d)

end Query

/-! What the keys stand for. -/

namespace Query

/-- The tests that a key stands for. -/
inductive Spelt : String → TestKey → Prop
  | equal : Spelt "$eq" .equal
  | notEqual : Spelt "$ne" .notEqual
  | greater : Spelt "$gt" (.related .greater)
  | greaterEqual : Spelt "$gte" (.related .greaterEqual)
  | less : Spelt "$lt" (.related .less)
  | lessEqual : Spelt "$lte" (.related .lessEqual)
  | isIn : Spelt "$in" .isIn
  | notIn : Spelt "$nin" .notIn
  | all : Spelt "$all" .all
  | present : Spelt "$exists" .present
  | modulo : Spelt "$mod" .modulo
  | size : Spelt "$size" .size
  | not : Spelt "$not" .not
  | elemMatch : Spelt "$elemMatch" .elemMatch
  | regex {key : String} : key = "$regex" ∨ key = "$options" → Spelt key .regex
  | unknown {key : String} : isOperatorKey key = true →
      key ∉ operandKeys ++ listKeys ++ ["$mod", "$size", "$not", "$elemMatch"] →
      key ≠ "$regex" → key ≠ "$options" → Spelt key .unknown
  | ignored {key : String} : isOperatorKey key = false → Spelt key .ignored

theorem spelt_ofText (key : String) : Spelt key (TestKey.ofText key) := by
  have step {c : Prop} [Decidable c] {k k' : TestKey} (hpos : c → Spelt key k)
      (hneg : ¬ c → Spelt key k') : Spelt key (if c then k else k') := iteInduction hpos hneg
  unfold TestKey.ofText
  refine step (by rintro rfl; exact .equal) fun h1 => ?_
  refine step (by rintro rfl; exact .notEqual) fun h2 => ?_
  refine step (by rintro rfl; exact .greater) fun h3 => ?_
  refine step (by rintro rfl; exact .greaterEqual) fun h4 => ?_
  refine step (by rintro rfl; exact .less) fun h5 => ?_
  refine step (by rintro rfl; exact .lessEqual) fun h6 => ?_
  refine step (by rintro rfl; exact .isIn) fun h7 => ?_
  refine step (by rintro rfl; exact .notIn) fun h8 => ?_
  refine step (by rintro rfl; exact .all) fun h9 => ?_
  refine step (by rintro rfl; exact .present) fun h10 => ?_
  refine step (by rintro rfl; exact .modulo) fun h11 => ?_
  refine step (by rintro rfl; exact .size) fun h12 => ?_
  refine step (by rintro rfl; exact .not) fun h13 => ?_
  refine step (by rintro rfl; exact .elemMatch) fun h14 => ?_
  refine step .regex fun hregex => ?_
  refine step (fun ho => .unknown ho ?_ (mt .inl hregex) (mt .inr hregex)) fun ho =>
    .ignored (Bool.eq_false_iff.mpr ho)
  simp only [operandKeys, listKeys, List.cons_append, List.nil_append, List.mem_cons,
    List.not_mem_nil, not_or]
  exact ⟨h1, h2, h3, h4, h5, h6, h10, h7, h8, h9, h11, h12, h13, h14, not_false⟩

theorem isOperatorKey_of_mem (key : String) (h : key ∈ operandKeys ++ listKeys ++
    ["$mod", "$size", "$not", "$elemMatch", "$regex", "$options"]) : isOperatorKey key = true := by
  revert key
  decide

/-- The clauses that a key of a query stands for. -/
inductive SpeltClause : String → QueryKey → Prop
  | and : SpeltClause "$and" .and
  | or : SpeltClause "$or" .or
  | nor : SpeltClause "$nor" .nor
  | script : SpeltClause "$where" .script
  | comment : SpeltClause "$comment" .comment
  | unknown {key : String} : isOperatorKey key = true → key ∉ logicalKeys → key ≠ "$where" →
      key ≠ "$comment" → SpeltClause key .unknown
  | field {key : String} : isOperatorKey key = false → SpeltClause key .field

theorem speltClause_ofText (key : String) : SpeltClause key (QueryKey.ofText key) := by
  have step {c : Prop} [Decidable c] {k k' : QueryKey} (hpos : c → SpeltClause key k)
      (hneg : ¬ c → SpeltClause key k') : SpeltClause key (if c then k else k') :=
    iteInduction hpos hneg
  unfold QueryKey.ofText
  refine step (by rintro rfl; exact .and) fun h1 => ?_
  refine step (by rintro rfl; exact .or) fun h2 => ?_
  refine step (by rintro rfl; exact .nor) fun h3 => ?_
  refine step (by rintro rfl; exact .script) fun hscript => ?_
  refine step (by rintro rfl; exact .comment) fun hcomment => ?_
  refine step (fun ho => .unknown ho ?_ hscript hcomment) fun ho =>
    .field (Bool.eq_false_iff.mpr ho)
  simp [logicalKeys, h1, h2, h3]

theorem isOperatorKey_of_mem_logicalKeys (key : String)
    (h : key ∈ logicalKeys ++ ["$where", "$comment"]) : isOperatorKey key = true := by
  revert key
  decide

theorem isTest_elemMatch_iff (v : Value) :
    IsTest "$elemMatch" v ↔ ∃ d, v = .document d ∧
      (StartsWithOperator d ∧ ¬ StartsWithClause d ∧ IsTests d ∨
        (StartsWithOperator d → StartsWithClause d) ∧ IsQuery false d) := by
  simp [isTest_iff, operandKeys, listKeys]

theorem isClause_logical_iff (scripts : Bool) (key : String) (hkey : key ∈ logicalKeys)
    (v : Value) :
    IsClause scripts key v ↔ ∃ queries : List Document, v = .array (queries.map .document) ∧
      queries ≠ [] ∧ ∀ d ∈ queries, IsQuery scripts d := by
  have ho := isOperatorKey_of_mem_logicalKeys key (List.mem_append_left _ hkey)
  have hscript : key ≠ "$where" := by rintro rfl; revert hkey; decide
  have hcomment : key ≠ "$comment" := by rintro rfl; revert hkey; decide
  simp [isClause_iff, hkey, ho, hscript, hcomment]

end Query

end Docbase
