import Docbase.Proofs.Query.Grammar

/-!
The compiler of queries accepts exactly what the grammar derives, at every depth.
-/
namespace Docbase

/-! The parts that a document of tests has. -/

namespace FieldTest

open Query

theorem letters_of_regexOf? (d : Document) (r : Option CompiledRegex)
    (h : regexOf? d = .ok r) :
    ∃ options : Option String, Document.get? d "$options" = options.map .string := by
  unfold regexOf? at h
  split at h
  · next hnone => exact ⟨none, hnone⟩
  · next letters hsome => exact ⟨some letters, hsome⟩
  · simp [malformed, bind, Except.bind] at h

/-- With its letters at hand, a document of tests has no pattern, or one that compiles. -/
theorem regexOf?_eq_ok_iff (d : Document) (options : Option String)
    (ho : Document.get? d "$options" = options.map .string) (found : Option CompiledRegex) :
    regexOf? d = .ok found ↔
      (Document.get? d "$regex" = none ∧ options = none ∧ none = found) ∨
      (∃ pattern c, Document.get? d "$regex" = some (.string pattern) ∧
        compileRegex (Regex.ofText pattern (options.getD "")) = .ok c ∧ some c = found) ∨
      (∃ r c, Document.get? d "$regex" = some (.regex r) ∧
        compileRegex (Regex.ofText r.pattern (options.getD r.options)) = .ok c ∧
        some c = found) := by
  unfold regexOf?
  rw [ho]
  cases hvalue : Document.get? d "$regex" with
  | none => cases options <;> simp [malformed, pure_eq_ok_iff]
  | some v =>
    cases options <;> cases v <;> simp [malformed, map_eq_ok_iff]

theorem regexOf?_succeeds_iff (d : Document) : (∃ r, regexOf? d = .ok r) ↔ PatternPart d := by
  constructor
  · rintro ⟨found, h⟩
    obtain ⟨options, ho⟩ := letters_of_regexOf? d found h
    rcases (regexOf?_eq_ok_iff d options ho found).mp h with
      ⟨hr, rfl, -⟩ | ⟨pattern, c, hr, hc, -⟩ | ⟨r, c, hr, hc, -⟩
    · exact .none hr ho
    · exact .text pattern options hr ho ((compileRegex_succeeds_iff _).mp ⟨c, hc⟩)
    · exact .regex r options hr ho ((compileRegex_succeeds_iff _).mp ⟨c, hc⟩)
  · intro h
    cases h with
    | none hr ho => exact ⟨none, (regexOf?_eq_ok_iff d none ho none).mpr (.inl ⟨hr, rfl, rfl⟩)⟩
    | text pattern options hr ho hcompiles =>
      obtain ⟨c, hc⟩ := (compileRegex_succeeds_iff _).mpr hcompiles
      exact ⟨some c, (regexOf?_eq_ok_iff d options ho _).mpr
        (.inr (.inl ⟨pattern, c, hr, hc, rfl⟩))⟩
    | regex r options hr ho hcompiles =>
      obtain ⟨c, hc⟩ := (compileRegex_succeeds_iff _).mpr hcompiles
      exact ⟨some c, (regexOf?_eq_ok_iff d options ho _).mpr (.inr (.inr ⟨r, c, hr, hc, rfl⟩))⟩

/-- Without a compiled pattern neither of its two keys is there. -/
theorem get?_of_regexOf?_eq_none (d : Document) (h : regexOf? d = .ok none) :
    Document.get? d "$regex" = none ∧ Document.get? d "$options" = none := by
  obtain ⟨options, ho⟩ := letters_of_regexOf? d none h
  rcases (regexOf?_eq_ok_iff d options ho none).mp h with
    ⟨hr, rfl, -⟩ | ⟨_, _, _, _, hsome⟩ | ⟨_, _, _, _, hsome⟩
  · exact ⟨hr, ho⟩
  · cases hsome
  · cases hsome

end FieldTest

/-! The compiler and the grammar. -/

namespace Query

/-- Every part of the compiler accepts a value exactly when the grammar does. -/
structure Decided (v : Value) : Prop where
  condition : (∃ t, FieldTest.compile v = .ok t) ↔ IsCondition v
  element : (∃ t, FieldTest.compileElement v = .ok t) ↔ IsTest "$elemMatch" v
  members : ∀ scripts key, key ∈ logicalKeys →
    ((∃ fs, Filter.compileMembers scripts key v = .ok fs) ↔ IsClause scripts key v)
  query : ∀ d, v = .document d → ∀ scripts,
    ((∃ fs, Filter.compileFields scripts d = .ok fs) ↔ IsQuery scripts d)

theorem compileAll_entry_iff (key : String) (v : Value) (h : Decided v) :
    (∃ ts, FieldTest.compileAll [(key, v)] = .ok ts) ↔
      (isOperatorKey key = true → key ≠ "$regex" → key ≠ "$options" → IsTest key v) := by
  rw [FieldTest.compileAll, isTest_iff]
  have hspelt := spelt_ofText key
  generalize TestKey.ofText key = k at hspelt
  have tail : FieldTest.compileAll [] = .ok [] := rfl
  have operators := isOperatorKey_of_mem key
  cases hspelt with
  | equal | notEqual | greater | greaterEqual | less | lessEqual | present =>
    simp [tail, operandKeys]
  | isIn | notIn | all =>
    simp [tail, operators (by decide), operandKeys, listKeys, bind_eq_ok_iff,
      FieldTest.operandsOf_succeeds_iff]
  | modulo =>
    rw [operators (by decide), ← FieldTest.moduloOf_succeeds_iff]
    simp [tail, operandKeys, listKeys, bind_eq_ok_iff]
  | size =>
    rw [operators (by decide), ← FieldTest.sizeOf?_isSome_iff]
    cases FieldTest.sizeOf? v <;> simp [tail, operandKeys, listKeys, bind_eq_ok_iff]
  | not =>
    rw [operators (by decide), ← h.condition]
    simp [tail, operandKeys, listKeys, bind_eq_ok_iff]
  | elemMatch =>
    have helement := h.element
    rw [isTest_iff] at helement
    rw [operators (by decide), ← helement]
    simp [tail, bind_eq_ok_iff]
  | regex hkey => rcases hkey with rfl | rfl <;> simp [tail]
  | unknown ho hno hregex hoptions =>
    simp_all [bind_eq_ok_iff]
  | ignored ho => simp [tail, ho]

/-- The test of an entry, by what has been compiled for it. -/
inductive TestOf (v : Value) : FieldTest → Prop
  | equal : TestOf v (.equal v)
  | notEqual : TestOf v (.notEqual v)
  | related (relation : Relation) : TestOf v (.related relation v)
  | isIn (operands : List Operand) : TestOf v (.isIn operands)
  | notIn (operands : List Operand) : TestOf v (.notIn operands)
  | all (operands : List Operand) : TestOf v (.all operands)
  | present (wanted : Bool) : TestOf v (.present wanted)
  | size (n : ℕ) : TestOf v (.size n)
  | modulo {t : FieldTest} : FieldTest.moduloOf v = .ok t → TestOf v t
  | not {t : FieldTest} : FieldTest.compile v = .ok t → TestOf v (.not t)
  | element {t : FieldTest} : FieldTest.compileElement v = .ok t → TestOf v t

/-- An entry has one test, or none because it says nothing or belongs to the pattern. -/
theorem compileAll_entry_eq_ok (key : String) (v : Value) (ts : List FieldTest)
    (h : FieldTest.compileAll [(key, v)] = .ok ts) :
    (ts = [] ∧ (isOperatorKey key = true → key = "$regex" ∨ key = "$options")) ∨
      ∃ t, ts = [t] ∧ TestOf v t := by
  rw [FieldTest.compileAll] at h
  have hspelt := spelt_ofText key
  have tail : FieldTest.compileAll [] = .ok [] := rfl
  generalize TestKey.ofText key = k at hspelt h
  cases hspelt with
  | regex hkey =>
    left
    simp_all
  | ignored hno =>
    left
    simp_all
  | unknown => simp [bind_eq_ok_iff] at h
  | size =>
    cases hsize : FieldTest.sizeOf? v with
    | none => simp [hsize, bind_eq_ok_iff] at h
    | some n =>
      simp [hsize, tail] at h
      exact .inr ⟨_, h.symm, .size n⟩
  | equal =>
    simp [tail] at h
    exact .inr ⟨_, h.symm, .equal⟩
  | notEqual =>
    simp [tail] at h
    exact .inr ⟨_, h.symm, .notEqual⟩
  | greater | greaterEqual | less | lessEqual =>
    simp [tail] at h
    exact .inr ⟨_, h.symm, .related _⟩
  | present =>
    simp [tail] at h
    exact .inr ⟨_, h.symm, .present _⟩
  | isIn =>
    simp [tail, bind_eq_ok_iff] at h
    obtain ⟨operands, -, rfl⟩ := h
    exact .inr ⟨_, rfl, .isIn operands⟩
  | notIn =>
    simp [tail, bind_eq_ok_iff] at h
    obtain ⟨operands, -, rfl⟩ := h
    exact .inr ⟨_, rfl, .notIn operands⟩
  | all =>
    simp [tail, bind_eq_ok_iff] at h
    obtain ⟨operands, -, rfl⟩ := h
    exact .inr ⟨_, rfl, .all operands⟩
  | modulo =>
    simp [tail, bind_eq_ok_iff] at h
    obtain ⟨t, ht, rfl⟩ := h
    exact .inr ⟨_, rfl, .modulo ht⟩
  | not =>
    simp [tail, bind_eq_ok_iff] at h
    obtain ⟨t, ht, rfl⟩ := h
    exact .inr ⟨_, rfl, .not ht⟩
  | elemMatch =>
    simp [tail, bind_eq_ok_iff] at h
    obtain ⟨t, ht, rfl⟩ := h
    exact .inr ⟨_, rfl, .element ht⟩

theorem compileAll_succeeds_iff (d : Document) (h : ∀ entry ∈ d, Decided entry.2) :
    (∃ ts, FieldTest.compileAll d = .ok ts) ↔ ∀ entry ∈ d, isOperatorKey entry.1 = true →
      entry.1 ≠ "$regex" → entry.1 ≠ "$options" → IsTest entry.1 entry.2 := by
  rw [FieldTest.compileAll_byEntry.succeeds_iff]
  exact forall₂_congr fun entry hentry => compileAll_entry_iff entry.1 entry.2 (h entry hentry)

theorem combine_succeeds_iff (regex : Option CompiledRegex) (ts : List FieldTest) :
    (∃ t, FieldTest.combine regex ts = .ok t) ↔ (regex = none → ts ≠ []) := by
  cases regex with
  | none =>
    rcases ts with _ | ⟨t, _ | ⟨t', rest⟩⟩ <;>
      simp [FieldTest.combine, FieldTest.malformed, pure_eq_ok_iff]
  | some c => cases ts <;> simp [FieldTest.combine, pure_eq_ok_iff]

/-- A document that starts with an operator is never empty of tests. -/
theorem says_something (d : Document) (hstart : StartsWithOperator d)
    (regex : Option CompiledRegex) (hregex : FieldTest.regexOf? d = .ok regex)
    (ts : List FieldTest) (hts : FieldTest.compileAll d = .ok ts) : regex = none → ts ≠ [] := by
  rintro rfl
  obtain ⟨hr, ho⟩ := FieldTest.get?_of_regexOf?_eq_none d hregex
  obtain ⟨⟨key, v⟩, hhead, hkey⟩ := hstart
  obtain ⟨rest, rfl⟩ := List.head?_eq_some_iff.mp hhead
  rw [FieldTest.compileAll_byEntry.cons, append_eq_ok_iff] at hts
  obtain ⟨here, more, hhere, -, rfl⟩ := hts
  rcases compileAll_entry_eq_ok key v here hhere with ⟨-, hpattern⟩ | ⟨t, rfl, -⟩
  · rcases hpattern hkey with rfl | rfl
    · simp [Document.get?] at hr
    · simp [Document.get?] at ho
  · simp

theorem tests_succeed_iff (d : Document) (hstart : StartsWithOperator d)
    (h : ∀ entry ∈ d, Decided entry.2) :
    (∃ t, (do let regex ← FieldTest.regexOf? d
              FieldTest.combine regex (← FieldTest.compileAll d)) = .ok t) ↔ IsTests d := by
  rw [isTests_iff, ← FieldTest.regexOf?_succeeds_iff, ← compileAll_succeeds_iff d h]
  simp only [bind_eq_ok_iff]
  constructor
  · rintro ⟨t, regex, hregex, ts, hts, -⟩
    exact ⟨⟨regex, hregex⟩, ts, hts⟩
  · rintro ⟨⟨regex, hregex⟩, ts, hts⟩
    obtain ⟨t, ht⟩ := (combine_succeeds_iff regex ts).mpr
      (says_something d hstart regex hregex ts hts)
    exact ⟨t, regex, hregex, ts, hts, ht⟩

theorem ofScript_succeeds_iff (source : String) :
    (∃ f, Filter.ofScript source = .ok f) ↔ IsScript source := by
  unfold Filter.ofScript IsScript
  cases (Scope.checkSyntax scriptName source).run .fresh with
  | ok u s => simp
  | error failure s => simp

theorem compileFields_entry_iff (scripts : Bool) (key : String) (v : Value) (h : Decided v) :
    (∃ fs, Filter.compileFields scripts [(key, v)] = .ok fs) ↔ IsClause scripts key v := by
  rw [Filter.compileFields.eq_def, isClause_iff]
  dsimp only
  have hspelt := speltClause_ofText key
  generalize QueryKey.ofText key = k at hspelt
  have tail : Filter.compileFields scripts [] = .ok [] := rfl
  have operators := isOperatorKey_of_mem_logicalKeys key
  have members := h.members scripts key
  rw [isClause_iff] at members
  cases hspelt with
  | and | or | nor =>
    rw [← members (by decide)]
    simp [tail, bind_eq_ok_iff]
  | script =>
    rw [operators (by decide)]
    cases scripts with
    | false => simp [logicalKeys, bind_eq_ok_iff]
    | true =>
      cases v with
      | string source => simp [tail, logicalKeys, bind_eq_ok_iff, ofScript_succeeds_iff]
      | _ => simp [logicalKeys, bind_eq_ok_iff]
  | comment => simp [tail]
  | unknown ho hlogical hscript hcomment => simp_all [bind_eq_ok_iff]
  | field ho =>
    rw [← h.condition]
    have hlogical : key ∉ logicalKeys := fun hmem => by simp_all
    have hscript : key ≠ "$where" := fun hmem => by simp_all
    have hcomment : key ≠ "$comment" := fun hmem => by simp_all
    simp [tail, ho, hlogical, hscript, hcomment, bind_eq_ok_iff]

theorem compileFields_succeeds_iff (scripts : Bool) (d : Document)
    (h : ∀ entry ∈ d, Decided entry.2) :
    (∃ fs, Filter.compileFields scripts d = .ok fs) ↔ IsQuery scripts d := by
  rw [(Filter.compileFields_byEntry scripts).succeeds_iff, isQuery_iff]
  exact forall₂_congr fun entry hentry =>
    compileFields_entry_iff scripts entry.1 entry.2 (h entry hentry)

theorem compileItems_item_iff (scripts : Bool) (key : String) (v : Value) (h : Decided v) :
    (∃ fs, Filter.compileItems scripts key [v] = .ok fs) ↔
      ∃ d, v = .document d ∧ IsQuery scripts d := by
  cases v with
  | document d =>
    have hquery := h.query d rfl scripts
    simp [Filter.compileItems, map_eq_ok_iff, hquery]
  | _ => simp [Filter.compileItems]

/-- The members that compile are those that are queries, one and all. -/
theorem compileItems_succeeds_iff (scripts : Bool) (key : String) (items : List Value)
    (h : ∀ v ∈ items, Decided v) :
    (∃ fs, Filter.compileItems scripts key items = .ok fs) ↔
      ∃ queries : List Document, items = queries.map .document ∧
        ∀ d ∈ queries, IsQuery scripts d := by
  rw [(Filter.compileItems_byEntry scripts key).succeeds_iff]
  rw [forall₂_congr fun v hv => compileItems_item_iff scripts key v (h v hv)]
  constructor
  · intro hall
    choose! query hquery hgood using hall
    refine ⟨items.map query, ?_, by simpa using hgood⟩
    calc items = items.map id := (List.map_id items).symm
      _ = items.map (.document ∘ query) := List.map_congr_left hquery
      _ = (items.map query).map .document := List.map_map.symm
  · rintro ⟨queries, rfl, hgood⟩ v hv
    obtain ⟨d, hd, rfl⟩ := List.mem_map.mp hv
    exact ⟨d, rfl, hgood d hd⟩

/-- What an element is asked for is compiled like the rest of a query: as tests, or as a
query that holds no scripts. -/
theorem compileElement_document_eq (d : Document) :
    FieldTest.compileElement (.document d) =
      if StartsWithOperator d ∧ ¬ StartsWithClause d then
        FieldTest.element <$> (do let regex ← FieldTest.regexOf? d
                                  FieldTest.combine regex (← FieldTest.compileAll d))
      else (.elementQuery ∘ Filter.combine) <$> Filter.compileFields false d := by
  have hkinds : (FieldTest.isOperators d && !FieldTest.isLogical d) = true ↔
      StartsWithOperator d ∧ ¬ StartsWithClause d := by
    rw [startsWithOperator_iff, startsWithClause_iff, Bool.and_eq_true, Bool.not_eq_true',
      Bool.not_eq_true]
  rw [FieldTest.compileElement]
  simp only [hkinds, map_bind]
  rfl

theorem decided_document (d : Document) (h : ∀ entry ∈ d, Decided entry.2) :
    Decided (.document d) where
  condition := by
    rw [isCondition_document_iff, FieldTest.compile]
    by_cases hstart : StartsWithOperator d
    · rw [if_pos ((startsWithOperator_iff d).mp hstart), tests_succeed_iff d hstart h]
      simp [hstart]
    · rw [if_neg (mt (startsWithOperator_iff d).mpr hstart)]
      simp [hstart, pure_eq_ok_iff]
  element := by
    rw [isTest_elemMatch_iff, compileElement_document_eq]
    have hquery := compileFields_succeeds_iff false d h
    by_cases htests : StartsWithOperator d ∧ ¬ StartsWithClause d
    · have hsucceeds := tests_succeed_iff d htests.1 h
      rw [if_pos htests, map_succeeds_iff, hsucceeds]
      simp [htests]
    · have himp : StartsWithOperator d → StartsWithClause d := not_and_not_right.mp htests
      have hno : ¬ (StartsWithOperator d ∧ ¬ StartsWithClause d ∧ IsTests d) :=
        fun ⟨ho, hc, _⟩ => htests ⟨ho, hc⟩
      rw [if_neg htests, map_succeeds_iff, hquery]
      constructor
      · exact fun hq => ⟨d, rfl, .inr ⟨himp, hq⟩⟩
      · rintro ⟨_, ⟨⟩, htests | ⟨-, hq⟩⟩
        · exact absurd htests hno
        · exact hq
  members scripts key hkey := by
    rw [isClause_logical_iff scripts key hkey]
    simp [Filter.compileMembers]
  query := by
    rintro _ ⟨⟩ scripts
    exact compileFields_succeeds_iff scripts d h

theorem decided_array (items : List Value) (h : ∀ v ∈ items, Decided v) :
    Decided (.array items) where
  condition := ⟨fun _ => .literal (by simp) (by simp), fun _ => ⟨_, rfl⟩⟩
  element := by simp [isTest_elemMatch_iff, FieldTest.compileElement]
  members scripts key hkey := by
    rw [isClause_logical_iff scripts key hkey]
    cases items with
    | nil =>
      simp [Filter.compileMembers]
    | cons v rest =>
      rw [Filter.compileMembers, compileItems_succeeds_iff scripts key _ h]
      constructor
      · rintro ⟨queries, hqueries, hgood⟩
        exact ⟨queries, congrArg _ hqueries, by rintro rfl; simp at hqueries, hgood⟩
      · rintro ⟨queries, hqueries, -, hgood⟩
        exact ⟨queries, Value.array.inj hqueries, hgood⟩
      simp
  query := by simp

theorem decided_other (v : Value) (hr : ∀ r, v ≠ .regex r) (hd : ∀ d, v ≠ .document d)
    (ha : ∀ items, v ≠ .array items) : Decided v where
  condition := ⟨fun _ => .literal hr (fun d h => absurd h (hd d)), fun _ => by
    cases v <;> simp_all [FieldTest.compile, pure_eq_ok_iff]⟩
  element := by
    rw [isTest_elemMatch_iff]
    cases v <;> simp_all [FieldTest.compileElement]
  members scripts key hkey := by
    rw [isClause_logical_iff scripts key hkey]
    cases v <;> simp_all [Filter.compileMembers]
  query d hv := absurd hv (hd d)

theorem decided_regex (r : Regex) : Decided (.regex r) where
  condition := by
    rw [isCondition_regex_iff, ← FieldTest.compileRegex_succeeds_iff]
    simp [FieldTest.compile, map_eq_ok_iff]
  element := by simp [isTest_elemMatch_iff, FieldTest.compileElement]
  members scripts key hkey := by
    simp [isClause_logical_iff scripts key hkey, Filter.compileMembers]
  query := by simp

theorem decided (v : Value) : Decided v := by
  induction v using Value.nested_induction with
  | document d h => exact decided_document d h
  | array items h => exact decided_array items h
  | reference => exact decided_other _ (by simp) (by simp) (by simp)
  | scalar v h =>
    cases v with
    | regex r => exact decided_regex r
    | document | array | reference => cases h
    | _ => exact decided_other _ (by simp) (by simp) (by simp)

/-- A query compiles exactly when it follows the grammar, scripts allowed at the top. -/
theorem compiles_iff_isQuery (query : Document) :
    (∃ f, Filter.compile query = .ok f) ↔ IsQuery true query := by
  rw [← compileFields_succeeds_iff true query fun entry _ => decided entry.2]
  simp [Filter.compile, map_eq_ok_iff]

end Query

end Docbase
