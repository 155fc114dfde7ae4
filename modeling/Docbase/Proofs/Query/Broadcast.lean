import Docbase.Proofs.Query.Congruence
import Docbase.Proofs.Query.Range
import Docbase.Proofs.Query.Remainder
import Docbase.Proofs.Value.Path

/-!
A condition on the elements of an array, asked through a path and asked of each element. The path
pools what it reaches in all elements, and the query of an element looks at one alone; for a test
that passes when one value does, apart from the others, both find the same documents.
-/
namespace Docbase

namespace FieldTest

/-- The test passes when one of the values does, whatever the others are. -/
def Apart (t : FieldTest) : Prop :=
  ∃ p : Value → Bool, ∀ resolved, t.holds resolved = .ok (resolved.any p)

/-- A test that null does not pass looks at the values and at the elements of each. -/
theorem apart_of_candidates (t : FieldTest) (p : Value → Bool) (hnull : p .null = false)
    (h : ∀ resolved, t.holds resolved = .ok ((candidates resolved).any p)) : t.Apart := by
  refine ⟨fun v => p v || v.itemsOf.any p, fun resolved => ?_⟩
  rw [h, candidates_eq]
  cases resolved with
  | nil =>
    -- Null stands for no value, and does not pass.
    simp [hnull]
  | cons v rest => simp [List.any_flatMap, Bool.or_assoc]

theorem apart_equal (v : Value) (hv : v ≠ .null) : (FieldTest.equal v).Apart := by
  refine apart_of_candidates _ (fun w => w.equal v) ?_ fun _ => rfl
  cases v with
  | null => exact absurd rfl hv
  | _ => rfl

/-- The lowest and the highest value are related to null as to everything. -/
theorem apart_related (r : Relation) (v : Value) (hv : v ∉ [.null, .minKey, .maxKey]) :
    (FieldTest.related r v).Apart := by
  refine apart_of_candidates _ (r.holds v) ?_ fun _ => rfl
  cases v with
  | null | minKey | maxKey => simp at hv
  | _ => rfl

theorem apart_modulo (divisor remainder : Int64) : (FieldTest.modulo divisor remainder).Apart :=
  apart_of_candidates _ (hasRemainder divisor remainder) rfl fun _ => rfl

theorem apart_size (n : ℕ) : (FieldTest.size n).Apart := ⟨Value.hasSize n, fun _ => rfl⟩

theorem apart_regex (c : CompiledRegex) : (FieldTest.regex c).Apart :=
  apart_of_candidates _ c.accepts rfl fun _ => rfl

end FieldTest

namespace Query

theorem compile_size_eq_ok (v : Value) (t : FieldTest)
    (h : FieldTest.compile (.document [("$size", v)]) = .ok t) : ∃ n, t = .size n := by
  rw [FieldTest.compile, FieldTest.compileAll, show TestKey.ofText "$size" = .size by decide] at h
  cases hsize : FieldTest.sizeOf? v with
  | none =>
    rw [hsize] at h
    cases h
  | some n =>
    rw [hsize] at h
    exact ⟨n, (Except.ok.inj h).symm⟩

theorem compile_regex_eq_ok (v : Value) (t : FieldTest)
    (h : FieldTest.compile (.document [("$regex", v)]) = .ok t) : ∃ c, t = .regex c := by
  have hcompile : FieldTest.compile (.document [("$regex", v)]) =
      FieldTest.regexOf? [("$regex", v)] >>= fun regex => FieldTest.combine regex [] := by
    rw [FieldTest.compile]
    rfl
  rw [hcompile] at h
  obtain ⟨regex, -, hcombine⟩ := (bind_eq_ok_iff _ _ _).mp h
  cases regex with
  | none => cases hcombine
  | some c => exact ⟨c, (Except.ok.inj hcombine).symm⟩

/-- The operators that ask something of one value at a time. -/
def singleOperators : List String :=
  ["$eq", "$gt", "$gte", "$lt", "$lte", "$mod", "$size", "$regex"]

theorem apart_of_compile (op : String) (hop : op ∈ singleOperators) (v : Value)
    (hv : v ∉ [.null, .minKey, .maxKey]) (t : FieldTest)
    (h : FieldTest.compile (.document [(op, v)]) = .ok t) : t.Apart := by
  have hrange {o : String} {r : Relation} (ho : RangeTest o r)
      (h : FieldTest.compile (.document [(o, v)]) = .ok t) : t.Apart := by
    rw [compile_rangeTest ho, Except.ok.injEq] at h
    exact h ▸ FieldTest.apart_related r v hv
  simp only [singleOperators, List.mem_cons, List.not_mem_nil, or_false] at hop
  rcases hop with rfl | rfl | rfl | rfl | rfl | rfl | rfl | rfl
  · rw [compile_equal, Except.ok.injEq] at h
    exact h ▸ FieldTest.apart_equal v fun hnull => hv (by simp [hnull])
  · exact hrange .greater h
  · exact hrange .greaterEqual h
  · exact hrange .less h
  · exact hrange .lessEqual h
  · rw [compile_modulo] at h
    obtain ⟨_, _, i, j, -, -, -, -, rfl⟩ := (FieldTest.moduloOf_eq_ok_iff v t).mp h
    exact FieldTest.apart_modulo i j
  · obtain ⟨n, rfl⟩ := compile_size_eq_ok v t h
    exact FieldTest.apart_size n
  · obtain ⟨c, rfl⟩ := compile_regex_eq_ok v t h
    exact FieldTest.apart_regex c

/-! Through the elements of an array. -/

/-- What a path reaches in an element, if that is a document. -/
def reachedIn (path : Path) : Value → List Value
  | .document e => path.resolveIn e
  | _ => []

theorem any_reachedIn_iff (path : Path) (p : Value → Bool) (items : List Value) :
    (items.any fun v => (reachedIn path v).any p) = true ↔
      ∃ e, .document e ∈ items ∧ (path.resolveIn e).any p = true := by
  rw [List.any_eq_true]
  constructor
  · rintro ⟨v, hv, hpasses⟩
    cases v with
    | document e => exact ⟨e, hv, hpasses⟩
    | _ => cases hpasses
  · rintro ⟨e, he, hpasses⟩
    exact ⟨.document e, he, hpasses⟩

/-- The path of a field that has an array passes through it, and reaches what the rest of the path
reaches in the elements. -/
theorem resolveIn_elements (f head : String) (rest : List String) (d : Document)
    (items : List Value) (hd : Document.get? d f = some (.array items))
    (hindex : Path.index? head = none) (hid : head ≠ "$id") :
    Path.resolveIn ⟨f :: head :: rest⟩ d = items.flatMap (reachedIn ⟨head :: rest⟩) := by
  have hpassed : Path.passed (head :: rest) = reachedIn ⟨head :: rest⟩ := by
    funext v
    cases v with
    | reference =>
      -- The id is all that a path reaches in a reference.
      exact if_neg hid
    | _ => rfl
  rw [← hpassed, ← Path.resolveEach_eq]
  change Path.resolveField f (head :: rest) d = _
  rw [Path.resolveField_eq, hd, Option.toList_some, List.flatMap_singleton, Path.resolve, hindex]

theorem anyHolds_ok {ε α : Type} (test : α → Bool) (as : List α) :
    anyHolds (fun a => (.ok (test a) : Except ε Bool)) as = .ok (as.any test) := by
  rw [← anyM_eq]
  exact List.anyM_pure

/-- A test that looks at one value at a time finds in the pool of all elements what it finds in
one of them. -/
theorem broadcast_agrees (t : FieldTest) (ht : t.Apart) (f head : String) (rest : List String)
    (d : Document) (items : List Value) (hd : Document.get? d f = some (.array items))
    (hindex : Path.index? head = none) (hid : head ≠ "$id") :
    ∃ b, (Filter.field ⟨f :: head :: rest⟩ t).matches d = .ok b ∧
      (Filter.field ⟨[f]⟩ (.elementQuery (.field ⟨head :: rest⟩ t))).matches d = .ok b ∧
      (b = true ↔ ∃ e, .document e ∈ items ∧
        (Filter.field ⟨head :: rest⟩ t).matches e = .ok true) := by
  obtain ⟨p, hp⟩ := ht
  refine ⟨items.any fun v => (reachedIn ⟨head :: rest⟩ v).any p, ?_, ?_, ?_⟩
  · rw [Filter.matches_field, hp, resolveIn_elements f head rest d items hd hindex hid,
      List.any_flatMap]
  · have helements : elements [.array items] = items := List.append_nil items
    rw [Filter.matches_field, Path.resolveIn_field, hd, Option.toList_some,
      FieldTest.holds_elementQuery, helements, ← anyHolds_ok]
    congr 1
    funext v
    cases v with
    | document e => exact hp _
    | _ => rfl
  · simp only [any_reachedIn_iff, Filter.matches_field, hp, Except.ok.injEq]

/-! Compiled queries. -/

/-- A path is marked as an operator when its first segment is. -/
theorem isOperatorKey_of_segments (g head : String) (rest : List String)
    (h : (Path.ofText g).segments = head :: rest) : isOperatorKey g = isOperatorKey head := by
  obtain ⟨part, parts, hsplit, rfl, -⟩ := List.map_eq_cons_iff.mp h
  rw [isOperatorKey, isOperatorKey, String.toList_ofList, Path.head?_of_splitDots _ _ _ hsplit]
  cases g.toList with
  | nil => rfl
  | cons c more =>
    by_cases hc : c = '.' <;> simp [Option.filter, hc]

theorem compile_elemMatch (v : Value) :
    FieldTest.compile (.document [("$elemMatch", v)]) = FieldTest.compileElement v := by
  rw [FieldTest.compile, FieldTest.compileAll,
    show TestKey.ofText "$elemMatch" = .elemMatch by decide]
  cases FieldTest.compileElement v <;> rfl

theorem compile_elementQuery (g : String) (hg : isOperatorKey g = false) (op : String) (v : Value) :
    FieldTest.compile (.document [("$elemMatch", .document (asks g op v))]) =
      (fun t => .elementQuery (.field (Path.ofText g) t)) <$>
        FieldTest.compile (.document [(op, v)]) := by
  have hno : ¬ (StartsWithOperator (asks g op v) ∧ ¬ StartsWithClause (asks g op v)) :=
    fun h => not_startsWithOperator g hg _ [] h.1
  rw [compile_elemMatch, compileElement_document_eq, if_neg hno, asks, compileFields_field g hg]
  cases FieldTest.compile (.document [(op, v)]) <;> rfl

/-- A condition of one operator on the elements of an array finds the same documents through a
path and as the query of an element: those with an element that the condition finds. -/
theorem element_query_agrees (f g op : String) (v : Value) (hf : isOperatorKey f = false)
    (hdot : '.' ∉ f.toList) (head : String) (rest : List String)
    (hg : (Path.ofText g).segments = head :: rest) (hhead : isOperatorKey head = false)
    (hdigits : head = "" ∨ ∃ c ∈ head.toList, c.isDigit = false) (hop : op ∈ singleOperators)
    (hv : v ∉ [.null, .minKey, .maxKey]) (haccepted : Compiles (asks g op v)) :
    ∃ m m', meaning (asks (f ++ "." ++ g) op v) = .ok m ∧
      meaning (asks f "$elemMatch" (.document (asks g op v))) = .ok m' ∧
      ∀ d items, Document.get? d f = some (.array items) →
        ∃ b, m d = .ok b ∧ m' d = .ok b ∧
          (b = true ↔ ∃ e, .document e ∈ items ∧ Matches (asks g op v) e) := by
  have hpath := Path.ofText_append f g hdot
  have hpathKey : isOperatorKey (f ++ "." ++ g) = false :=
    (isOperatorKey_of_segments _ f _ (congrArg Path.segments hpath)).trans hf
  have hgKey : isOperatorKey g = false := (isOperatorKey_of_segments g head rest hg).trans hhead
  have hgPath : Path.ofText g = ⟨head :: rest⟩ := congrArg Path.mk hg
  obtain ⟨m₀, hm₀⟩ := (compiles_iff _).mp haccepted
  have hgMeaning := meaning_asks hgKey op v
  rw [hm₀] at hgMeaning
  obtain ⟨t, ht, rfl⟩ := (map_eq_ok_iff _ _ _).mp hgMeaning.symm
  refine ⟨verdicts (.field ⟨f :: head :: rest⟩ t),
    verdicts (.field ⟨[f]⟩ (.elementQuery (.field ⟨head :: rest⟩ t))), ?_, ?_, ?_⟩
  · rw [meaning_asks hpathKey, ht, hpath, hg]
    rfl
  · rw [meaning_asks hf, compile_elementQuery g hgKey, ht, Path.ofText_of_not_mem f hdot, hgPath]
    rfl
  · intro d items hd
    have hid : head ≠ "$id" := by
      rintro rfl
      exact absurd hhead (by decide)
    have hmatches (e : Document) :
        Matches (asks g op v) e ↔ (Filter.field ⟨head :: rest⟩ t).matches e = .ok true := by
      rw [Matches, hm₀, hgPath]
      simp [verdicts]
    simp only [hmatches]
    exact broadcast_agrees t (apart_of_compile op hop v hv t ht) f head rest d items hd
      (Path.index?_eq_none head hdigits) hid

/-- A number, a nested array, a reference, a document without the path, and one with an array
within it. -/
def mixedElements : Document :=
  [("a", .array [.int32 2, .array [.document [("b", .document [("c", .int32 5)])]],
    .reference none "c" (.int32 3), .document [("b", .int32 0)],
    .document [("b", .array [.document [("c", .int32 2)]])]])]

/-- The array within the last element has what is asked for. -/
theorem element_query_agrees_mixed :
    ∃ m m', meaning (asks "a.b.c" "$gt" (.int32 1)) = .ok m ∧
      meaning (asks "a" "$elemMatch" (.document (asks "b.c" "$gt" (.int32 1)))) = .ok m' ∧
      m mixedElements = .ok true ∧ m' mixedElements = .ok true := by
  obtain ⟨m, m', hm, hm', hagree⟩ := element_query_agrees "a" "b.c" "$gt" (.int32 1) (by decide)
    (by decide) "b" ["c"] (by decide) (by decide) (.inr ⟨'b', by decide, by decide⟩) (by decide)
    (by simp) ⟨_, rfl⟩
  obtain ⟨b, hb, hb', -⟩ := hagree mixedElements _ rfl
  have htrue : m mixedElements = .ok true := by
    have hm₁ := hm
    rw [meaning_rangeTest (by decide) .greater, Except.ok.injEq] at hm₁
    rw [← hm₁]
    rfl
  have hbtrue : b = true := Except.ok.inj (hb.symm.trans htrue)
  exact ⟨m, m', hm, hm', htrue, hbtrue ▸ hb'⟩

end Query

end Docbase
