import Docbase.Proofs.Query.Meaning

/-!
Comments in queries. A comment says nothing wherever a query is read as one: the filter that is
compiled is the same with and without it. The query of an element is told from tests by its first
key, and a comment that is put before the others makes tests of it, in which comments are refused.
-/
namespace Docbase

/-- A key that another entry has is looked up past it. -/
theorem Document.get?_replaced (first rest : Document) (key : String) (v v' : Value)
    (other : String) (h : key ≠ other) :
    get? (first ++ (key, v') :: rest) other = get? (first ++ (key, v) :: rest) other := by
  induction first with
  | nil => rw [List.nil_append, List.nil_append, get?, get?, if_neg h, if_neg h]
  | cons entry _ ih => rw [List.cons_append, List.cons_append, get?, get?, ih]

namespace Query

/-- A part of a query: a query document, what a field is asked for, or a document of tests. -/
inductive Part where
  | query (d : Document)
  | condition (v : Value)
  | tests (d : Document)

/-- The second part is the first with a comment put at some place into a query document, which
it is or which stands inside it. The flag says whether the comment comes before all that an
element is asked for. -/
inductive Commented : Bool → Part → Part → Prop
  | here (first rest : Document) (x : Value) :
      Commented false (.query (first ++ rest)) (.query (first ++ ("$comment", x) :: rest))
  | member {leading : Bool} {d d' : Document} (first rest : Document) (key : String)
      (before after : List Value) : key ∈ logicalKeys →
      Commented leading (.query d) (.query d') →
      Commented leading
        (.query (first ++ (key, .array (before ++ .document d :: after)) :: rest))
        (.query (first ++ (key, .array (before ++ .document d' :: after)) :: rest))
  | field {leading : Bool} {v v' : Value} (first rest : Document) (key : String) :
      isOperatorKey key = false → Commented leading (.condition v) (.condition v') →
      Commented leading (.query (first ++ (key, v) :: rest)) (.query (first ++ (key, v') :: rest))
  | condition {leading : Bool} {d d' : Document} : StartsWithOperator d →
      Commented leading (.tests d) (.tests d') →
      Commented leading (.condition (.document d)) (.condition (.document d'))
  | not {leading : Bool} {v v' : Value} (first rest : Document) :
      Commented leading (.condition v) (.condition v') →
      Commented leading (.tests (first ++ ("$not", v) :: rest))
        (.tests (first ++ ("$not", v') :: rest))
  | elementTests {leading : Bool} {d d' : Document} (first rest : Document) :
      StartsWithOperator d → ¬ StartsWithClause d → Commented leading (.tests d) (.tests d') →
      Commented leading (.tests (first ++ ("$elemMatch", .document d) :: rest))
        (.tests (first ++ ("$elemMatch", .document d') :: rest))
  | elementQuery {leading : Bool} {d d' : Document} (first rest : Document) :
      (StartsWithOperator d → StartsWithClause d) → Commented leading (.query d) (.query d') →
      (Document.keys d').head? = (Document.keys d).head? →
      Commented leading (.tests (first ++ ("$elemMatch", .document d) :: rest))
        (.tests (first ++ ("$elemMatch", .document d') :: rest))
  | leading {d : Document} (first rest : Document) (x : Value) :
      (StartsWithOperator d → StartsWithClause d) →
      Commented true (.tests (first ++ ("$elemMatch", .document d) :: rest))
        (.tests (first ++ ("$elemMatch", .document (("$comment", x) :: d)) :: rest))

/-! What becomes of a compilation. -/

/-- What a compilation that succeeds becomes: the same, or the refusal of a comment. -/
def Becomes {α : Type} (refused : Bool) (x y : Except QueryError α) : Prop :=
  ∀ a, x = .ok a →
    y = if refused then .error (.malformed (.unknownField "$comment")) else .ok a

namespace Becomes

variable {α β : Type} {refused : Bool} {x y : Except QueryError α}

theorem map (f : α → β) (h : Becomes refused x y) : Becomes refused (f <$> x) (f <$> y) := by
  intro b hb
  obtain ⟨a, ha, rfl⟩ := (map_eq_ok_iff _ _ _).mp hb
  rw [h a ha]
  cases refused <;> rfl

theorem bind (z : Except QueryError β) (f g : β → Except QueryError α)
    (h : ∀ b, Becomes refused (f b) (g b)) : Becomes refused (z >>= f) (z >>= g) := by
  cases z with
  | error e =>
    intro a ha
    cases ha
  | ok b => exact h b

theorem bind_left (f : α → Except QueryError β) (h : Becomes refused x y) :
    Becomes refused (x >>= f) (y >>= f) := by
  intro b hb
  obtain ⟨a, ha, hb⟩ := (bind_eq_ok_iff _ _ _).mp hb
  rw [h a ha]
  cases refused with
  | false => exact hb
  | true => rfl

/-- One entry of many. -/
theorem within {γ : Type} {f : List γ → Except QueryError (List β)} (hf : ByEntry f) {c c' : γ}
    (first rest : List γ) (h : Becomes refused (f [c]) (f [c'])) :
    Becomes refused (f (first ++ c :: rest)) (f (first ++ c' :: rest)) := by
  intro bs hbs
  rw [hf.append, append_eq_ok_iff] at hbs
  obtain ⟨before, more, hbefore, hmore, rfl⟩ := hbs
  rw [hf.cons, append_eq_ok_iff] at hmore
  obtain ⟨here, after, hhere, hafter, rfl⟩ := hmore
  rw [hf.append, hf.cons, hbefore, hafter, h here hhere]
  cases refused <;> rfl

end Becomes

/-! What an entry is compiled to. -/

theorem compileFields_comment (scripts : Bool) (x : Value) :
    Filter.compileFields scripts [("$comment", x)] = .ok [] := rfl

theorem combining_of_mem_logicalKeys (key : String) (h : key ∈ logicalKeys) :
    ∃ combined, Combining key combined := by
  simp only [logicalKeys, List.mem_cons, List.not_mem_nil, or_false] at h
  rcases h with rfl | rfl | rfl
  · exact ⟨_, .and⟩
  · exact ⟨_, .or⟩
  · exact ⟨_, .nor⟩

theorem compileMembers_within (scripts : Bool) (key : String) (before after : List Value)
    (v : Value) :
    Filter.compileMembers scripts key (.array (before ++ v :: after)) =
      Filter.compileItems scripts key (before ++ v :: after) := by
  cases before <;> rfl

theorem compileItems_document (scripts : Bool) (key : String) (d : Document) :
    Filter.compileItems scripts key [.document d] =
      (fun fs => [Filter.combine fs]) <$> Filter.compileFields scripts d := by
  rw [Filter.compileItems]
  cases Filter.compileFields scripts d <;> rfl

theorem compileAll_not (v : Value) :
    FieldTest.compileAll [("$not", v)] = (fun t => [.not t]) <$> FieldTest.compile v := by
  rw [FieldTest.compileAll]
  cases FieldTest.compile v <;> rfl

theorem compileAll_elemMatch (v : Value) :
    FieldTest.compileAll [("$elemMatch", v)] = (fun t => [t]) <$> FieldTest.compileElement v := by
  rw [FieldTest.compileAll]
  cases FieldTest.compileElement v <;> rfl

/-! Comments in the parts of a query. -/

theorem startsWithOperator_congr (d d' : Document)
    (h : (Document.keys d').head? = (Document.keys d).head?) :
    StartsWithOperator d' ↔ StartsWithOperator d := by
  cases d <;> cases d' <;> simp_all [StartsWithOperator, Document.keys]

theorem startsWithClause_congr (d d' : Document)
    (h : (Document.keys d').head? = (Document.keys d).head?) :
    StartsWithClause d' ↔ StartsWithClause d := by
  cases d <;> cases d' <;> simp_all [StartsWithClause, Document.keys]

theorem head?_keys_replaced (first rest : Document) (key : String) (v v' : Value) :
    (Document.keys (first ++ (key, v') :: rest)).head? =
      (Document.keys (first ++ (key, v) :: rest)).head? := by
  cases first <;> rfl

theorem regexOf?_congr (d d' : Document)
    (hregex : Document.get? d' "$regex" = Document.get? d "$regex")
    (hoptions : Document.get? d' "$options" = Document.get? d "$options") :
    FieldTest.regexOf? d' = FieldTest.regexOf? d := by
  rw [FieldTest.regexOf?, FieldTest.regexOf?, hregex, hoptions]

/-- A query that compiles has no pattern of tests. -/
theorem get?_of_compileFields (scripts : Bool) (d : Document) (fs : List Filter)
    (h : Filter.compileFields scripts d = .ok fs) (key : String)
    (hkey : key ∈ ["$regex", "$options"]) :
    Document.get? d key = none := by
  induction d generalizing fs with
  | nil => rfl
  | cons entry rest ih =>
    obtain ⟨k, v⟩ := entry
    rw [(Filter.compileFields_byEntry scripts).cons, append_eq_ok_iff] at h
    obtain ⟨here, more, hhere, hmore, -⟩ := h
    have hne : k ≠ key := by
      rintro rfl
      have hunknown : ∀ key ∈ ["$regex", "$options"], QueryKey.ofText key = .unknown := by decide
      rw [Filter.compileFields.eq_def] at hhere
      simp [hunknown k hkey, bind_eq_ok_iff] at hhere
    rw [Document.get?, if_neg hne]
    exact ih more hmore

/-- The tests of a document, by the pattern among them. -/
theorem compile_tests_becomes {refused : Bool} {d d' : Document}
    (hregex : FieldTest.regexOf? d' = FieldTest.regexOf? d)
    (h : Becomes refused (FieldTest.compileAll d) (FieldTest.compileAll d')) :
    Becomes refused
      (do let regex ← FieldTest.regexOf? d
          FieldTest.combine regex (← FieldTest.compileAll d))
      (do let regex ← FieldTest.regexOf? d'
          FieldTest.combine regex (← FieldTest.compileAll d')) := by
  rw [hregex]
  exact Becomes.bind _ _ _ fun regex => h.bind_left _

/-- What becomes of the compilation of a part, and that tests stay recognisable. -/
def Part.Becomes (refused : Bool) : Part → Part → Prop
  | .query d, .query d' => ∀ scripts, Query.Becomes refused (Filter.compileFields scripts d)
      (Filter.compileFields scripts d')
  | .condition v, .condition v' =>
      Query.Becomes refused (FieldTest.compile v) (FieldTest.compile v')
  | .tests d, .tests d' =>
      Query.Becomes refused (FieldTest.compileAll d) (FieldTest.compileAll d') ∧
        (Document.keys d').head? = (Document.keys d).head? ∧
        FieldTest.regexOf? d' = FieldTest.regexOf? d
  | _, _ => False

/-- One test of many. -/
theorem Part.becomes_test {refused : Bool} (first rest : Document) (key : String) (v v' : Value)
    (hkey : key ∉ ["$regex", "$options"])
    (h : Query.Becomes refused (FieldTest.compileAll [(key, v)])
      (FieldTest.compileAll [(key, v')])) :
    Part.Becomes refused (.tests (first ++ (key, v) :: rest))
      (.tests (first ++ (key, v') :: rest)) := by
  simp only [List.mem_cons, List.not_mem_nil, or_false, not_or] at hkey
  refine ⟨h.within FieldTest.compileAll_byEntry first rest, head?_keys_replaced _ _ _ _ _, ?_⟩
  exact regexOf?_congr _ _ (Document.get?_replaced _ _ _ _ _ _ hkey.1)
    (Document.get?_replaced _ _ _ _ _ _ hkey.2)

/-- The query of an element with a comment before all else is refused. -/
theorem compileElement_leading (d : Document) (x : Value)
    (hquery : StartsWithOperator d → StartsWithClause d) :
    Becomes true (FieldTest.compileElement (.document d))
      (FieldTest.compileElement (.document (("$comment", x) :: d))) := by
  intro t ht
  have hno : ¬ (StartsWithOperator d ∧ ¬ StartsWithClause d) := fun h => h.2 (hquery h.1)
  have hyes : StartsWithOperator (("$comment", x) :: d) ∧
      ¬ StartsWithClause (("$comment", x) :: d) := by
    simp only [StartsWithOperator, StartsWithClause, List.head?_cons, Option.mem_some_iff,
      exists_eq_left']
    decide
  rw [compileElement_document_eq, if_neg hno] at ht
  obtain ⟨fs, hfs, -⟩ := (map_eq_ok_iff _ _ _).mp ht
  -- Read as tests the document has no pattern, because a query that compiles has none.
  have hget := get?_of_compileFields false d fs hfs
  have hregex : FieldTest.regexOf? (("$comment", x) :: d) = .ok none := by
    rw [regexOf?_congr d (_ :: d) rfl rfl, FieldTest.regexOf?_eq_ok_iff d none]
    · exact .inl ⟨hget "$regex" (by decide), rfl, rfl⟩
    · exact hget "$options" (by decide)
  have hall : FieldTest.compileAll (("$comment", x) :: d) =
      .error (.malformed (.unknownField "$comment")) := by
    rw [FieldTest.compileAll]
    rfl
  rw [compileElement_document_eq, if_pos hyes, hregex, hall]
  rfl

theorem Commented.becomes {leading : Bool} {part part' : Part}
    (h : Commented leading part part') : part.Becomes leading part' := by
  induction h with
  | here first rest x =>
    intro scripts fs hfs
    have hbyEntry := Filter.compileFields_byEntry scripts
    rw [hbyEntry.append, hbyEntry.cons, compileFields_comment]
    rw [hbyEntry.append] at hfs
    rw [← hfs]
    cases Filter.compileFields scripts rest <;> rfl
  | member first rest key before after hkey _ ih =>
    intro scripts
    obtain ⟨combined, hcombining⟩ := combining_of_mem_logicalKeys key hkey
    obtain ⟨make, hmake, -⟩ := compileFields_combining hcombining
    refine Becomes.within (Filter.compileFields_byEntry scripts) first rest ?_
    rw [hmake, hmake, compileMembers_within, compileMembers_within]
    refine (Becomes.within (Filter.compileItems_byEntry scripts key) before after ?_).map _
    rw [compileItems_document, compileItems_document]
    exact (ih scripts).map _
  | field first rest key hkey _ ih =>
    intro scripts
    refine Becomes.within (Filter.compileFields_byEntry scripts) first rest ?_
    rw [compileFields_field key hkey, compileFields_field key hkey]
    exact Becomes.map _ ih
  | @condition _ d d' hstart _ ih =>
    -- With the same first key the document still is one of tests.
    obtain ⟨hall, hhead, hregex⟩ := ih
    have hstart' := (startsWithOperator_congr d d' hhead).mpr hstart
    rw [startsWithOperator_iff] at hstart hstart'
    change Becomes _ (FieldTest.compile _) (FieldTest.compile _)
    rw [FieldTest.compile, FieldTest.compile, if_pos hstart, if_pos hstart']
    exact compile_tests_becomes hregex hall
  | not first rest _ ih =>
    refine Part.becomes_test first rest "$not" _ _ (by decide) ?_
    rw [compileAll_not, compileAll_not]
    exact Becomes.map _ ih
  | @elementTests _ d d' first rest hstart hclause _ ih =>
    obtain ⟨hall, hhead, hregex⟩ := ih
    have hstart' := (startsWithOperator_congr d d' hhead).mpr hstart
    have hclause' := mt (startsWithClause_congr d d' hhead).mp hclause
    refine Part.becomes_test first rest "$elemMatch" _ _ (by decide) ?_
    rw [compileAll_elemMatch, compileAll_elemMatch, compileElement_document_eq,
      compileElement_document_eq, if_pos ⟨hstart, hclause⟩, if_pos ⟨hstart', hclause'⟩]
    exact ((compile_tests_becomes hregex hall).map _).map _
  | @elementQuery _ d d' first rest hquery _ hhead ih =>
    -- The comment is not before the first key, so the element still is asked for a query.
    have hno : ¬ (StartsWithOperator d ∧ ¬ StartsWithClause d) := fun h => h.2 (hquery h.1)
    have hno' : ¬ (StartsWithOperator d' ∧ ¬ StartsWithClause d') := by
      rwa [startsWithOperator_congr d d' hhead, startsWithClause_congr d d' hhead]
    refine Part.becomes_test first rest "$elemMatch" _ _ (by decide) ?_
    rw [compileAll_elemMatch, compileAll_elemMatch, compileElement_document_eq,
      compileElement_document_eq, if_neg hno, if_neg hno']
    exact ((ih false).map _).map _
  | @leading d first rest x hquery =>
    refine Part.becomes_test first rest "$elemMatch" _ _ (by decide) ?_
    rw [compileAll_elemMatch, compileAll_elemMatch]
    exact (compileElement_leading d x hquery).map _

/-- A comment in a query that compiles leaves it the same filter, unless it comes before all that
an element is asked for. There it is refused. -/
theorem comments_say_nothing {leading : Bool} {q q' : Document}
    (h : Commented leading (.query q) (.query q')) (hq : Compiles q) :
    Filter.compile q' =
      if leading then .error (.malformed (.unknownField "$comment")) else Filter.compile q := by
  obtain ⟨f, hf⟩ := hq
  have hbecomes : Becomes leading (Filter.compile q) (Filter.compile q') :=
    (h.becomes true).map Filter.combine
  rw [hbecomes f hf, hf]

/-- A comment after what an element is asked for, below a connective and a negation. -/
theorem comments_say_nothing_nested :
    Filter.compile [("$or", .array [.document [("a", .document [("$not", .document
        [("$elemMatch", .document [("b", .int32 1), ("$comment", .string "c")])])])]])] =
      Filter.compile [("$or", .array [.document [("a", .document [("$not", .document
        [("$elemMatch", .document [("b", .int32 1)])])])]])] := by
  have hb := not_startsWithOperator "b" (by decide) (.int32 1) []
  have helement := Commented.elementQuery [] [] (absurd · hb)
    (.here [("b", .int32 1)] [] (.string "c")) rfl
  have hnot := Commented.not [] [] (.condition ⟨_, rfl, by decide⟩ helement)
  have hfield := Commented.field [] [] "a" (by decide) (.condition ⟨_, rfl, by decide⟩ hnot)
  exact comments_say_nothing (.member [] [] "$or" [] [] (by decide) hfield) ⟨_, rfl⟩

/-- A comment before what an element is asked for. -/
theorem comments_say_nothing_fails_leading :
    Commented true (.query [("a", .document [("$elemMatch", .document [("b", .int32 1)])])])
        (.query [("a", .document [("$elemMatch", .document
          [("$comment", .string "c"), ("b", .int32 1)])])]) ∧
      Compiles [("a", .document [("$elemMatch", .document [("b", .int32 1)])])] ∧
      ¬ Compiles [("a", .document [("$elemMatch", .document
        [("$comment", .string "c"), ("b", .int32 1)])])] := by
  refine ⟨?_, ⟨_, rfl⟩, ?_⟩
  · have hb := not_startsWithOperator "b" (by decide) (.int32 1) []
    have helement := Commented.leading [] [] (.string "c") (absurd · hb)
    exact .field [] [] "a" (by decide) (.condition ⟨_, rfl, by decide⟩ helement)
  · rintro ⟨f, hf⟩
    cases hf

end Query

end Docbase
