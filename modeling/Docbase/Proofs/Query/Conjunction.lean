import Docbase.Proofs.Query.Meaning
import Docbase.Proofs.Query.Safety

/-!
The entries of a query, and the operators that are put to one field, ask together for all that
they ask for alone. Parts are compiled and evaluated in their order, which shows only in which
error comes first, and in whether a script is reached that fails; without scripts the order of
the parts does not matter.
-/
namespace Docbase

theorem Document.get?_perm (d e : Document) (h : d.Perm e) (hkeys : (Document.keys d).Nodup)
    (key : String) : Document.get? d key = Document.get? e key := by
  induction h with
  | nil => rfl
  | cons entry _ ih =>
    have hrest := (List.nodup_cons.mp hkeys).2
    rw [get?, get?, ih hrest]
  | swap entry entry' rest =>
    have hdiffer : entry'.1 ≠ entry.1 := by
      intro heq
      simp [keys, heq] at hkeys
    simp only [get?]
    split_ifs with h1 h2
    · exact absurd (h1.trans h2.symm) hdiffer
    · rfl
    · rfl
    · rfl
  | trans hde _ ih ih' => exact (ih hkeys).trans (ih' ((hde.map Prod.fst).nodup_iff.mp hkeys))

namespace Query

/-! Queries. -/

/-- A query is the conjunction of its entries. -/
theorem meaning_eq_conjunction (q : Document) :
    meaning q = conjunction <$> q.mapM fun entry => meaning [entry] := by
  have hparts : (q.mapM fun entry => meaning [entry]) =
      List.map (fun fs => conjunction (fs.map verdicts)) <$>
        q.mapM fun entry => Filter.compileFields true [entry] := by
    rw [← mapM_map_comm]
    congr 1
    funext entry
    rw [meaning, Filter.compile]
    cases Filter.compileFields true [entry] with
    | error e => rfl
    | ok fs => exact congrArg Except.ok (verdicts_combine fs)
  rw [hparts, meaning, Filter.compile, (Filter.compileFields_byEntry true).eq_mapM]
  cases q.mapM fun entry => Filter.compileFields true [entry] with
  | error e => rfl
  | ok parts =>
    refine congrArg Except.ok ((verdicts_combine parts.flatten).trans ?_)
    rw [List.map_flatten, conjunction_flatten, List.map_map]
    rfl

/-- The error of a query is that of the first entry that does not compile. -/
theorem meaning_eq_error (first rest : Document) (entry : String × Value) (e : QueryError)
    (hfirst : ∀ before ∈ first, Compiles [before]) (he : meaning [entry] = .error e) :
    meaning (first ++ entry :: rest) = .error e := by
  have hcompiled : ∀ before ∈ first, ∃ m, meaning [before] = .ok m := fun before hbefore =>
    (compiles_iff _).mp (hfirst before hbefore)
  obtain ⟨ms, hms⟩ := (mapM_succeeds_iff _ _).mpr hcompiled
  rw [meaning_eq_conjunction, List.mapM_append, hms, List.mapM_cons, he]
  rfl

/-- The verdicts do not fail. -/
def Answers (m : Verdicts) : Prop := ∀ d, ∃ b, m d = .ok b

theorem answers_of_clean (f : Filter) (h : (Node.filter f).Clean) : Answers (verdicts f) := by
  intro d
  cases hd : verdicts f d with
  | error e => exact absurd hd (Node.answers_of_clean _ h d e)
  | ok b => exact ⟨b, rfl⟩

theorem conjunction_pair (m m' : Verdicts) (d : Document) :
    conjunction [m, m'] d = do if ← m d then m' d else return false := by
  rw [conjunction_cons, conjunction_singleton]

theorem toOption_conjunction_cons {α : Type} (f : α → Except QueryError Verdicts) (a : α)
    (rest : List α) :
    (conjunction <$> (a :: rest).mapM f).toOption = (f a).toOption.bind fun m =>
      (conjunction <$> rest.mapM f).toOption.map fun m' => conjunction [m, m'] := by
  rw [List.mapM_cons]
  cases f a with
  | error e => rfl
  | ok m =>
    cases rest.mapM f with
    | error e => rfl
    | ok ms =>
      have happend := conjunction_append [m] ms
      rw [conjunction_singleton] at happend
      exact congrArg some happend

theorem conjunction_swap (m n c : Verdicts) (hm : Answers m) (hn : Answers n) :
    conjunction [m, conjunction [n, c]] = conjunction [n, conjunction [m, c]] := by
  funext d
  obtain ⟨a, ha⟩ := hm d
  obtain ⟨b, hb⟩ := hn d
  rw [conjunction_pair, conjunction_pair, conjunction_pair, conjunction_pair, ha, hb]
  cases a <;> cases b <;> rfl

/-- What does not fail may be asked in any order. -/
theorem conjunction_perm {α : Type} (f : α → Except QueryError Verdicts) (as bs : List α)
    (h : as.Perm bs) (hanswers : ∀ a ∈ as, ∀ m, f a = .ok m → Answers m) :
    (conjunction <$> as.mapM f).toOption = (conjunction <$> bs.mapM f).toOption := by
  -- Only two that change places have to answer; what follows them may fail, as it is reached in
  -- both orders or in none.
  induction h with
  | nil => rfl
  | cons a _ ih =>
    rw [toOption_conjunction_cons, toOption_conjunction_cons,
      ih fun b hb => hanswers b (List.mem_cons_of_mem a hb)]
  | swap a b rest =>
    simp only [toOption_conjunction_cons]
    cases hb : f b with
    | error e => cases f a <;> rfl
    | ok m =>
      cases ha : f a with
      | error e => rfl
      | ok n =>
        cases conjunction <$> rest.mapM f with
        | error e => rfl
        | ok c =>
          have hm := hanswers b List.mem_cons_self m hb
          have hn := hanswers a (List.mem_cons_of_mem b List.mem_cons_self) n ha
          exact congrArg some (conjunction_swap m n c hm hn)
  | trans has _ ih ih' =>
    exact (ih hanswers).trans (ih' fun a ha => hanswers a (has.mem_iff.mpr ha))

/-! Queries without scripts. -/

/-- No script predicate stands where queries are combined. -/
inductive ScriptFree : Document → Prop
  | intro {q : Document} : (∀ entry ∈ q, entry.1 ≠ "$where") →
      (∀ key ∈ logicalKeys, ∀ items, (key, Value.array items) ∈ q →
        ∀ d, Value.document d ∈ items → ScriptFree d) → ScriptFree q

theorem ScriptFree.entry {q : Document} (h : ScriptFree q) (entry : String × Value)
    (hentry : entry ∈ q) : ScriptFree [entry] := by
  obtain ⟨hwhere, hmembers⟩ := h
  constructor
  · intro entry' hentry'
    rw [List.mem_singleton.mp hentry']
    exact hwhere entry hentry
  · intro key hkey items hitems
    rw [List.mem_singleton] at hitems
    exact hmembers key hkey items (hitems ▸ hentry)

/-- A query that compiles to the same whether or not scripts are allowed. -/
def Indifferent (q : Document) : Prop :=
  Filter.compileFields true q = Filter.compileFields false q

theorem compileItems_congr (key : String) (items : List Value)
    (h : ∀ d, Value.document d ∈ items → Indifferent d) :
    Filter.compileItems true key items = Filter.compileItems false key items := by
  induction items with
  | nil => rfl
  | cons v rest ih =>
    have hrest := ih fun d hd => h d (List.mem_cons_of_mem v hd)
    cases v with
    | document d =>
      have hd : Filter.compileFields true d = Filter.compileFields false d :=
        h d List.mem_cons_self
      rw [Filter.compileItems, Filter.compileItems, hd, hrest]
    | _ => rfl

theorem compileMembers_congr (key : String) (v : Value)
    (h : ∀ items, v = .array items → ∀ d, Value.document d ∈ items → Indifferent d) :
    Filter.compileMembers true key v = Filter.compileMembers false key v := by
  cases v with
  | array items =>
    cases items with
    | nil => rfl
    | cons w rest => exact compileItems_congr key (w :: rest) (h _ rfl)
  | _ => rfl

theorem indifferent_entry (key : String) (v : Value) (hwhere : key ≠ "$where")
    (h : key ∈ logicalKeys →
      Filter.compileMembers true key v = Filter.compileMembers false key v) :
    Indifferent [(key, v)] := by
  rw [Indifferent, Filter.compileFields.eq_def true, Filter.compileFields.eq_def false]
  dsimp only
  have hspelt := speltClause_ofText key
  generalize QueryKey.ofText key = k at hspelt ⊢
  cases hspelt with
  | and | or | nor => simp only [h (by decide)]; rfl
  | script => exact absurd rfl hwhere
  | _ => rfl

theorem ScriptFree.indifferent {q : Document} (h : ScriptFree q) : Indifferent q := by
  induction h with
  | @intro q hwhere _ ih =>
    have hentry (entry : String × Value) (hmem : entry ∈ q) : Indifferent [entry] := by
      refine indifferent_entry entry.1 entry.2 (hwhere entry hmem) fun hkey => ?_
      refine compileMembers_congr entry.1 entry.2 fun items hitems => ?_
      exact ih entry.1 hkey items (hitems ▸ hmem)
    rw [Indifferent, (Filter.compileFields_byEntry true).eq_mapM,
      (Filter.compileFields_byEntry false).eq_mapM]
    exact congrArg (List.flatten <$> ·) (mapM_congr _ _ q hentry)

/-- The meaning of a query without scripts does not fail. -/
theorem ScriptFree.answers {q : Document} (h : ScriptFree q) (m : Verdicts)
    (hm : meaning q = .ok m) : Answers m := by
  obtain ⟨f, hf, rfl⟩ := (map_eq_ok_iff _ _ _).mp hm
  obtain ⟨fs, hfs, rfl⟩ := (map_eq_ok_iff _ _ _).mp hf
  rw [h.indifferent] at hfs
  have hsound : ∀ f ∈ fs, f.Sound false :=
    sound_of_compileFields false q (fun entry _ => safe entry.2) fs hfs
  exact answers_of_clean _ (Filter.Sound.clean _ (.combine false fs hsound))

theorem answers_of_field (key : String) (hkey : isOperatorKey key = false) (v : Value)
    (m : Verdicts) (hm : meaning [(key, v)] = .ok m) : Answers m := by
  rw [meaning_field key hkey] at hm
  obtain ⟨t, ht, rfl⟩ := (map_eq_ok_iff _ _ _).mp hm
  exact answers_of_clean _ (Filter.Sound.clean _ (.field ((safe v).condition t ht)))

/-! Operators of a field. -/

/-- An entry that is a test by itself. -/
def isAlone (entry : String × Value) : Bool := entry.1 != "$regex" && entry.1 != "$options"

/-- The pattern in a document of tests, with its letters. -/
def pattern (ops : Document) : Document :=
  ["$regex", "$options"].filterMap fun key => (Document.get? ops key).map fun v => (key, v)

/-- The operators of a document of tests, each in a document of its own: the pattern with its
letters, if there is one, and then the others in order. -/
def operators (ops : Document) : List Document :=
  (if (pattern ops).isEmpty then [] else [pattern ops]) ++
    (ops.filter isAlone).map fun entry => [entry]

theorem get?_pattern (ops : Document) :
    Document.get? (pattern ops) "$regex" = Document.get? ops "$regex" ∧
      Document.get? (pattern ops) "$options" = Document.get? ops "$options" := by
  unfold pattern
  cases hregex : Document.get? ops "$regex" <;> cases hoptions : Document.get? ops "$options" <;>
    simp [hregex, hoptions, Document.get?]

theorem regexOf?_pattern (ops : Document) :
    FieldTest.regexOf? (pattern ops) = FieldTest.regexOf? ops := by
  obtain ⟨hregex, hoptions⟩ := get?_pattern ops
  rw [FieldTest.regexOf?, FieldTest.regexOf?, hregex, hoptions]

theorem compileAll_pattern (ops : Document) : FieldTest.compileAll (pattern ops) = .ok [] := by
  unfold pattern
  cases hregex : Document.get? ops "$regex" <;> cases hoptions : Document.get? ops "$options" <;>
    simp only [List.filterMap_cons, List.filterMap_nil, hregex, hoptions, Option.map_some,
      Option.map_none] <;> rfl

theorem isOperators_pattern (ops : Document) (h : pattern ops ≠ []) :
    FieldTest.isOperators (pattern ops) = true := by
  unfold pattern at h ⊢
  cases hregex : Document.get? ops "$regex" <;> cases hoptions : Document.get? ops "$options" <;>
    simp_all [FieldTest.isOperators] <;> decide

/-- The pattern by itself is the pattern that is found among the other operators. -/
theorem compile_pattern (ops : Document) (h : pattern ops ≠ []) :
    FieldTest.compile (.document (pattern ops)) =
      FieldTest.regexOf? ops >>= fun regex => FieldTest.combine regex [] := by
  rw [FieldTest.compile, if_pos (isOperators_pattern ops h), regexOf?_pattern,
    compileAll_pattern]
  rfl

theorem pattern_eq_nil_iff (ops : Document) :
    pattern ops = [] ↔ FieldTest.regexOf? ops = .ok none := by
  constructor
  · intro h
    rw [← regexOf?_pattern, h]
    rfl
  · intro h
    obtain ⟨hregex, hoptions⟩ := FieldTest.get?_of_regexOf?_eq_none ops h
    simp [pattern, hregex, hoptions]

/-- A test by itself is what it is among the other operators. -/
theorem compileAll_alone (entry : String × Value) (ho : isOperatorKey entry.1 = true)
    (h : isAlone entry = true) :
    FieldTest.compileAll [entry] =
      (fun t => [t]) <$> FieldTest.compile (.document [entry]) := by
  obtain ⟨key, v⟩ := entry
  simp only [isAlone, Bool.and_eq_true, bne_iff_ne] at h
  have hregex : FieldTest.regexOf? [(key, v)] = .ok none := by
    rw [FieldTest.regexOf?_eq_ok_iff _ none (by simp [Document.get?, h.2])]
    simp [Document.get?, h.1]
  have hstarts : FieldTest.isOperators [(key, v)] = true := ho
  rw [FieldTest.compile, if_pos hstarts, hregex]
  cases hall : FieldTest.compileAll [(key, v)] with
  | error e => rfl
  | ok ts =>
    rcases compileAll_entry_eq_ok key v ts hall with ⟨-, hpattern⟩ | ⟨t, rfl, -⟩
    · rcases hpattern ho with heq | heq
      · exact absurd heq h.1
      · exact absurd heq h.2
    · rfl

theorem compileAll_eq_mapM (ops : Document)
    (h : ∀ entry ∈ ops, isOperatorKey entry.1 = true) :
    FieldTest.compileAll ops =
      (ops.filter isAlone).mapM fun entry => FieldTest.compile (.document [entry]) := by
  induction ops with
  | nil => rfl
  | cons entry rest ih =>
    obtain ⟨ho, hrest⟩ := List.forall_mem_cons.mp h
    rw [FieldTest.compileAll_byEntry.cons, ih hrest]
    by_cases halone : isAlone entry = true
    · rw [compileAll_alone entry ho halone, List.filter_cons_of_pos halone, List.mapM_cons]
      cases FieldTest.compile (.document [entry]) <;> rfl
    · have hpattern : FieldTest.compileAll [entry] = .ok [] := by
        obtain ⟨key, v⟩ := entry
        by_cases hregex : key = "$regex"
        · rw [hregex]
          rfl
        · have hoptions : key = "$options" := by simpa [isAlone, hregex] using halone
          rw [hoptions]
          rfl
      rw [hpattern, List.filter_cons_of_neg halone]
      cases (rest.filter isAlone).mapM fun entry => FieldTest.compile (.document [entry]) <;> rfl

/-- Several tests at once; one alone stands for itself. -/
def together : List FieldTest → FieldTest
  | [t] => t
  | ts => .and ts

theorem verdicts_together (path : Path) (ts : List FieldTest) :
    verdicts (.field path (together ts)) =
      conjunction (ts.map fun t => verdicts (.field path t)) := by
  unfold together
  split
  · rw [List.map_cons, List.map_nil, conjunction_singleton]
  · exact verdicts_tests path ts

theorem combine_eq (regex : Option CompiledRegex) (ts : List FieldTest)
    (h : regex = none → ts ≠ []) :
    FieldTest.combine regex ts = .ok (together ((regex.map FieldTest.regex).toList ++ ts)) := by
  cases regex with
  | none =>
    cases ts with
    | nil => exact absurd rfl (h rfl)
    | cons t rest => cases rest <;> rfl
  | some c => cases ts <;> rfl

/-- The operators give the test of the pattern and then the others. -/
theorem mapM_operators (ops : Document) (h : ∀ entry ∈ ops, isOperatorKey entry.1 = true) :
    ((operators ops).mapM fun o => FieldTest.compile (.document o)) = do
      let regex ← FieldTest.regexOf? ops
      return (regex.map FieldTest.regex).toList ++ (← FieldTest.compileAll ops) := by
  have halone : ((ops.filter isAlone).map fun entry => [entry]).mapM
      (fun o => FieldTest.compile (.document o)) = FieldTest.compileAll ops :=
    List.mapM_map.trans (compileAll_eq_mapM ops h).symm
  rw [operators]
  by_cases hpattern : pattern ops = []
  · rw [if_pos (by simp [hpattern]), List.nil_append, halone,
      (pattern_eq_nil_iff ops).mp hpattern]
    cases FieldTest.compileAll ops <;> rfl
  · rw [if_neg (by simpa using hpattern), List.singleton_append, List.mapM_cons, halone,
      compile_pattern ops hpattern]
    cases hregex : FieldTest.regexOf? ops with
    | error e => rfl
    | ok regex =>
      cases regex with
      | none => exact absurd ((pattern_eq_nil_iff ops).mpr hregex) hpattern
      | some c => cases FieldTest.compileAll ops <;> rfl

/-- A document of operators is compiled operator by operator. -/
theorem compile_operators (ops : Document) (hne : ops ≠ [])
    (h : ∀ entry ∈ ops, isOperatorKey entry.1 = true) :
    FieldTest.compile (.document ops) =
      together <$> (operators ops).mapM fun o => FieldTest.compile (.document o) := by
  have hstarts : FieldTest.isOperators ops = true := by
    cases ops with
    | nil => exact absurd rfl hne
    | cons entry rest => exact h entry List.mem_cons_self
  rw [FieldTest.compile, if_pos hstarts, mapM_operators ops h]
  cases hregex : FieldTest.regexOf? ops with
  | error e => rfl
  | ok regex =>
    cases hall : FieldTest.compileAll ops with
    | error e => rfl
    | ok ts =>
      have hsome :=
        says_something ops ((startsWithOperator_iff ops).mpr hstarts) regex hregex ts hall
      exact combine_eq regex ts hsome

variable {p : String} (hp : isOperatorKey p = false)

include hp

/-- What a field is asked for with several operators is the conjunction of what it is asked for
with each. -/
theorem meaning_operators (ops : Document) (hne : ops ≠ [])
    (h : ∀ entry ∈ ops, isOperatorKey entry.1 = true) :
    meaning [(p, .document ops)] =
      conjunction <$> (operators ops).mapM fun o => meaning [(p, .document o)] := by
  have hparts : ((operators ops).mapM fun o => meaning [(p, .document o)]) =
      List.map (fun t => verdicts (.field (Path.ofText p) t)) <$>
        (operators ops).mapM fun o => FieldTest.compile (.document o) := by
    rw [← mapM_map_comm]
    exact mapM_congr _ _ _ fun o _ => meaning_field p hp (.document o)
  rw [hparts, meaning_field p hp, compile_operators ops hne h]
  cases (operators ops).mapM fun o => FieldTest.compile (.document o) with
  | error e => rfl
  | ok ts => exact congrArg Except.ok (verdicts_together _ ts)

omit hp

theorem operators_perm (ops ops' : Document) (h : ops.Perm ops')
    (hkeys : (Document.keys ops).Nodup) : (operators ops).Perm (operators ops') := by
  have hpattern : pattern ops = pattern ops' := by
    unfold pattern
    congr 1
    funext key
    rw [Document.get?_perm ops ops' h hkeys key]
  rw [operators, operators, hpattern]
  exact ((h.filter isAlone).map _).append_left _

/-- The entries of a query are asked for one after the other, and so are the operators of a
field; where no script can fail, they may stand in any order. -/
theorem implicit_conjunction :
    (∀ q, meaning q = conjunction <$> q.mapM fun entry => meaning [entry]) ∧
      (∀ q, Compiles q ↔ ∀ entry ∈ q, Compiles [entry]) ∧
      (∀ first entry rest e, (∀ before ∈ first, Compiles [before]) →
        meaning [entry] = .error e → meaning (first ++ entry :: rest) = .error e) ∧
      (∀ q q', q.Perm q' → ScriptFree q → (meaning q).toOption = (meaning q').toOption) ∧
      ∀ p, isOperatorKey p = false →
        ∀ ops ≠ [], (∀ entry ∈ ops, isOperatorKey entry.1 = true) →
          meaning [(p, .document ops)] =
            conjunction <$> ((operators ops).mapM fun o => meaning [(p, .document o)]) ∧
          (Compiles [(p, .document ops)] ↔
            ∀ o ∈ operators ops, Compiles [(p, .document o)]) ∧
          ∀ ops', ops.Perm ops' → (Document.keys ops).Nodup →
            (meaning [(p, .document ops)]).toOption = (meaning [(p, .document ops')]).toOption := by
  refine ⟨meaning_eq_conjunction, ?_, ?_, ?_, ?_⟩
  · intro q
    simp only [compiles_iff]
    rw [meaning_eq_conjunction, map_succeeds_iff, mapM_succeeds_iff]
  · intro first entry rest e
    exact meaning_eq_error first rest entry e
  · intro q q' hperm hfree
    rw [meaning_eq_conjunction q, meaning_eq_conjunction q']
    exact conjunction_perm _ q q' hperm fun entry hentry m hm =>
      (hfree.entry entry hentry).answers m hm
  · intro p hp ops hne hops
    refine ⟨meaning_operators hp ops hne hops, ?_, ?_⟩
    · simp only [compiles_iff]
      rw [meaning_operators hp ops hne hops, map_succeeds_iff, mapM_succeeds_iff]
    · intro ops' hperm hkeys
      have hne' : ops' ≠ [] := fun hnil => hne (List.perm_nil.mp (hnil ▸ hperm))
      have hops' : ∀ entry ∈ ops', isOperatorKey entry.1 = true := fun entry hentry =>
        hops entry (hperm.mem_iff.mpr hentry)
      rw [meaning_operators hp ops hne hops, meaning_operators hp ops' hne' hops']
      exact conjunction_perm _ _ _ (operators_perm ops ops' hperm hkeys) fun o _ m hm =>
        answers_of_field p hp (.document o) m hm

/-- Two entries in either order, and a pattern that is put together from both sides of another
operator. -/
theorem implicit_conjunction_swapped :
    (meaning [("a", .int32 1), ("b", .boolean true)]).toOption =
        (meaning [("b", .boolean true), ("a", .int32 1)]).toOption ∧
      meaning [("a", .document
          [("$options", .string "i"), ("$gt", .string "b"), ("$regex", .string "x")])] =
        conjunction <$> [[("$regex", .string "x"), ("$options", .string "i")],
          [("$gt", .string "b")]].mapM fun o => meaning [("a", .document o)] := by
  obtain ⟨-, -, -, hperm, hoperators⟩ := implicit_conjunction
  obtain ⟨hmeaning, -, -⟩ := hoperators "a" (by decide)
    [("$options", .string "i"), ("$gt", .string "b"), ("$regex", .string "x")]
    (List.cons_ne_nil _ _) (by simp; decide)
  refine ⟨hperm _ _ (.swap _ _ _) (.intro ?_ ?_), hmeaning⟩
  · simp
  · simp [logicalKeys]

end Query

end Docbase
