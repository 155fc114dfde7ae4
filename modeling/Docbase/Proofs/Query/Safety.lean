import Docbase.Proofs.Query.Acceptance
import Docbase.Proofs.Query.Evaluation
import Docbase.Proofs.Query.Part

/-!
Compiled filters never fail of themselves. Scripts stand only where conditions combine, never
inside a test, and a test for a remainder never divides by zero; so an evaluation fails only
when a script does.
-/
namespace Docbase

open Query

namespace Node

/-- Neither a script nor a division by zero. -/
def Harmless : Node → Prop
  | .filter (.script _) => False
  | .test (.modulo divisor _) => divisor ≠ 0
  | _ => True

/-- Harmless at any depth. -/
def Clean (n : Node) : Prop := ∀ m, Below m n → Harmless m

theorem Clean.of_inside (n : Node) (hself : Harmless n) (h : ∀ c, Inside c n → Clean c) :
    Clean n := (forall_below_iff n).mpr ⟨hself, h⟩

theorem Clean.inside (m n : Node) (h : Clean n) (hm : Inside m n) : Clean m :=
  ((forall_below_iff n).mp h).2 m hm

theorem Clean.below (m n : Node) (h : Clean n) (hm : Below m n) : Clean m :=
  fun k hk => h k (hk.trans hm)

end Node

open Node

/-- Scripts stand on the skeleton that conditions are combined by, if they may. -/
inductive Filter.Sound (scripts : Bool) : Filter → Prop
  | and {fs : List Filter} : (∀ f ∈ fs, Sound scripts f) → Sound scripts (.and fs)
  | or {fs : List Filter} : (∀ f ∈ fs, Sound scripts f) → Sound scripts (.or fs)
  | nor {fs : List Filter} : (∀ f ∈ fs, Sound scripts f) → Sound scripts (.nor fs)
  | field {path : Path} {t : FieldTest} : Clean (.test t) → Sound scripts (.field path t)
  | script {source : String} : scripts = true → Sound scripts (.script source)

theorem Filter.Sound.combine (scripts : Bool) (fs : List Filter) (h : ∀ f ∈ fs, Sound scripts f) :
    Sound scripts (Filter.combine fs) := by
  unfold Filter.combine
  split
  · exact h _ List.mem_cons_self
  · exact .and h

/-- A filter that may hold no scripts is clean throughout. -/
theorem Filter.Sound.clean (f : Filter) (h : Sound false f) : Clean (.filter f) := by
  induction h with
  | and _ ih | or _ ih | nor _ ih =>
    refine .of_inside _ trivial ?_
    rintro c ⟨⟩
    exact ih _ (by assumption)
  | field ht =>
    refine .of_inside _ trivial ?_
    rintro c ⟨⟩
    exact ht
  | script hno => simp at hno

namespace FieldTest

theorem clean_combine (regex : Option CompiledRegex) (ts : List FieldTest) (t : FieldTest)
    (h : combine regex ts = .ok t) (hts : ∀ u ∈ ts, Clean (.test u)) : Clean (.test t) := by
  have hall : ∀ u ∈ (regex.map FieldTest.regex).toList ++ ts, Clean (.test u) := by
    intro u hu
    rcases List.mem_append.mp hu with hu | hu
    · obtain ⟨c, -, rfl⟩ := Option.map_eq_some_iff.mp (Option.mem_toList.mp hu)
      refine .of_inside _ trivial ?_
      rintro _ ⟨⟩
    · exact hts u hu
  unfold combine at h
  split at h
  · cases h
  · next u hu =>
    cases h
    exact hall _ (by simp [hu])
  · cases h
    refine .of_inside _ trivial ?_
    rintro _ ⟨⟩
    exact hall _ (by assumption)

theorem clean_moduloOf (v : Value) (t : FieldTest) (h : moduloOf v = .ok t) :
    Clean (.test t) := by
  obtain ⟨-, -, m, n, -, -, -, hm, rfl⟩ := (moduloOf_eq_ok_iff v t).mp h
  refine .of_inside _ hm ?_
  rintro _ ⟨⟩

end FieldTest

namespace Query

/-- Whatever is compiled for a value is sound. -/
structure Safe (v : Value) : Prop where
  condition : ∀ t, FieldTest.compile v = .ok t → Clean (.test t)
  element : ∀ t, FieldTest.compileElement v = .ok t → Clean (.test t)
  members : ∀ scripts key fs, Filter.compileMembers scripts key v = .ok fs →
    ∀ f ∈ fs, f.Sound scripts
  query : ∀ d, v = .document d → ∀ scripts fs, Filter.compileFields scripts d = .ok fs →
    ∀ f ∈ fs, f.Sound scripts

theorem clean_of_testOf (v : Value) (h : Safe v) (t : FieldTest) (ht : TestOf v t) :
    Clean (.test t) := by
  cases ht with
  | modulo ht => exact FieldTest.clean_moduloOf v t ht
  | not ht =>
    refine .of_inside _ trivial ?_
    rintro _ ⟨⟩
    exact h.condition _ ht
  | element ht => exact h.element t ht
  | _ =>
    refine .of_inside _ trivial ?_
    rintro _ ⟨⟩

theorem clean_of_compileAll (d : Document) (h : ∀ entry ∈ d, Safe entry.2) (ts : List FieldTest)
    (hts : FieldTest.compileAll d = .ok ts) (t : FieldTest) (ht : t ∈ ts) : Clean (.test t) := by
  obtain ⟨entry, hentry, here, hhere, ht⟩ :=
    FieldTest.compileAll_byEntry.exists_of_mem d ts hts t ht
  rcases compileAll_entry_eq_ok entry.1 entry.2 here hhere with ⟨rfl, -⟩ | ⟨u, rfl, hu⟩
  · simp at ht
  · rw [List.mem_singleton.mp ht]
    exact clean_of_testOf entry.2 (h entry hentry) u hu

theorem clean_of_tests (d : Document) (h : ∀ entry ∈ d, Safe entry.2) (t : FieldTest)
    (ht : (do let regex ← FieldTest.regexOf? d
              FieldTest.combine regex (← FieldTest.compileAll d)) = .ok t) : Clean (.test t) := by
  simp only [bind_eq_ok_iff] at ht
  obtain ⟨regex, -, ts, hts, ht⟩ := ht
  exact FieldTest.clean_combine regex ts t ht (clean_of_compileAll d h ts hts)

/-- The filter of an entry, by what has been compiled for it. -/
inductive ClauseOf (scripts : Bool) (v : Value) : Filter → Prop
  | and {key : String} {fs : List Filter} :
      Filter.compileMembers scripts key v = .ok fs → ClauseOf scripts v (.and fs)
  | or {key : String} {fs : List Filter} :
      Filter.compileMembers scripts key v = .ok fs → ClauseOf scripts v (.or fs)
  | nor {key : String} {fs : List Filter} :
      Filter.compileMembers scripts key v = .ok fs → ClauseOf scripts v (.nor fs)
  | script {source : String} : scripts = true → ClauseOf scripts v (.script source)
  | field {path : Path} {t : FieldTest} :
      FieldTest.compile v = .ok t → ClauseOf scripts v (.field path t)

theorem ofScript_eq_ok (source : String) (f : Filter) (h : Filter.ofScript source = .ok f) :
    f = .script source := by
  unfold Filter.ofScript at h
  split at h
  · exact (Except.ok.inj h).symm
  · cases h

theorem compileFields_entry_eq_ok (scripts : Bool) (key : String) (v : Value) (fs : List Filter)
    (h : Filter.compileFields scripts [(key, v)] = .ok fs) :
    ∀ f ∈ fs, ClauseOf scripts v f := by
  rw [Filter.compileFields.eq_def] at h
  dsimp only at h
  have tail : Filter.compileFields scripts [] = .ok [] := rfl
  have single (f : Filter) (hf : ClauseOf scripts v f) : ∀ g ∈ [f], ClauseOf scripts v g := by
    simpa using hf
  cases hkey : QueryKey.ofText key <;> simp only [hkey] at h
  case and =>
    simp [tail, bind_eq_ok_iff] at h
    obtain ⟨fs, hfs, rfl⟩ := h
    exact single _ (.and hfs)
  case or =>
    simp [tail, bind_eq_ok_iff] at h
    obtain ⟨fs, hfs, rfl⟩ := h
    exact single _ (.or hfs)
  case nor =>
    simp [tail, bind_eq_ok_iff] at h
    obtain ⟨fs, hfs, rfl⟩ := h
    exact single _ (.nor hfs)
  case script =>
    cases scripts with
    | false => simp [bind_eq_ok_iff] at h
    | true =>
      cases v with
      | string source =>
        simp [tail, bind_eq_ok_iff] at h
        obtain ⟨f, hf, rfl⟩ := h
        rw [ofScript_eq_ok source f hf]
        exact single _ (.script rfl)
      | _ => simp [bind_eq_ok_iff] at h
  case comment =>
    simp [tail] at h
    simp [h]
  case unknown => simp [bind_eq_ok_iff] at h
  case field =>
    simp [tail, bind_eq_ok_iff] at h
    obtain ⟨t, ht, rfl⟩ := h
    exact single _ (.field ht)

theorem sound_of_compileFields (scripts : Bool) (d : Document) (h : ∀ entry ∈ d, Safe entry.2)
    (fs : List Filter) (hfs : Filter.compileFields scripts d = .ok fs) (f : Filter) (hf : f ∈ fs) :
    f.Sound scripts := by
  obtain ⟨entry, hentry, here, hhere, hf⟩ :=
    (Filter.compileFields_byEntry scripts).exists_of_mem d fs hfs f hf
  have hentry := h entry hentry
  cases compileFields_entry_eq_ok scripts entry.1 entry.2 here hhere f hf with
  | and hmembers => exact .and (hentry.members _ _ _ hmembers)
  | or hmembers => exact .or (hentry.members _ _ _ hmembers)
  | nor hmembers => exact .nor (hentry.members _ _ _ hmembers)
  | script hscripts => exact .script hscripts
  | field ht => exact .field (hentry.condition _ ht)

theorem sound_of_compileItems (scripts : Bool) (key : String) (items : List Value)
    (h : ∀ v ∈ items, Safe v) (fs : List Filter)
    (hfs : Filter.compileItems scripts key items = .ok fs) (f : Filter) (hf : f ∈ fs) :
    f.Sound scripts := by
  obtain ⟨v, hv, here, hhere, hf⟩ :=
    (Filter.compileItems_byEntry scripts key).exists_of_mem items fs hfs f hf
  cases v with
  | document d =>
    simp [Filter.compileItems, map_eq_ok_iff] at hhere
    obtain ⟨gs, hgs, rfl⟩ := hhere
    rw [List.mem_singleton.mp hf]
    exact .combine scripts gs ((h _ hv).query d rfl scripts gs hgs)
  | _ => simp [Filter.compileItems] at hhere

theorem safe_document (d : Document) (h : ∀ entry ∈ d, Safe entry.2) : Safe (.document d) where
  condition t ht := by
    rw [FieldTest.compile] at ht
    split at ht
    · exact clean_of_tests d h t ht
    · cases ht
      refine .of_inside _ trivial ?_
      rintro _ ⟨⟩
  element t ht := by
    rw [compileElement_document_eq] at ht
    split at ht
    · obtain ⟨u, hu, rfl⟩ := (map_eq_ok_iff _ _ _).mp ht
      refine .of_inside _ trivial ?_
      rintro _ ⟨⟩
      exact clean_of_tests d h u hu
    · obtain ⟨fs, hfs, rfl⟩ := (map_eq_ok_iff _ _ _).mp ht
      refine .of_inside _ trivial ?_
      rintro _ ⟨⟩
      exact Filter.Sound.clean _
        (.combine false fs fun f hf => sound_of_compileFields false d h fs hfs f hf)
  members scripts key fs hfs := by simp [Filter.compileMembers] at hfs
  query := by
    rintro _ ⟨⟩ scripts fs hfs f hf
    exact sound_of_compileFields scripts d h fs hfs f hf

theorem clean_compile (v : Value) (hd : ∀ d, v ≠ .document d) (t : FieldTest)
    (ht : FieldTest.compile v = .ok t) : Clean (.test t) := by
  have leaf : t = .equal v ∨ ∃ c, t = .regex c := by
    cases v with
    | document d => exact absurd rfl (hd d)
    | regex r =>
      simp only [FieldTest.compile, bind_pure_comp, map_eq_ok_iff] at ht
      obtain ⟨c, -, rfl⟩ := ht
      exact .inr ⟨c, rfl⟩
    | _ => exact .inl (Except.ok.inj ht).symm
  rcases leaf with rfl | ⟨c, rfl⟩
  all_goals
    refine .of_inside _ trivial ?_
    rintro _ ⟨⟩

theorem safe_array (items : List Value) (h : ∀ v ∈ items, Safe v) : Safe (.array items) where
  condition := clean_compile _ (by simp)
  element t ht := by simp [FieldTest.compileElement] at ht
  members scripts key fs hfs := by
    cases items with
    | nil => simp [Filter.compileMembers] at hfs
    | cons v rest =>
      rw [Filter.compileMembers] at hfs
      · exact sound_of_compileItems scripts key _ h fs hfs
      · simp
  query := by simp

theorem safe_other (v : Value) (hd : ∀ d, v ≠ .document d) (ha : ∀ items, v ≠ .array items) :
    Safe v where
  condition := clean_compile v hd
  element t ht := by cases v <;> simp_all [FieldTest.compileElement]
  members scripts key fs hfs := by cases v <;> simp_all [Filter.compileMembers]
  query d hv := absurd hv (hd d)

theorem safe (v : Value) : Safe v := by
  induction v using Value.nested_induction with
  | document d h => exact safe_document d h
  | array items h => exact safe_array items h
  | reference => exact safe_other _ (by simp) (by simp)
  | scalar v h =>
    cases v with
    | document | array | reference => cases h
    | _ => exact safe_other _ (by simp) (by simp)

theorem sound_of_compile (query : Document) (f : Filter) (h : Filter.compile query = .ok f) :
    f.Sound true := by
  obtain ⟨fs, hfs, rfl⟩ := (map_eq_ok_iff _ _ _).mp h
  exact .combine true fs (sound_of_compileFields true query (fun entry _ => safe entry.2) fs hfs)

end Query

/-! Where an evaluation fails. -/

namespace Node

/-- The node gives an answer, whatever it is put to. -/
def Answers : Node → Prop
  | .filter f => ∀ d e, f.matches d ≠ .error e
  | .test t => ∀ resolved e, t.holds resolved ≠ .error e

theorem answers_of_clean (n : Node) (h : n.Clean) : n.Answers := by
  induction n using inside_induction with
  | step n ih =>
    have inside (m : Node) (hm : Inside m n) : m.Answers := ih m hm (h.inside m n hm)
    cases n with
    | filter f =>
      intro d e he
      cases f with
      | and fs =>
        rw [Filter.matches_and, map_eq_error_iff] at he
        obtain ⟨f, hf, he⟩ := anyHolds_eq_error _ fs e he
        exact inside _ (.and hf) d e ((map_eq_error_iff _ _ _).mp he)
      | or fs =>
        rw [Filter.matches_or] at he
        obtain ⟨f, hf, he⟩ := anyHolds_eq_error _ fs e he
        exact inside _ (.or hf) d e he
      | nor fs =>
        rw [Filter.matches_nor, map_eq_error_iff] at he
        obtain ⟨f, hf, he⟩ := anyHolds_eq_error _ fs e he
        exact inside _ (.nor hf) d e he
      | field path t => exact inside _ .field (path.resolveIn d) e he
      | script source => exact h _ .refl
    | test t =>
      intro resolved e he
      cases t with
      | element t =>
        obtain ⟨v, -, he⟩ := anyHolds_eq_error _ _ e he
        exact inside _ .element [v] e he
      | elementQuery f =>
        obtain ⟨v, -, he⟩ := anyHolds_eq_error _ _ e he
        cases v with
        | document d => exact inside _ .elementQuery d e he
        | _ => cases he
      | not t =>
        rw [FieldTest.holds_not, map_eq_error_iff] at he
        exact inside _ .not resolved e he
      | and ts =>
        rw [FieldTest.holds_and, map_eq_error_iff] at he
        obtain ⟨t, ht, he⟩ := anyHolds_eq_error _ ts e he
        exact inside _ (.tests ht) resolved e ((map_eq_error_iff _ _ _).mp he)
      | _ => cases he

end Node

namespace Filter

/-- The first filter is among those that the second combines, however often it does. -/
inductive Combines (leaf : Filter) : Filter → Prop
  | self : Combines leaf leaf
  | and {f : Filter} {fs : List Filter} : f ∈ fs → Combines leaf f → Combines leaf (.and fs)
  | or {f : Filter} {fs : List Filter} : f ∈ fs → Combines leaf f → Combines leaf (.or fs)
  | nor {f : Filter} {fs : List Filter} : f ∈ fs → Combines leaf f → Combines leaf (.nor fs)

/-- An evaluation fails as one of the scripts does that the filter combines. -/
theorem Sound.matches_eq_error (f : Filter) (h : f.Sound true) (d : Document) (e : ScriptError)
    (he : f.matches d = .error e) :
    ∃ source, Combines (.script source) f ∧ (Filter.script source).matches d = .error e := by
  induction h with
  | @and fs _ ih =>
    rw [matches_and, map_eq_error_iff] at he
    obtain ⟨f, hf, he⟩ := anyHolds_eq_error _ fs e he
    obtain ⟨source, hsource, he⟩ := ih f hf ((map_eq_error_iff _ _ _).mp he)
    exact ⟨source, .and hf hsource, he⟩
  | @or fs _ ih =>
    rw [matches_or] at he
    obtain ⟨f, hf, he⟩ := anyHolds_eq_error _ fs e he
    obtain ⟨source, hsource, he⟩ := ih f hf he
    exact ⟨source, .or hf hsource, he⟩
  | @nor fs _ ih =>
    rw [matches_nor, map_eq_error_iff] at he
    obtain ⟨f, hf, he⟩ := anyHolds_eq_error _ fs e he
    obtain ⟨source, hsource, he⟩ := ih f hf he
    exact ⟨source, .nor hf hsource, he⟩
  | @field path t ht => exact absurd he (Node.answers_of_clean _ ht (path.resolveIn d) e)
  | @script source _ => exact ⟨source, .self, he⟩

theorem Sound.clean_of_below (f : Filter) (h : f.Sound true) (t : FieldTest)
    (ht : Below (.test t) (.filter f)) : Clean (.test t) := by
  induction h with
  | and _ ih | or _ ih | nor _ ih =>
    obtain hself | ⟨c, htc, hc⟩ := ht.cases_tail
    · cases hself
    · cases hc
      exact ih _ (by assumption) htc
  | field htest =>
    obtain hself | ⟨c, htc, hc⟩ := ht.cases_tail
    · cases hself
    · cases hc
      exact htest.below _ _ htc
  | script =>
    obtain hself | ⟨c, htc, hc⟩ := ht.cases_tail
    · cases hself
    · cases hc

end Filter

/-- The remainder of 64-bit integers is that of the integers, with the sign of the dividend,
for any divisor but zero; the least integer and minus one are no exception. -/
theorem remainder_exact (n divisor : Int64) (h : divisor ≠ 0) :
    n.toInt = divisor.toInt * n.toInt.tdiv divisor.toInt + (n % divisor).toInt ∧
      |(n % divisor).toInt| < |divisor.toInt| ∧ 0 ≤ n.toInt * (n % divisor).toInt := by
  have hne : divisor.toInt ≠ 0 := fun hzero => h (Int64.toInt_inj.mp hzero)
  rw [Int64.toInt_mod]
  refine ⟨(Int.mul_tdiv_add_tmod _ _).symm, ?_, ?_⟩
  · rw [Int.abs_eq_natAbs, Int.abs_eq_natAbs, Int.natAbs_tmod, Nat.cast_lt]
    exact Nat.mod_lt _ (Int.natAbs_pos.mpr hne)
  · rcases le_total 0 n.toInt with hpos | hneg
    · exact mul_nonneg hpos (Int.tmod_nonneg _ hpos)
    · have hrest := Int.tmod_nonneg divisor.toInt (neg_nonneg.mpr hneg)
      rw [Int.neg_tmod] at hrest
      exact mul_nonneg_of_nonpos_of_nonpos hneg (neg_nonneg.mp hrest)

theorem hasRemainder_iff (divisor remainder : Int64) (v : Value) (n : Int64)
    (hn : v.asInteger? = some n) :
    hasRemainder divisor remainder v = true ↔ n % divisor = remainder := by
  rw [hasRemainder, hn]
  simp [← Int64.toInt_inj, Int64.toInt_mod]

namespace Filter

/-- The evaluation of a compiled filter is safe. A test, at any depth, holds no script and
always has an answer, and if it asks for a remainder then by a divisor that gives every
integer one. What fails is a script that conditions combine, so without any the filter has an
answer for every document. -/
theorem evaluation_safe (query : Document) (f : Filter) (h : Filter.compile query = .ok f) :
    (∀ t, Below (.test t) (.filter f) →
      (∀ source, ¬ Below (.filter (.script source)) (.test t)) ∧
      (∀ divisor remainder, t = .modulo divisor remainder → divisor ≠ 0 ∧
        ∀ v n, v.asInteger? = some n →
          (hasRemainder divisor remainder v = true ↔ n % divisor = remainder) ∧
          n.toInt = divisor.toInt * n.toInt.tdiv divisor.toInt + (n % divisor).toInt ∧
          |(n % divisor).toInt| < |divisor.toInt| ∧ 0 ≤ n.toInt * (n % divisor).toInt) ∧
      ∀ resolved, ∃ answer, t.holds resolved = .ok answer) ∧
    (∀ d e, f.matches d = .error e →
      ∃ source, Combines (.script source) f ∧ (Filter.script source).matches d = .error e) ∧
    ((∀ source, ¬ Combines (.script source) f) → ∀ d, ∃ answer, f.matches d = .ok answer) := by
  have hsound := sound_of_compile query f h
  refine ⟨fun t ht => ⟨?_, ?_, ?_⟩, hsound.matches_eq_error f, ?_⟩
  · intro source hsource
    exact hsound.clean_of_below f t ht _ hsource
  · rintro divisor remainder rfl
    have hdivisor : divisor ≠ 0 := hsound.clean_of_below f _ ht _ .refl
    refine ⟨hdivisor, fun v n hn => ⟨hasRemainder_iff divisor remainder v n hn, ?_⟩⟩
    exact remainder_exact n divisor hdivisor
  · intro resolved
    have hanswers := answers_of_clean _ (hsound.clean_of_below f t ht) resolved
    cases hresult : t.holds resolved with
    | ok answer => exact ⟨answer, rfl⟩
    | error e => exact absurd hresult (hanswers e)
  · intro hno d
    cases hresult : f.matches d with
    | ok answer => exact ⟨answer, rfl⟩
    | error e =>
      obtain ⟨source, hsource, -⟩ := hsound.matches_eq_error f d e hresult
      exact absurd hsource (hno source)

/-- A divisor of minus one below a negation, in one of two queries. -/
def sampleQuery : Document :=
  [("$or", .array [
    .document [("n", .document [("$not", .document [("$mod", .array [.int32 (-1), .int64 0])])])],
    .document [("tags", .document [("$elemMatch", .document [("$gt", .int32 1)])])]])]

def sampleFilter : Filter :=
  .or [.field ⟨["n"]⟩ (.not (.modulo (-1) 0)),
    .field ⟨["tags"]⟩ (.element (.related .greater (.int32 1)))]

theorem evaluation_safe_sample :
    Filter.compile sampleQuery = .ok sampleFilter ∧
      Below (.test (.modulo (-1) 0)) (.filter sampleFilter) ∧
      (∀ v n, v.asInteger? = some n → (hasRemainder (-1) 0 v = true ↔ n % (-1) = 0)) ∧
      ∀ d, ∃ answer, sampleFilter.matches d = .ok answer := by
  have hcompile : Filter.compile sampleQuery = .ok sampleFilter := rfl
  have hbelow : Below (.test (.modulo (-1) 0)) (.filter sampleFilter) :=
    ((Relation.ReflTransGen.single .not).tail .field).tail (.or List.mem_cons_self)
  obtain ⟨htests, -, hanswers⟩ := evaluation_safe sampleQuery sampleFilter hcompile
  refine ⟨hcompile, hbelow, fun v n hn => ?_, hanswers fun source hsource => ?_⟩
  · exact (((htests _ hbelow).2.1 _ _ rfl).2 v n hn).1
  · cases hsource with
    | or hf hsource =>
      rcases List.mem_cons.mp hf with rfl | hf
      · cases hsource
      · rw [List.mem_singleton.mp hf] at hsource
        cases hsource

end Filter

end Docbase
