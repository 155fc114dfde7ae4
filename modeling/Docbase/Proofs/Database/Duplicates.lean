import Docbase.Proofs.Database.Effect
import Docbase.Proofs.MapReduce.Comparison
import Docbase.Proofs.MapReduce.Phases
import Docbase.Proofs.MapReduce.PlainKeys

/-!
Results that do not get into each other's way. A batch of documents with different ids goes into
an empty collection as a whole. The results of a job have different ids if the job emits plain
keys of which no two are parted.
-/
namespace Docbase

/-! Batches of different ids. -/

namespace Merge

open ListStore

variable {stored batch : List Document} {keys : List Value}

theorem firstTaken_of_distinct (h : Distinct (stored ++ batch)) :
    firstTaken stored batch = none := by
  induction batch generalizing stored with
  | nil => rfl
  | cons d batch ih =>
    have hfree : ¬stored.any (hasId (idOf d)) = true := by
      rw [any_hasId_iff d stored fun e he => h.identified e (List.mem_append_left _ he)]
      have hnodup := h.nodup
      rw [List.map_append, List.map_cons] at hnodup
      exact fun hmem => List.disjoint_of_nodup_append hnodup hmem List.mem_cons_self
    rw [firstTaken_cons, if_neg hfree]
    exact ih (by rwa [List.append_assoc, List.singleton_append])

/-- Results have different ids if their keys do. -/
theorem distinct_results (h : (keys.map Key.ofValue).Nodup) (values : List Value) :
    Distinct (List.zipWith MapReduce.resultOf keys values) := by
  have hsub (keys values : List Value) :
      ((List.zipWith MapReduce.resultOf keys values).map key).Sublist
        (keys.map Key.ofValue) := by
    induction keys generalizing values with
    | nil => exact .slnil
    | cons k keys ih =>
      cases values with
      | nil => exact List.nil_sublist _
      | cons v values => exact (ih values).cons_cons (Key.ofValue k)
  exact ⟨MapReduce.identified_zipWith_resultOf keys values, h.sublist (hsub keys values)⟩

end Merge

namespace Collection

/-- Documents with ids go in, unless an id is there or comes twice. -/
theorem insertAll_cases (c : Collection) (hc : c.WellIndexed) {docs : List Document}
    (hdocs : ∀ d ∈ docs, d.Identified) (ids : IdSupply) :
    match ListStore.firstTaken c.docs.toList docs with
    | some id => c.insertAll ids docs = .error id
    | none => ∃ r, c.insertAll ids docs = .ok r := by
  have hall := insertAll_eq docs c hc ids
  rw [completeAll_identified docs hdocs ids] at hall
  cases hinsert : c.insertAll ids docs with
  | error e =>
    rw [hinsert] at hall
    cases hfirst : ListStore.firstTaken c.docs.toList docs with
    | none => simp [hfirst, Except.map] at hall
    | some id =>
      simp only [hfirst, Except.map, Except.error.injEq] at hall
      exact congrArg Except.error hall
  | ok r =>
    rw [hinsert] at hall
    cases hfirst : ListStore.firstTaken c.docs.toList docs with
    | none => exact ⟨r, rfl⟩
    | some id => simp [hfirst, Except.map] at hall

end Collection

namespace MapReduce.Output

theorem find_prepared (o : Output) (hcleared : o.isCleared = true) (s : Store) :
    (o.prepared s).find o.collection = .ok .empty := by
  rw [prepared, if_pos hcleared]
  exact Store.find_put _ o.collection .empty _ (s.has_create o.collection)

/-- A destination that is cleared takes results with ids, unless an id comes twice. -/
theorem addAll_cleared (o : Output) (ho : o.mode = .replace ∨ o.mode = .inline) (s : Store)
    {rs : List Document} (hrs : ∀ d ∈ rs, d.Identified) :
    match ListStore.firstTaken [] rs with
    | some id => o.addAll rs (o.prepared s) =
        .error (.store (.duplicateKey o.collection id)) (o.prepared s)
    | none => ∃ s', o.addAll rs (o.prepared s) = .ok () s' ∧ Store.Writes o.collection s s' := by
  have hcleared : o.isCleared = true := by
    rw [isCleared]
    rcases ho with ho | ho <;> rw [ho] <;> rfl
  have hfind := o.find_prepared hcleared s
  have hadd : o.addAll rs (o.prepared s) =
      (do let _ ← StoreM.insertMany o.collection rs) (o.prepared s) := by
    rw [addAll]
    rcases ho with ho | ho <;> rw [ho]
  have hinsert := Collection.insertAll_cases .empty Collection.wellIndexed_empty hrs
    (o.prepared s).ids
  have hempty : Collection.empty.docs.toList = [] := rfl
  rw [hempty] at hinsert
  cases hfirst : ListStore.firstTaken [] rs with
  | some id =>
    simp only [hfirst] at hinsert ⊢
    have hmany : StoreM.insertMany o.collection rs (o.prepared s) =
        .error (.store (.duplicateKey o.collection id)) (o.prepared s) := by
      rw [StoreM.insertMany, StoreM.ofStore, Store.insertMany, hfind]
      simp only [bind, Except.bind, hinsert]
      rfl
    rw [hadd, Script.Run.bind_error hmany]
  | none =>
    simp only [hfirst] at hinsert ⊢
    obtain ⟨⟨inserted, c, ids⟩, hinsert⟩ := hinsert
    have hmany : ∃ s', StoreM.insertMany o.collection rs (o.prepared s) = .ok inserted s' := by
      rw [StoreM.insertMany, StoreM.ofStore, Store.insertMany, hfind]
      simp only [bind, Except.bind, hinsert]
      exact ⟨_, rfl⟩
    obtain ⟨s', hmany⟩ := hmany
    rw [Script.Run.bind_ok hmany] at hadd
    rcases o.addAll_cases rs hrs (o.prepared s) (o.writes_prepared s).has with
      ⟨e, -, herror⟩ | ⟨s'', hok, hwrites⟩
    · cases hadd.symm.trans herror
    · exact ⟨s'', hok, (o.writes_prepared s).trans hwrites⟩

end MapReduce.Output

namespace MapReduce

/-! The keys of a job. -/

/-- A job that emits plain keys of which no two are parted, and leaves the registry and null
alone. -/
def EmitsPlainly (batchSize : ℕ) (job : Job) (docs : List Document) : Prop :=
  ∀ scope, mapAll batchSize job docs .fresh = .ok () scope → ∃ ems,
    Undisturbed ems scope.heap ∧ ems.length < 2 ^ 63 ∧ (∀ e ∈ ems, IsPlain e.key) ∧
    ∀ e ∈ ems, ∀ e' ∈ ems, ¬Parted e.key e'.key

/-- Keys of which no two are parted have different values. -/
theorem nodup_plainKeys {ems : List Emission} (hplain : ∀ e ∈ ems, IsPlain e.key)
    (hparted : ∀ e ∈ ems, ∀ e' ∈ ems, ¬Parted e.key e'.key) :
    (((firstKeys ems).map plainValue).map Key.ofValue).Nodup := by
  rw [List.map_map]
  refine List.Nodup.map_on (fun k hk l hl heq => ?_) (nodup_classes ems).of_map
  obtain ⟨e, he, rfl⟩ := exists_of_mem_firstKeys hk
  obtain ⟨e', he', rfl⟩ := exists_of_mem_firstKeys hl
  by_contra hne
  have hclass : classOf e.key ≠ classOf e'.key := fun hsame =>
    hne (List.inj_on_of_nodup_map (nodup_classes ems) hk hl hsame)
  exact hparted e he e' he' ((plain_keys (hplain e he) (hplain e' he')).2.mp ⟨hclass, heq⟩)

/-- The results of a job that emits plain keys have different ids. -/
theorem EmitsPlainly.distinct {batchSize : ℕ} {job : Job} {docs rs : List Document} {emitted : ℕ}
    (h : EmitsPlainly batchSize job docs) (hrun : job.evaluate batchSize docs = .ok (rs, emitted)) :
    Merge.Distinct rs := by
  obtain ⟨keys, values, ⟨scope, hmap⟩, rfl⟩ := Job.evaluate_eq_ok hrun
  rw [mapPhase_eq] at hmap
  obtain ⟨_, scope', hall, hkeys⟩ := bind_eq_ok hmap
  obtain ⟨ems, hundisturbed, hcount, hplain, hparted⟩ := h scope' hall
  obtain rfl := hundisturbed.global_keys hplain hcount (globalArray_eq_ok hkeys)
  exact Merge.distinct_results (nodup_plainKeys hplain hparted) values

end MapReduce

namespace Database

open MapReduce

variable {settings : Settings} {name : String} {job : Job} {o : Output} {docs : List Document}
  {s s' : Store} {cause : StoreError}

/-! Errors of the store. -/

theorem ofExcept_eq_error {α ε : Type} {x : Except ε α} {f : ε → DbError} {e : DbError}
    (h : StoreM.ofExcept (x.mapError f) s = .error e s') : ∃ reason, e = f reason := by
  cases x with
  | ok a => cases h
  | error reason =>
    cases h
    exact ⟨reason, rfl⟩

theorem find_ne_store (options : FindOptions) (s s' : Store) :
    find name options s ≠ .error (.store cause) s' := by
  intro h
  rcases bind_eq_error h with hcompile | ⟨filter, s₁, -, h⟩
  · obtain ⟨reason, heq⟩ := ofExcept_eq_error hcompile
    cases reason <;> cases heq
  rcases bind_eq_error h with hparse | ⟨sort, s₂, -, h⟩
  · obtain ⟨reason, heq⟩ := ofExcept_eq_error hparse
    cases heq
  rcases select_cases name filter sort options.limit s₂ with
    ⟨docs, hok, -⟩ | ⟨stored, e, -, -, herror⟩
  · cases hok.symm.trans h
  · cases herror.symm.trans h

/-- No job is turned down by the store. -/
theorem accept_ne_store (job : Job) (s s' : Store) :
    accept name job s ≠ .error (.store cause) s' := by
  intro h
  rcases bind_eq_error h with hvalid | ⟨_, s₁, -, h⟩
  · obtain ⟨reason, heq⟩ := ofExcept_eq_error hvalid
    cases heq
  rcases bind_eq_error h with hspare | ⟨id, s₂, -, h⟩
  · cases hspare
  rcases bind_eq_error h with houtput | ⟨output, s₃, -, h⟩
  · obtain ⟨reason, heq⟩ := ofExcept_eq_error houtput
    cases heq
  rcases bind_eq_error h with hfind | ⟨docs, s₄, -, h⟩
  · exact find_ne_store (selection job) s₃ s' hfind
  · cases h

/-- A destination that is cleared takes the results of a job that have different ids. -/
theorem runJob_ne_store (ho : o.mode = .replace ∨ o.mode = .inline)
    (hdistinct : ∀ rs emitted, job.evaluate settings.scriptBatchChars docs = .ok (rs, emitted) →
      Merge.Distinct rs) (s s' : Store) :
    runJob settings job o docs s ≠ .error (.store cause) s' := by
  intro h
  rw [runJob, Script.Run.bind_ok (o.init_eq s)] at h
  rcases bind_eq_error h with hscript | ⟨⟨rs, emitted⟩, s₁, hevaluate, h⟩
  · obtain ⟨reason, heq⟩ := ofExcept_eq_error hscript
    cases heq
  cases hresult : job.evaluate settings.scriptBatchChars docs with
  | error e =>
    rw [hresult] at hevaluate
    cases hevaluate
  | ok result =>
    rw [hresult] at hevaluate
    cases hevaluate
    have hrs := hdistinct rs emitted hresult
    have hnone : ListStore.firstTaken [] rs = none := Merge.firstTaken_of_distinct hrs
    have hcleared := o.addAll_cleared ho s hrs.identified
    rw [hnone] at hcleared
    obtain ⟨s₂, hadd, hwrites⟩ := hcleared
    obtain ⟨found, hfound⟩ := o.results_ok settings.name s₂ hwrites.has
    dsimp only at h
    rw [Script.Run.bind_ok hadd, Script.Run.bind_ok hfound] at h
    cases h

theorem during_eq_error {α : Type} {x : StoreM α} {e : DbError} (h : o.during x s = .error e s') :
    ∃ s'', x s = .error e s'' := by
  by_cases hinline : o.mode = .inline
  · cases hx : x s with
    | ok a s₁ => cases (Output.during_ok hinline hx).symm.trans h
    | error e' s₁ =>
      cases (Output.during_error hinline hx).symm.trans h
      exact ⟨s₁, rfl⟩
  · rw [Output.during_eq hinline] at h
    exact ⟨s', h⟩

/-- A job fails in the store if an id comes twice among the results that are to stand alone. -/
theorem duplicate_fails (settings : Settings) {rs : List Document} {emitted : ℕ} {id : Value}
    (haccepted : Accepted name job s o docs) (ho : o.mode = .replace ∨ o.mode = .inline)
    (hevaluate : job.evaluate settings.scriptBatchChars docs = .ok (rs, emitted))
    (hid : ListStore.firstTaken [] rs = some id) :
    ∃ s', mapReduce settings name job s = .error (.store (.duplicateKey o.collection id)) s' := by
  obtain ⟨keys, values, -, hrs⟩ := Job.evaluate_eq_ok hevaluate
  have hcleared := o.addAll_cleared ho s (hrs ▸ identified_zipWith_resultOf keys values)
  rw [hid] at hcleared
  have hscript : StoreM.ofExcept ((job.evaluate settings.scriptBatchChars docs).mapError .script)
      (o.prepared s) = .ok (rs, emitted) (o.prepared s) := by
    rw [hevaluate]
    rfl
  have hrun : runJob settings job o docs s =
      .error (.store (.duplicateKey o.collection id)) (o.prepared s) := by
    rw [runJob, Script.Run.bind_ok (o.init_eq s), Script.Run.bind_ok hscript]
    exact Script.Run.bind_error hcleared
  rcases mapReduce_cases settings name job s with ⟨hrefused, -⟩ | ⟨-, o', docs', h, hjob⟩
  · exact absurd hrefused haccepted.not_refused
  · cases haccepted.parsed.symm.trans h.parsed
    cases haccepted.selected.symm.trans h.selected
    rw [hjob]
    by_cases hinline : o.mode = .inline
    · exact ⟨_, Output.during_error hinline hrun⟩
    · rw [Output.during_eq hinline]
      exact ⟨_, hrun⟩

/-- Plain keys are grouped by their values, but for keys that are parted or joined. A job that
emits plain keys of which no two are parted never fails in the store when its results replace
what was there or are given back. -/
theorem plain_keys_group_by_value :
    (∀ ems h, Undisturbed ems h → (∀ e ∈ ems, IsPlain e.key) → ems.length < 2 ^ 63 →
      ∀ e ∈ ems, ∀ e' ∈ ems, ∃ v v', h.valueOf e.key = .ok v ∧ h.valueOf e'.key = .ok v' ∧
        (slotOf h e.key = slotOf h e'.key ∧ v.equal v' = false ↔ Joined e.key e'.key) ∧
        (slotOf h e.key ≠ slotOf h e'.key ∧ v.equal v' = true ↔ Parted e.key e'.key)) ∧
    ∀ settings name job s,
      (∀ o, Output.parse s.ids.next job.out = .ok o → o.mode = .replace ∨ o.mode = .inline) →
      (∀ docs, find name (selection job) s = .ok docs s →
        EmitsPlainly settings.scriptBatchChars job docs) →
      ∀ cause s', mapReduce settings name job s ≠ .error (.store cause) s' := by
  refine ⟨fun ems h hrun hplain hcount e he e' he' => hrun.groups hplain hcount he he',
    fun settings name job s hout hplain cause s' hfail => ?_⟩
  rw [mapReduce_eq] at hfail
  rcases accept_cases name job s with ⟨-, e, herror⟩ | ⟨-, o, docs, haccepted, hok⟩
  · rw [Script.Run.bind_error herror] at hfail
    cases hfail
    exact accept_ne_store job _ _ herror
  · rw [Script.Run.bind_ok hok] at hfail
    obtain ⟨s₁, hrun⟩ := during_eq_error hfail
    exact runJob_ne_store (hout o haccepted.parsed)
      (fun rs emitted => (hplain docs haccepted.selected).distinct) s s₁ hrun

/-- A job that emits once for each document. -/
def constantJob : Job where
  map := "function() emit(1, 5) end"
  reduce := "function(key, values) return #values end"

/-- The registry before the emission: the document at hand has its tables by then. -/
def beforeEmission : Script.Heap := ((Registry.fresh.push .empty).push .empty).push .empty

theorem undisturbed_beforeEmission :
    Undisturbed [] beforeEmission ∧ Registry.Filed beforeEmission [] [] 0 := by
  have hpush {h : Script.Heap} (hrun : Undisturbed [] h ∧ Registry.Filed h [] [] 0) :
      Undisturbed [] (h.push .empty) ∧ Registry.Filed (h.push .empty) [] [] 0 := by
    have hsame := hrun.2.wired.untouched_push
    refine ⟨.other hrun.1 hsame ?_, hrun.2.untouched hsame⟩
    exact (hrun.1.namesNull (by simp) (by decide)).samePrelude fun q _ _ =>
      Script.Heap.table_push_empty h q
  exact hpush (hpush (hpush ⟨.fresh, Registry.filed_fresh⟩))

/-- Whether the map phase and the call of `emit` end with the registry of the one emission. -/
def endsWithOne : EStateM.Result ScriptError Scope Unit →
    EStateM.Result Script.Fault Script.Heap (List Script.Datum) → Bool
  | .ok _ scope, .ok _ h => Registry.untouched h scope.heap &&
      (scope.heap.table 6).metatable == some 7 &&
      (scope.heap.table 7).getText "__name" == .ofText "null"
  | _, _ => false

/-- What a map phase leaves that ends with the one emission. -/
theorem undisturbed_of_endsWithOne {scope : Scope}
    (hcheck : endsWithOne (mapAll 65536 job docs .fresh) (Script.Call.within 2 .start
      (.closure Registry.emitPlace) [.int 1, .int 5] beforeEmission) = true)
    (hall : mapAll 65536 job docs .fresh = .ok () scope) :
    Undisturbed [⟨.int 1, .int 5⟩] scope.heap := by
  have htrace : Script.Trace.start.hosted < Script.Trace.hostedLimit := by decide
  rw [hall] at hcheck
  cases hcall : Script.Call.within 2 .start (.closure Registry.emitPlace) [.int 1, .int 5]
      beforeEmission with
  | error fault h =>
    rw [hcall] at hcheck
    cases hcheck
  | ok ds h =>
    rw [hcall] at hcheck
    simp only [endsWithOne, Bool.and_eq_true, beq_iff_eq] at hcheck
    obtain ⟨⟨hsame, hmeta⟩, hname⟩ := hcheck
    exact .other (.emit undisturbed_beforeEmission.1 htrace hcall) (Registry.untouched_spec hsame)
      ⟨hmeta, hname⟩

theorem endsWithOne_constantJob :
    endsWithOne (mapAll 65536 constantJob [[("_id", .int32 1)]] .fresh) (Script.Call.within 2 .start
      (.closure Registry.emitPlace) [.int 1, .int 5] beforeEmission) = true := by
  decide +kernel

theorem emitsPlainly_constantJob : EmitsPlainly 65536 constantJob [[("_id", .int32 1)]] := by
  intro scope hall
  refine ⟨[⟨.int 1, .int 5⟩], undisturbed_of_endsWithOne endsWithOne_constantJob hall, by decide,
    ?_, ?_⟩
  · rw [List.forall_mem_singleton]
    exact .int 1
  · rw [List.forall_mem_singleton, List.forall_mem_singleton]
    exact id

/-- One number as an integer and as a double has one slot. -/
theorem plain_keys_group_by_value_one :
    (∃ h, Undisturbed [⟨.int 1, .int 5⟩, ⟨.double (.ofInt 1), .int 6⟩] h ∧
      slotOf h (.int 1) = slotOf h (.double (.ofInt 1))) ∧
    ∀ cause s', mapReduce {} "a" constantJob oneDocument ≠ .error (.store cause) s' := by
  obtain ⟨hgroups, hjobs⟩ := plain_keys_group_by_value
  constructor
  · have hplain : ∀ e ∈ ([⟨.int 1, .int 5⟩, ⟨.double (.ofInt 1), .int 6⟩] : List Emission),
        IsPlain e.key := by
      rw [List.forall_mem_cons, List.forall_mem_singleton]
      exact ⟨.int 1, .double (.ofInt 1)⟩
    obtain ⟨h, hrun⟩ := exists_undisturbed [[.int 1, .int 5], [.double (.ofInt 1), .int 6]]
      (by decide) hplain
    refine ⟨h, hrun, ?_⟩
    obtain ⟨v, v', hv, hv', -, hparted⟩ := hgroups _ h hrun hplain (by decide) _
      List.mem_cons_self _ (List.mem_cons_of_mem _ List.mem_cons_self)
    cases hv
    cases hv'
    by_contra hne
    have hspelled : (Binary64.ofInt 1).isSpelled = true := (hparted.mp ⟨hne, by decide +kernel⟩).1
    exact absurd hspelled (by decide +kernel)
  · have hparse : ∀ o, Output.parse oneDocument.ids.next constantJob.out = .ok o →
        o.mode = .replace ∨ o.mode = .inline := by
      intro o ho
      cases ho
      exact .inr rfl
    have hfind : find "a" (selection constantJob) oneDocument =
        .ok [[("_id", .int32 1)]] oneDocument := rfl
    refine hjobs {} "a" constantJob oneDocument hparse fun docs hdocs => ?_
    cases hfind.symm.trans hdocs
    exact emitsPlainly_constantJob

/-- The first id that comes twice among the results of a job. -/
def duplicateId? : Except ScriptError (List Document × ℕ) → Option Value
  | .ok (rs, _) => ListStore.firstTaken [] rs
  | .error _ => none

theorem exists_of_duplicateId? {r : Except ScriptError (List Document × ℕ)} {id : Value}
    (h : duplicateId? r = some id) :
    ∃ rs emitted, r = .ok (rs, emitted) ∧ ListStore.firstTaken [] rs = some id := by
  cases r with
  | error e => cases h
  | ok result => exact ⟨result.1, result.2, rfl, h⟩

/-- A job that emits two texts which are decoded to one. -/
def garblingJob : Job where
  map := "function() emit('\\xff', 1) emit('\\xfe', 2) end"
  reduce := "function(key, values) return #values end"

/-- Different texts that are decoded to one are grouped apart, and their results have one id. -/
theorem plain_keys_grouped_apart :
    (¬∀ ems h, Undisturbed ems h → (∀ e ∈ ems, IsPlain e.key) → ems.length < 2 ^ 63 →
      ∀ e ∈ ems, ∀ e' ∈ ems, ∃ v v', h.valueOf e.key = .ok v ∧ h.valueOf e'.key = .ok v' ∧
        (slotOf h e.key = slotOf h e'.key ↔ v.equal v' = true)) ∧
    ∃ collection id s', mapReduce {} "a" garblingJob oneDocument =
      .error (.store (.duplicateKey collection id)) s' := by
  constructor
  · intro hall
    have hplain : ∀ e ∈ ([⟨.text [0xFF], .int 1⟩, ⟨.text [0xFE], .int 2⟩] : List Emission),
        IsPlain e.key := by
      rw [List.forall_mem_cons, List.forall_mem_singleton]
      exact ⟨.text [0xFF], .text [0xFE]⟩
    obtain ⟨h, hrun⟩ := exists_undisturbed [[.text [0xFF], .int 1], [.text [0xFE], .int 2]]
      (by decide) hplain
    obtain ⟨v, v', hv, hv', hsame⟩ := hall _ h hrun hplain (by decide) _ List.mem_cons_self _
      (List.mem_cons_of_mem _ List.mem_cons_self)
    obtain ⟨w, w', hw, hw', -, hparted⟩ := hrun.groups hplain (by decide) List.mem_cons_self
      (List.mem_cons_of_mem _ List.mem_cons_self)
    cases hv
    cases hv'
    exact (hparted.mpr ⟨by decide, by decide +kernel⟩).1 (hsame.mpr (by decide +kernel))
  · have haccepted : Accepted "a" garblingJob oneDocument
        ⟨.inline, Output.temporary oneDocument.ids.next⟩ [[("_id", .int32 1)]] :=
      ⟨by decide +kernel, rfl, rfl⟩
    have hcheck : (duplicateId? (garblingJob.evaluate 65536 [[("_id", .int32 1)]])).isSome := by
      decide +kernel
    obtain ⟨id, hid⟩ := Option.isSome_iff_exists.mp hcheck
    obtain ⟨rs, emitted, hevaluate, htaken⟩ := exists_of_duplicateId? hid
    exact ⟨_, id, duplicate_fails {} haccepted (.inr rfl) hevaluate htaken⟩

end Database

end Docbase
