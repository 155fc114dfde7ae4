import Docbase.Proofs.Database.Steps
import Docbase.Proofs.MapReduce.Phases

/-!
The course of a search and of a job. A job is turned down with the store as it was, or it runs:
then it ends as soon as its destination is ready, or it writes its results.
-/
namespace Docbase.Database

open MapReduce

/-- A search that cannot be answered: its filter or its sort cannot be read, or a script of the
filter fails on a document. -/
inductive Unanswerable (name : String) (options : FindOptions) (s : Store) : Prop
  | query (e : QueryError) (h : Filter.compile options.filter = .error e)
  | sort (e : Malformed) (h : SortSpec.parse options.sort = .error e)
  | script (filter : Filter) (docs : List Document) (e : ScriptError)
      (hfilter : Filter.compile options.filter = .ok filter) (hdocs : s.scan name = .ok docs)
      (h : filter.select docs = .error e)

/-- The search for the documents that a job maps. -/
def selection (job : Job) : FindOptions := ⟨job.query, job.sort, job.limit⟩

/-- A job that is turned down before the store is changed: it lacks a function, where its
results go cannot be read, or its documents cannot be found. -/
inductive Refused (name : String) (job : Job) (s : Store) : Prop
  | invalid (e : JobError) (h : job.validate = .error e)
  | output (e : OutputError) (h : Output.parse s.ids.next job.out = .error e)
  | search (h : Unanswerable name (selection job) s)

/-- A job that is not refused, with where its results go and the documents to be mapped. -/
structure Accepted (name : String) (job : Job) (s : Store) (output : Output)
    (docs : List Document) : Prop where
  valid : job.validate = .ok ()
  parsed : Output.parse s.ids.next job.out = .ok output
  selected : find name (selection job) s = .ok docs s

theorem select_cases (name : String) (filter : Filter) (sort : SortSpec) (limit : ℕ) (s : Store) :
    (∃ docs, select name filter sort limit s = .ok docs s ∧
      ∀ stored e, s.scan name = .ok stored → filter.select stored ≠ .error e) ∨
      ∃ stored e, s.scan name = .ok stored ∧ filter.select stored = .error e ∧
        select name filter sort limit s = .error (.script e) s := by
  unfold select
  cases hscan : s.scan name with
  | error e => exact Or.inl ⟨_, rfl, fun _ _ h => by cases h⟩
  | ok stored =>
    cases hselect : filter.select stored with
    | error e => exact Or.inr ⟨stored, e, rfl, hselect, by simp only [hselect]⟩
    | ok matched =>
      refine Or.inl ⟨_, by simp only [hselect]; rfl, fun stored' e h => ?_⟩
      cases h
      rw [hselect]
      exact nofun

theorem compileFilter_eq {query : Document} {filter : Filter}
    (h : Filter.compile query = .ok filter) (s : Store) :
    compileFilter query s = .ok filter s := by
  rw [compileFilter, h]
  rfl

theorem parseSort_eq {spec : Document} {sort : SortSpec} (h : SortSpec.parse spec = .ok sort)
    (s : Store) : parseSort spec s = .ok sort s := by
  rw [parseSort, h]
  rfl

/-- Searching leaves the store as it was, and it fails exactly when there is no answer. -/
theorem find_cases (name : String) (options : FindOptions) (s : Store) :
    (¬Unanswerable name options s ∧ ∃ docs, find name options s = .ok docs s) ∨
      Unanswerable name options s ∧ ∃ e, find name options s = .error e s := by
  cases hfilter : Filter.compile options.filter with
  | error e =>
    have hcompile : compileFilter options.filter s = .error (.ofQuery e) s := by
      rw [compileFilter, hfilter]
      rfl
    exact Or.inr ⟨.query e hfilter, _, Script.Run.bind_error hcompile⟩
  | ok filter =>
    rw [find, Script.Run.bind_ok (compileFilter_eq hfilter s)]
    cases hsort : SortSpec.parse options.sort with
    | error e =>
      have hparse : parseSort options.sort s = .error (.query e) s := by
        rw [parseSort, hsort]
        rfl
      exact Or.inr ⟨.sort e hsort, _, Script.Run.bind_error hparse⟩
    | ok sort =>
      rw [Script.Run.bind_ok (parseSort_eq hsort s)]
      rcases select_cases name filter sort options.limit s with
        ⟨docs, hselect, hnone⟩ | ⟨stored, e, hstored, he, hselect⟩
      · refine Or.inl ⟨fun h => ?_, docs, hselect⟩
        cases h with
        | query e h => cases hfilter.symm.trans h
        | sort e h => cases hsort.symm.trans h
        | script filter' stored e hfilter' hstored h =>
          cases hfilter.symm.trans hfilter'
          exact hnone stored e hstored h
      · exact Or.inr ⟨.script filter stored e hfilter hstored he, _, hselect⟩

theorem Accepted.not_refused {name : String} {job : Job} {s : Store} {output : Output}
    {docs : List Document} (h : Accepted name job s output docs) : ¬Refused name job s := by
  intro hrefused
  cases hrefused with
  | invalid e he => cases h.valid.symm.trans he
  | output e he => cases h.parsed.symm.trans he
  | search hsearch =>
    rcases find_cases name (selection job) s with ⟨hanswer, -⟩ | ⟨-, e, herror⟩
    · exact hanswer hsearch
    · cases h.selected.symm.trans herror

/-- What a job does before it runs: where its results go, and the documents to be mapped. -/
def accept (name : String) (job : Job) : StoreM (Output × List Document) := do
  StoreM.ofExcept (job.validate.mapError .invalidJob)
  let output ← StoreM.ofExcept ((Output.parse (← spareId) job.out).mapError .output)
  let docs ← find name (selection job)
  return (output, docs)

theorem mapReduce_eq (settings : Settings) (name : String) (job : Job) :
    mapReduce settings name job = (do
      let (output, docs) ← accept name job
      output.during (runJob settings job output docs)) := by
  simp only [mapReduce, accept, find, selection, bind_assoc, pure_bind]

/-- A job is turned down, or its documents are found; the store stays as it was. -/
theorem accept_cases (name : String) (job : Job) (s : Store) :
    (Refused name job s ∧ ∃ e, accept name job s = .error e s) ∨
      ¬Refused name job s ∧ ∃ output docs, Accepted name job s output docs ∧
        accept name job s = .ok (output, docs) s := by
  unfold accept
  cases hvalid : job.validate with
  | error e => exact Or.inl ⟨.invalid e hvalid, _, rfl⟩
  | ok =>
    have hunit : StoreM.ofExcept ((Except.ok () : Except JobError Unit).mapError .invalidJob) s =
        .ok () s := rfl
    have hspare : spareId s = .ok s.ids.next s := rfl
    rw [Script.Run.bind_ok hunit, Script.Run.bind_ok hspare]
    cases hparsed : Output.parse s.ids.next job.out with
    | error e => exact Or.inl ⟨.output e hparsed, _, rfl⟩
    | ok output =>
      have houtput : StoreM.ofExcept ((Except.ok output : Except OutputError Output).mapError
          .output) s = .ok output s := rfl
      rw [Script.Run.bind_ok houtput]
      rcases find_cases name (selection job) s with ⟨-, docs, hfind⟩ | ⟨hsearch, e, hfind⟩
      · rw [Script.Run.bind_ok hfind]
        have haccepted : Accepted name job s output docs := ⟨hvalid, hparsed, hfind⟩
        exact Or.inr ⟨haccepted.not_refused, output, docs, haccepted, rfl⟩
      · exact Or.inl ⟨.search hsearch, e, Script.Run.bind_error hfind⟩

/-- A job is turned down with the store as it was, or it runs. -/
theorem mapReduce_cases (settings : Settings) (name : String) (job : Job) (s : Store) :
    (Refused name job s ∧ ∃ e, mapReduce settings name job s = .error e s) ∨
      ¬Refused name job s ∧ ∃ output docs, Accepted name job s output docs ∧
        mapReduce settings name job s = output.during (runJob settings job output docs) s := by
  rw [mapReduce_eq]
  rcases accept_cases name job s with
    ⟨hrefused, e, herror⟩ | ⟨hnot, output, docs, haccepted, hok⟩
  · exact Or.inl ⟨hrefused, e, Script.Run.bind_error herror⟩
  · exact Or.inr ⟨hnot, output, docs, haccepted, Script.Run.bind_ok hok⟩

/-- An inline job writes to a collection of a name that the id supply gives. -/
theorem temporary_of_inline (id : ObjectId) (v : Value) (o : Output) (h : Output.parse id v = .ok o)
    (hmode : o.mode = .inline) : o.collection = Output.temporary id := by
  have hother (mode : OutputMode) (name : Except OutputError String) (hne : mode ≠ .inline) :
      (do return ⟨mode, ← name⟩ : Except OutputError Output) ≠ .ok o := by
    intro hok
    cases name with
    | error e => cases hok
    | ok target =>
      cases hok
      exact hne hmode
  unfold Output.parse at h
  split at h
  · exact absurd h (hother .replace _ nofun)
  · split at h
    · exact absurd h (hother .replace _ nofun)
    · exact absurd h (hother .merge _ nofun)
    · exact absurd h (hother .reduce _ nofun)
    · split at h
      · cases h
        rfl
      · cases h
    · cases h
  · cases h
  · cases h

/-- Once its destination is ready, a job fails in its scripts or because its results are refused,
and then the store is left at that, or it writes its results. -/
theorem runJob_cases (settings : Settings) (job : Job) (o : Output) (docs : List Document)
    (s : Store) :
    (∃ e, e.IsLate ∧ runJob settings job o docs s = .error e (o.prepared s) ∧
      ∀ rs emitted, job.evaluate settings.scriptBatchChars docs = .ok (rs, emitted) →
        o.addAll rs (o.prepared s) = .error e (o.prepared s)) ∨
      ∃ rs emitted s' found,
        job.evaluate settings.scriptBatchChars docs = .ok (rs, emitted) ∧
        o.addAll rs (o.prepared s) = .ok () s' ∧ Store.Writes o.collection s s' ∧
        o.results settings.name s' = .ok found s' ∧
        runJob settings job o docs s =
          .ok ⟨found, ⟨docs.length, emitted, rs.length, rs.length⟩⟩ s' := by
  have hprepared := o.writes_prepared s
  rw [runJob, Script.Run.bind_ok (o.init_eq s)]
  cases hevaluate : job.evaluate settings.scriptBatchChars docs with
  | error e => exact Or.inl ⟨.script e, trivial, rfl, nofun⟩
  | ok result =>
    obtain ⟨rs, emitted⟩ := result
    obtain ⟨keys, values, -, hrs⟩ := Job.evaluate_eq_ok hevaluate
    have hids : ∀ d ∈ rs, d.Identified := hrs ▸ identified_zipWith_resultOf keys values
    have hresult : StoreM.ofExcept ((Except.ok (rs, emitted) :
        Except ScriptError (List Document × ℕ)).mapError .script) (o.prepared s) =
        .ok (rs, emitted) (o.prepared s) := rfl
    rw [Script.Run.bind_ok hresult]
    dsimp only
    rcases o.addAll_cases rs hids (o.prepared s) hprepared.has with
      ⟨e, hlate, h⟩ | ⟨s', h, hwrites⟩
    · refine Or.inl ⟨e, hlate, Script.Run.bind_error h, fun rs' emitted' heq => ?_⟩
      cases heq
      exact h
    · obtain ⟨found, hfound⟩ := o.results_ok settings.name s' hwrites.has
      rw [Script.Run.bind_ok h, Script.Run.bind_ok hfound]
      exact Or.inr ⟨rs, emitted, s', found, rfl, h, hprepared.trans hwrites, hfound, rfl⟩

/-- The course of a job that succeeds, up to where its results are given back. -/
theorem mapReduce_eq_ok {settings : Settings} {name : String} {job : Job} {s s' : Store}
    {outcome : Outcome} (h : mapReduce settings name job s = .ok outcome s') :
    ∃ output docs rs emitted s₁, Accepted name job s output docs ∧
      job.evaluate settings.scriptBatchChars docs = .ok (rs, emitted) ∧
      output.addAll rs (output.prepared s) = .ok () s₁ ∧
      output.results settings.name s₁ = .ok outcome.results s₁ ∧
      outcome.counts = ⟨docs.length, emitted, rs.length, rs.length⟩ := by
  rcases mapReduce_cases settings name job s with
    ⟨-, e, herror⟩ | ⟨-, output, docs, haccepted, hduring⟩
  · cases herror.symm.trans h
  rw [hduring] at h
  rcases runJob_cases settings job output docs s with
    ⟨e, -, hrun, -⟩ | ⟨rs, emitted, s₁, found, hevaluate, hadd, -, hfound, hrun⟩
  · by_cases hinline : output.mode = .inline
    · cases (Output.during_error hinline hrun).symm.trans h
    · rw [Output.during_eq hinline] at h
      cases hrun.symm.trans h
  · refine ⟨output, docs, rs, emitted, s₁, haccepted, hevaluate, hadd, ?_⟩
    by_cases hinline : output.mode = .inline
    · cases (Output.during_ok hinline hrun).symm.trans h
      exact ⟨hfound, rfl⟩
    · rw [Output.during_eq hinline] at h
      cases hrun.symm.trans h
      exact ⟨hfound, rfl⟩

/-- A job that merges its results succeeds as soon as its scripts do. -/
theorem merge_succeeds (settings : Settings) {name : String} {job : Job} {s : Store}
    {output : Output} {docs rs : List Document} {emitted : ℕ}
    (haccepted : Accepted name job s output docs) (hmode : output.mode = .merge)
    (hevaluate : job.evaluate settings.scriptBatchChars docs = .ok (rs, emitted)) :
    ∃ found s', mapReduce settings name job s =
      .ok ⟨found, ⟨docs.length, emitted, rs.length, rs.length⟩⟩ s' := by
  rcases mapReduce_cases settings name job s with ⟨hrefused, -⟩ | ⟨-, output', docs', h, hrun⟩
  · exact absurd hrefused haccepted.not_refused
  · cases haccepted.parsed.symm.trans h.parsed
    cases haccepted.selected.symm.trans h.selected
    rw [hrun, Output.during_eq (hmode ▸ nofun)]
    rcases runJob_cases settings job output docs s with
      ⟨e, -, -, hcause⟩ | ⟨rs', emitted', s', found, hevaluate', -, -, -, hok⟩
    · obtain ⟨keys, values, -, hrs⟩ := Job.evaluate_eq_ok hevaluate
      have hids : ∀ d ∈ rs, d.Identified := hrs ▸ identified_zipWith_resultOf keys values
      obtain ⟨s', hmerged, -⟩ := output.upsertAll_ok rs hids _ (output.writes_prepared s).has
      have hadded : output.addAll rs (output.prepared s) = .ok () s' := by
        rwa [Output.addAll, hmode]
      cases hadded.symm.trans (hcause rs emitted hevaluate)
    · cases hevaluate.symm.trans hevaluate'
      exact ⟨found, s', hok⟩

/-- Ids that count up. -/
def countingIds : IdSupply := ⟨fun n => ⟨List.replicate 11 0 ++ [UInt8.ofNat n], rfl⟩, 0⟩

/-- A collection that holds one document. -/
def oneDocument : Store :=
  ⟨[("a", Collection.empty.append (.int32 1) [("_id", .int32 1)])], countingIds⟩

/-- The result that has two numbers for its id and its value. -/
def numbered (n : Int32 × Int32) : Document := [("_id", .int32 n.1), ("value", .int32 n.2)]

def areNumbered : List Document → List (Int32 × Int32) → Bool
  | [], [] => true
  | [("_id", .int32 k), ("value", .int32 v)] :: rs, n :: ns =>
    k == n.1 && v == n.2 && areNumbered rs ns
  | _, _ => false

theorem eq_of_areNumbered {rs : List Document} {ns : List (Int32 × Int32)}
    (h : areNumbered rs ns = true) : rs = ns.map numbered := by
  fun_induction areNumbered rs ns with
  | case1 => rfl
  | case2 k v rs n ns ih =>
    simp only [Bool.and_eq_true, beq_iff_eq] at h
    obtain ⟨⟨rfl, rfl⟩, hrest⟩ := h
    rw [List.map_cons, ih hrest]
    rfl
  | case3 => cases h

/-- Whether a job gives results of two numbers each, after a number of emissions. -/
def givesNumbers (ns : List (Int32 × Int32)) (emitted : ℕ) :
    Except ScriptError (List Document × ℕ) → Bool
  | .ok (rs, n) => areNumbered rs ns && n == emitted
  | .error _ => false

theorem eq_of_givesNumbers {ns : List (Int32 × Int32)} {emitted : ℕ}
    {r : Except ScriptError (List Document × ℕ)} (h : givesNumbers ns emitted r = true) :
    r = .ok (ns.map numbered, emitted) := by
  unfold givesNumbers at h
  split at h
  · simp only [Bool.and_eq_true, beq_iff_eq] at h
    obtain ⟨hrs, rfl⟩ := h
    rw [eq_of_areNumbered hrs]
  · cases h

end Docbase.Database
