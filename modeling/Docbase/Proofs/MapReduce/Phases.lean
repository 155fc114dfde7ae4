import Docbase.MapReduce.Job
import Docbase.Proofs.MapReduce.Rounds
import Docbase.Proofs.Script.Links

/-!
The phases of a job as steps in its scope. The map phase leaves a registry, each later phase takes
its function from the job and goes through the slots, and at the end the results are read.
-/
namespace Docbase

open Script

namespace Scope

/-- The function that an expression gives, if it gives one. -/
def functionOf (name source : String) : ScopeM Datum := do
  let environment ← bindings
  checkName name
  let body ← orFailure (compileExpression source)
  return Operation.first (← run (Run.script name body environment))

theorem bind_eq_functionOf (x name source : String) :
    Scope.bind x name source = (do
      let f ← functionOf name source
      if f.isFunction then writeGlobal x f else throw (.notFunction f.kindName)) := by
  simp only [Scope.bind, functionOf, bind_assoc, pure_bind]

theorem run_eq_ok {α : Type} {x : Run α} {a : α} {s s' : Scope} (h : Scope.run x s = .ok a s') :
    x s.heap = .ok a s'.heap := by
  unfold Scope.run at h
  cases hx : x s.heap with
  | ok b h₁ =>
    rw [hx] at h
    obtain ⟨rfl, rfl⟩ := EStateM.Result.ok.inj h
    rfl
  | error fault h₁ =>
    rw [hx] at h
    cases h

/-- A global that is there. -/
theorem readGlobal_eq {x : String} {d : Datum} {s : Scope} (hx : (s.heap.table 0).getText x = d)
    (hpresent : d.isNil = false) : readGlobal x s = .ok d s := by
  have hindex : Operation.index call (.table Heap.globals) (.ofText x) s.heap = .ok d s.heap :=
    Operation.index_table call hx hpresent
  rw [readGlobal, Scope.run, hindex]

/-- A global that is there is read as its value. -/
theorem global_eq_ok {x : String} {d : Datum} {v : Value} {s s' : Scope}
    (hx : (s.heap.table 0).getText x = d) (hpresent : d.isNil = false)
    (h : Scope.global x s = .ok v s') : s.heap.valueOf d = .ok v ∧ s' = s := by
  have hvalue : Scope.global x s = Scope.value d s := Run.bind_ok (readGlobal_eq hx hpresent)
  rw [hvalue, Scope.value] at h
  cases hd : s.heap.valueOf d with
  | error cause =>
    rw [hd] at h
    cases h
  | ok w =>
    rw [hd] at h
    obtain ⟨rfl, rfl⟩ := EStateM.Result.ok.inj h
    exact ⟨rfl, rfl⟩

/-- Globals without a metatable take any function. -/
theorem writeGlobal_eq_ok {x : String} {d : Datum} {s s' : Scope}
    (hplain : (s.heap.table 0).metatable = none) (h : writeGlobal x d s = .ok () s') :
    s'.heap = s.heap.update 0 fun t => t.set (.ofText x) d := by
  have hset : Operation.setIndex call (.table Heap.globals) (.ofText x) d s.heap =
      .ok () (s.heap.update 0 fun t => t.set (.ofText x) d) := by
    refine Operation.setIndex_eq call rfl d fun m hm => ?_
    cases hplain.symm.trans hm
  have hrun := hset.symm.trans (run_eq_ok h)
  exact (EStateM.Result.ok.inj hrun).2.symm

end Scope

namespace MapReduce

open Registry (keysPlace)

variable {α : Type} {s s' : Scope} {job : Job} {docs : List Document} {batchSize : ℕ}

theorem inUnit_eq_ok {name script : String} {x : ScopeM α} {a : α}
    (h : inUnit name script x s = .ok a s') : x s = .ok a s' := by
  unfold inUnit at h
  cases hx : x s with
  | ok b s₁ =>
    rw [hx] at h
    obtain ⟨rfl, rfl⟩ := EStateM.Result.ok.inj h
    rfl
  | error failure s₁ =>
    rw [hx] at h
    cases h

/-- The map phase up to where the keys are read. -/
def mapAll (batchSize : ℕ) (job : Job) (docs : List Document) : JobM Unit := do
  inUnit "emit" "" (Scope.execBlock none registry)
  setGlobals job.scope
  inUnit "map" job.map (Scope.bind mapName "map" job.map)
  execAll job (Batch.units batchSize (docs.map mapCall))

theorem mapPhase_eq (batchSize : ℕ) (job : Job) (docs : List Document) :
    mapPhase batchSize job docs = (do
      mapAll batchSize job docs
      globalArray keysName) := by
  simp only [mapPhase, mapAll, bind_assoc]

/-! What is read of a scope. -/

theorem globalArray_eq_ok {x : String} {items : List Value} (h : globalArray x s = .ok items s') :
    Scope.global x s = .ok (.array items) s' := by
  obtain ⟨v, s₂, hglobal, hitems⟩ := bind_eq_ok (inUnit_eq_ok h)
  cases v with
  | array items =>
    cases hitems
    exact hglobal
  | _ => cases hitems

/-- The count is read as it is. -/
theorem emitCount_eq_ok {n emitted : ℕ}
    (hx : (s.heap.table 0).getText emitCountName = .int (Int64.ofNat n)) (hn : n < 2 ^ 63)
    (h : emitCount s = .ok emitted s') : emitted = n := by
  obtain ⟨v, s₁, hglobal, hread⟩ := bind_eq_ok (inUnit_eq_ok h)
  obtain ⟨hvalue, -⟩ := Scope.global_eq_ok hx rfl hglobal
  have hint : (Int64.ofNat n).toInt = n := Table.toInt_ofNat hn
  have hdatum : s.heap.valueOf (.int (Int64.ofNat n)) =
      .ok (if Int32.minValue.toInt ≤ (Int64.ofNat n).toInt ∧
        (Int64.ofNat n).toInt ≤ Int32.maxValue.toInt then
          .int32 (Int32.ofInt (Int64.ofNat n).toInt) else .int64 (Int64.ofNat n)) := rfl
  rw [hdatum, hint] at hvalue
  have hmin : Int32.minValue.toInt = -2 ^ 31 := rfl
  have hmax : Int32.maxValue.toInt = 2 ^ 31 - 1 := rfl
  split_ifs at hvalue with hsmall
  · cases hvalue
    obtain ⟨rfl, -⟩ := EStateM.Result.ok.inj hread
    rw [Int32.toInt_ofInt_of_le (by omega) (by omega), Int.toNat_natCast]
  · cases hvalue
    obtain ⟨rfl, -⟩ := EStateM.Result.ok.inj hread
    rw [hint, Int.toNat_natCast]

/-! Phases. -/

namespace Phase

/-- The unit that a function of the job is. -/
def unitName : Phase → String
  | .reduce => "reduce"
  | .finalize => "finalize"

/-- A phase with the text of its function. -/
def run (p : Phase) (source : String) : JobM Unit := do
  inUnit p.unitName source (Scope.bind p.function p.unitName source)
  inUnit p.unitName source (Scope.execBlock none p.unit)

/-- The text of the function in a job. -/
def source? : Phase → Job → Option String
  | .reduce, job => some job.reduce
  | .finalize, job => job.finalize

/-- A phase that succeeds has a function, stores it and goes through the slots. -/
theorem run_eq_ok {p : Phase} {source : String} (h : p.run source s = .ok () s') :
    ∃ f s₁ s₂ ds, Scope.functionOf p.unitName source s = .ok f s₁ ∧ f.isFunction = true ∧
      Scope.writeGlobal p.function f s₁ = .ok () s₂ ∧
      Run.script none p.unit (.table Heap.globals) s₂.heap = .ok ds s'.heap := by
  obtain ⟨_, s₂, hbind, hblock⟩ := bind_eq_ok h
  replace hbind := inUnit_eq_ok hbind
  rw [Scope.bind_eq_functionOf] at hbind
  obtain ⟨f, s₁, hf, hwrite⟩ := bind_eq_ok hbind
  obtain ⟨ds, s₃, hscript, hend⟩ := bind_eq_ok (inUnit_eq_ok hblock)
  obtain ⟨-, rfl⟩ := EStateM.Result.ok.inj hend
  split_ifs at hwrite with hfunction
  · exact ⟨f, s₁, s₂, ds, hf, hfunction, hwrite, Scope.run_eq_ok hscript⟩
  · cases hwrite

end Phase

theorem reducePhase_eq (job : Job) : reducePhase job = Phase.run .reduce job.reduce := by
  rw [Phase.run, Phase.unit_reduce]
  rfl

theorem finalizePhase_some {source : String} (hjob : job.finalize = some source) :
    finalizePhase job = Phase.run .finalize source := by
  rw [finalizePhase, hjob, Phase.run, Phase.unit_finalize]
  rfl

theorem finalizePhase_none (hjob : job.finalize = none) : finalizePhase job = pure () := by
  rw [finalizePhase, hjob]

/-- Where a phase of a job begins. -/
inductive Begins (batchSize : ℕ) (job : Job) (docs : List Document) : Phase → Scope → Prop
  | reduce {s : Scope} (hmap : mapAll batchSize job docs .fresh = .ok () s) :
    Begins batchSize job docs .reduce s
  | finalize {mapped s : Scope} (hmap : mapAll batchSize job docs .fresh = .ok () mapped)
    (hreduce : reducePhase job mapped = .ok () s) : Begins batchSize job docs .finalize s

/-- The function that a phase of a job has, when the job is asked for it. -/
structure Supplies (batchSize : ℕ) (job : Job) (docs : List Document) (p : Phase) (f : Datum)
    (s s' : Scope) : Prop where
  begins : Begins batchSize job docs p s
  function : ∃ source, p.source? job = some source ∧
    Scope.functionOf p.unitName source s = .ok f s'

/-- A phase of a job has its function, and starts to go through the slots. -/
def Starts (batchSize : ℕ) (job : Job) (docs : List Document) (p : Phase) (f : Datum)
    (start : Heap) : Prop :=
  ∃ s s₁ s₂, Supplies batchSize job docs p f s s₁ ∧
    Scope.writeGlobal p.function f s₁ = .ok () s₂ ∧ s₂.heap = start

/-- A phase of a job that succeeds has made its rounds, if what it starts with allows for them. -/
theorem Begins.exists_rounds {p : Phase} {source : String} {n : ℕ}
    {I : Datum → List Round → Heap → Prop} (hbegins : Begins batchSize job docs p s)
    (hsource : p.source? job = some source) (hrun : p.run source s = .ok () s')
    (hallows : ∀ f s₁ s₂, Supplies batchSize job docs p f s s₁ → f.isNil = false →
      Scope.writeGlobal p.function f s₁ = .ok () s₂ →
      Startable n s₂.heap ∧ Sustained p f s₂.heap n (I f) ∧ I f [] (counted s₂.heap)) :
    ∃ f start rounds, Starts batchSize job docs p f start ∧ Rounds p f start rounds s'.heap ∧
      rounds.length = n ∧ I f rounds s'.heap := by
  obtain ⟨f, s₁, s₂, ds, hf, hfunction, hwrite, hscript⟩ := Phase.run_eq_ok hrun
  have hsupplies : Supplies batchSize job docs p f s s₁ := ⟨hbegins, source, hsource, hf⟩
  have hpresent : f.isNil = false := by
    cases f with
    | nil => cases hfunction
    | _ => rfl
  obtain ⟨hstartable, hsustained, hstart⟩ := hallows f s₁ s₂ hsupplies hpresent hwrite
  obtain ⟨rounds, hrounds, hlength, hI⟩ :=
    exists_rounds_of_script hstartable hsustained hstart hscript
  exact ⟨f, s₂.heap, rounds, ⟨s, s₁, s₂, hsupplies, hwrite, rfl⟩, hrounds, hlength, hI⟩

/-- A job that succeeds has gone through its phases. -/
theorem exists_phases {rs : List Document} {emitted : ℕ}
    (h : job.evaluate batchSize docs = .ok (rs, emitted)) :
    ∃ s₀ keys s₁ s₂ s₃ values s₄ s₅, mapAll batchSize job docs .fresh = .ok () s₀ ∧
      globalArray keysName s₀ = .ok keys s₁ ∧ reducePhase job s₁ = .ok () s₂ ∧
      finalizePhase job s₂ = .ok () s₃ ∧ globalArray reducedName s₃ = .ok values s₄ ∧
      emitCount s₄ = .ok emitted s₅ ∧ rs = List.zipWith resultOf keys values := by
  unfold Job.evaluate at h
  split at h
  · next hphases =>
    cases h
    obtain ⟨keys, s₁, hmap, hphases⟩ := bind_eq_ok hphases
    rw [mapPhase_eq] at hmap
    obtain ⟨_, s₀, hall, hkeys⟩ := bind_eq_ok hmap
    obtain ⟨_, s₂, hreduce, hphases⟩ := bind_eq_ok hphases
    obtain ⟨_, s₃, hfinalize, hphases⟩ := bind_eq_ok hphases
    obtain ⟨values, s₄, hvalues, hphases⟩ := bind_eq_ok hphases
    obtain ⟨count, s₅, hcount, hphases⟩ := bind_eq_ok hphases
    cases hphases
    exact ⟨s₀, keys, s₁, s₂, s₃, values, s₄, _, hall, hkeys, hreduce, hfinalize, hvalues, hcount,
      rfl⟩
  · cases h

/-- Each result is made of a key, which becomes its id, and a value. -/
theorem Job.evaluate_eq_ok {rs : List Document} {emitted : ℕ}
    (h : job.evaluate batchSize docs = .ok (rs, emitted)) :
    ∃ keys values, (∃ scope, mapPhase batchSize job docs .fresh = .ok keys scope) ∧
      rs = List.zipWith resultOf keys values := by
  obtain ⟨s₀, keys, s₁, -, -, values, -, -, hall, hkeys, -, -, -, -, rfl⟩ := exists_phases h
  have hmap : mapPhase batchSize job docs .fresh = .ok keys s₁ := by
    rw [mapPhase_eq, Script.Run.bind_ok hall, hkeys]
  exact ⟨keys, values, ⟨s₁, hmap⟩, rfl⟩

end MapReduce

end Docbase
