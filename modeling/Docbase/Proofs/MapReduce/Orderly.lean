import Docbase.Proofs.MapReduce.Phases
import Docbase.Proofs.MapReduce.Sheet

/-!
Jobs in which only the map function files anything. Their results are one for each key, in the
order of the keys: the keys are read before the first function is called, and the values after
the last one, and each of them is in the place of its key.
-/
namespace Docbase.MapReduce

open Docbase.Script
open Registry (Filed nanPlace keysPlace emitsPlace reducedPlace arrayType loopGlobals)

variable {ks prior : List Datum} {vs : List (List Datum)} {lists : List (ℕ × List Datum)}
  {later : ℕ → Prop} {tally : Datum} {p : Phase} {h : Heap} {batchSize : ℕ} {job : Job}
  {docs rs : List Document} {emitted : ℕ} {source : String} {s s' : Scope}

/-- The table of the results is as the registry made it. -/
structure Unreduced (h : Heap) : Prop where
  global : (h.table 0).getText reducedName = .table reducedPlace
  array : (h.table reducedPlace).metatable = some arrayType
  empty : (h.table reducedPlace).Lists []

/-- A registry is a sheet without results. -/
theorem Registry.Filed.sheet {calls : ℕ} (hf : Filed h ks lists calls) (hu : Unreduced h)
    (later : ℕ → Prop) : Sheet ks lists later [] (.int (Int64.ofNat calls)) h where
  tables_le := hf.wired.tables_le
  cells_pos := Nat.lt_of_lt_of_le (by decide) hf.wired.cells_le
  cell := hf.wired.cell (0, .table 0) (by decide)
  globals_valid := hf.wired.globals_valid
  plain := hf.wired.metatable (0, none) (by decide)
  global g hg := by
    have hwired : ∀ g ∈ loopGlobals,
        g ∈ Registry.globals ∨ g = (reducedName, .table reducedPlace) := by
      decide
    rcases hwired g hg with hmem | rfl
    · exact hf.wired.global g hmem
    · exact hu.global
  count := hf.count
  array q hq := by
    rcases List.mem_pair.mp hq with rfl | rfl
    · exact hf.wired.metatable (keysPlace, some arrayType) (by decide)
    · exact hu.array
  silent x hx := by
    have hevent : ∀ x ∈ Registry.loopEvents, x ∈ Registry.events := by decide
    exact hf.wired.silent x (hevent x hx)
  keys := hf.keys
  emits := hf.emits
  reduced := hu.empty
  length := hf.length
  place l hl := (hf.place l hl).1
  values _ l _ hl := hf.values l (List.mem_of_getElem? hl)

/-! Registered by calls of `emit`. -/

/-- A heap in which keys with their values are registered, and no results yet. -/
def Registers (ks : List Datum) (vs : List (List Datum)) (h : Heap) : Prop :=
  ∃ lists tally, Sheet ks lists (fun _ => True) [] tally h ∧ lists.map Prod.snd = vs

/-- A job whose map phase registers keys with their values. Its other functions, and the
expressions that give them, keep to a relation between the heaps before and after them, with
regard to the values that are still to be handed to the reduce function. -/
structure Orderly (R : (ℕ → Prop) → Heap → Heap → Prop) (batchSize : ℕ) (job : Job)
    (docs : List Document) (ks : List Datum) (vs : List (List Datum)) : Prop where
  mapped : ∀ s, mapAll batchSize job docs .fresh = .ok () s → Registers ks vs s.heap
  functions : ∀ p f s s', Supplies batchSize job docs p f s s' → R (p.later 0) s.heap s'.heap
  calls : ∀ p f start, Starts batchSize job docs p f start → CallsKeep R p f start ks.length

/-- A phase that spares the sheet makes a call for each key. -/
theorem Sheet.exists_calls (hs : Sheet ks lists (p.later 0) prior tally s.heap)
    (hothers : (p.others lists prior).length = ks.length) (hbegins : Begins batchSize job docs p s)
    (hsource : p.source? job = some source) (hrun : p.run source s = .ok () s')
    (hfunctions : ∀ f s₁, Supplies batchSize job docs p f s s₁ →
      Spares (p.later 0) s.heap s₁.heap)
    (hcalls : ∀ f start, Starts batchSize job docs p f start →
      CallsKeep Spares p f start ks.length) :
    ∃ f start rounds, Starts batchSize job docs p f start ∧ Rounds p f start rounds s'.heap ∧
      rounds.length = ks.length ∧ Underway p f ks lists prior tally rounds s'.heap := by
  refine hbegins.exists_rounds hsource hrun fun f s₁ s₂ hsupplies hpresent hwrite => ?_
  have hs₁ := hs.spares (hfunctions f s₁ hsupplies) fun _ => id
  have hheap := Scope.writeGlobal_eq_ok hs₁.plain hwrite
  have hs₂ := hs₁.setGlobal p f
  have hglobal : ((s₁.heap.update 0 fun t => t.set (.ofText p.function) f).table 0).getText
      p.function = f := by
    have hlt : 0 < s₁.heap.tables.size := Nat.lt_of_lt_of_le (by decide) hs₁.tables_le
    rw [Heap.table_update hlt, if_pos rfl, Registry.getText_set hs₁.globals_valid, if_pos rfl]
  rw [← hheap] at hs₂ hglobal
  have hkept := hcalls f s₂.heap ⟨s, s₁, s₂, hsupplies, hwrite, rfl⟩
  exact ⟨hs₂.startable, hkept.sustained hpresent hothers, hs₂.underway hglobal⟩

/-! Courses. -/

/-- How a job comes to its results: the scope that the map function leaves, the calls of the
other functions, the scope in the end, and what is read of the keys and of the results. -/
structure Course where
  mapped : Scope
  reduced : List Round
  finalized : List Round
  final : Scope
  keys : List Value
  values : List Value

namespace Course

def results (c : Course) : List Document := List.zipWith resultOf c.keys c.values

/-- The answers that are the results in the end: those of the final function, if there is one. -/
def answers (job : Job) (c : Course) : List Datum :=
  (if job.finalize.isSome then c.finalized else c.reduced).map Round.answer

end Course

/-- The calls that a phase of a job makes one after the other. -/
def Makes (batchSize : ℕ) (job : Job) (docs : List Document) (p : Phase) (rounds : List Round) :
    Prop :=
  ∃ f start h, Starts batchSize job docs p f start ∧ Rounds p f start rounds h

/-- The course of a job that registers keys with their values: for each key there is a call of the
reduce function with its values, and a call of the final function with what it gave, and there is
a value of the key and one of the last answer. -/
structure Course.IsOf (batchSize : ℕ) (job : Job) (docs : List Document) (ks : List Datum)
    (vs : List (List Datum)) (c : Course) : Prop where
  mapped : mapAll batchSize job docs .fresh = .ok () c.mapped
  reduced : Makes batchSize job docs .reduce c.reduced
  reduce : List.Forall₂ (fun kv r => r.key = kv.1 ∧
    ∃ q, r.other = .table q ∧ (r.before.table q).Lists kv.2) (ks.zip vs) c.reduced
  finalized : job.finalize.isSome → Makes batchSize job docs .finalize c.finalized
  finalize : job.finalize.isSome → List.Forall₂ (fun kd r => r.key = kd.1 ∧ r.other = kd.2)
    (ks.zip (c.reduced.map Round.answer)) c.finalized
  final : (do reducePhase job; finalizePhase job : JobM Unit) c.mapped = .ok () c.final
  keys : List.Forall₂ (fun k v => c.mapped.heap.valueOf k = .ok v) ks c.keys
  values : List.Forall₂ (fun d v => c.final.heap.valueOf d = .ok v) (c.answers job) c.values
  length : vs.length = ks.length

/-- A phase that has gone through all keys has the answers for its results. -/
theorem Underway.results {f : Datum} {rounds : List Round}
    (hu : Underway p f ks lists prior tally rounds h) (hprior : prior.length ≤ rounds.length) :
    Sheet ks lists (p.later rounds.length) (rounds.map Round.answer) tally h := by
  have hsheet := hu.sheet
  rwa [List.drop_of_length_le hprior, List.append_nil] at hsheet

end Docbase.MapReduce
