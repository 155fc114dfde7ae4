import Docbase.Proofs.MapReduce.Comparison
import Docbase.Proofs.MapReduce.Emitting

/-!
Phases of given jobs, replayed. What the functions of a job do to the heap can be computed call by
call, and so can whether each call keeps to a relation, or emits what it is said to emit.
-/
namespace Docbase.MapReduce

open Docbase.Script
open Registry (alike keysPlace emitsPlace reducedPlace arrayType emitPlace jobNames loopEvents)

variable {h h' h₁ : Heap} {p : Phase} {f : Datum} {r : Round} {rounds : List Round} {n i left : ℕ}

/-! Heaps compared. -/

/-- Whether the registry is left alone, whatever is still to be read of it. -/
def keepsOut (h h' : Heap) : Bool :=
  decide (h.tables.size ≤ h'.tables.size) && decide (h.cells.size ≤ h'.cells.size) &&
    jobNames.all (fun x => (h'.table 0).getText x == (h.table 0).getText x) &&
    alike ([keysPlace, emitsPlace, reducedPlace].map Datum.table ++ (h.table emitsPlace).values) h h'

/-- Whether a sheet is spared. -/
def spares (h h' : Heap) : Bool :=
  keepsOut h h' && (h'.table 0).getText "null" == (h.table 0).getText "null" &&
    loopEvents.all (fun x => (h'.table arrayType).getText x == (h.table arrayType).getText x) &&
    (h'.table 0).metatable == (h.table 0).metatable && (h.table 0).staysValid (h'.table 0) &&
    h'.cell 0 == h.cell 0

/-- Whether what a phase needs beside the registry is left alone. -/
def keepsAside (h h' : Heap) : Bool :=
  [reducedName, reduceName, finalizeName].all
      (fun x => (h'.table 0).getText x == (h.table 0).getText x) &&
    (h'.table reducedPlace).metatable == (h.table reducedPlace).metatable &&
    decide (h.cells.size ≤ h'.cells.size)

theorem keepsAside_spec (hcheck : keepsAside h h' = true) : KeepsAside h h' := by
  simp only [keepsAside, Bool.and_eq_true, decide_eq_true_eq, List.all_eq_true,
    beq_iff_eq] at hcheck
  exact ⟨hcheck.1.1, hcheck.1.2, hcheck.2⟩

/-- Whether the table of the results is as the registry made it. -/
def unreduced (h : Heap) : Bool :=
  (h.table 0).getText reducedName == .table reducedPlace &&
    (⟨#[], [], 0, 0, some arrayType⟩ : Table).isLike (h.table reducedPlace)

theorem unreduced_spec (hcheck : unreduced h = true) : Unreduced h := by
  simp only [unreduced, Bool.and_eq_true, beq_iff_eq] at hcheck
  obtain ⟨heq, hedge⟩ := Table.isLike_spec hcheck.2
  refine ⟨hcheck.1, by rw [heq], ?_⟩
  rw [heq]
  exact Table.lists_empty _ _ _ hedge

/-! Emissions made again. -/

/-- The heap after some calls of `emit`. -/
def emitAll : List (List Datum) → Heap → Option Heap
  | [], h => some h
  | args :: argss, h =>
    match Call.within 2 .start (.closure emitPlace) args h with
    | .ok _ h' => emitAll argss h'
    | .error .. => none

theorem emits_of_emitAll {argss : List (List Datum)} {more : List Emission}
    (hmore : Emits h more h₁) (hall : emitAll argss h₁ = some h') :
    Emits h (more ++ argss.map .ofArgs) h' := by
  induction argss generalizing more h₁ with
  | nil =>
    obtain rfl := Option.some.inj hall
    rwa [List.map_nil, List.append_nil]
  | cons args argss ih =>
    rw [emitAll] at hall
    cases hcall : Call.within 2 .start (.closure emitPlace) args h₁ with
    | error fault h₂ =>
      rw [hcall] at hall
      cases hall
    | ok ds h₂ =>
      rw [hcall] at hall
      rw [List.map_cons, List.append_cons]
      exact ih (.emit hmore (by decide) hcall) hall

/-- Whether some calls of `emit` lead from one heap to what is in the registry of another one. -/
def emits (argss : List (List Datum)) (h h' : Heap) : Bool :=
  match emitAll argss h with
  | some h₁ => Registry.untouched h₁ h'
  | none => false

theorem emits_spec {argss : List (List Datum)} (hcheck : emits argss h h' = true) :
    Emits h (argss.map .ofArgs) h' := by
  unfold emits at hcheck
  split at hcheck
  · next hall => exact .other (emits_of_emitAll .none hall) (Registry.untouched_spec hcheck)
  · cases hcheck

/-! Calls made again. -/

/-- Whether the calls of a phase pass a check from a slot on, and leave the loop's own variable
alone. -/
def callsPass (check : ℕ → Heap → Heap → Bool) (p : Phase) (f : Datum) : ℕ → ℕ → Heap → Bool
  | 0, _, _ => true
  | left + 1, i, h =>
    let before := asked p i h
    match callFor f [(h.table keysPlace).get (slotNumber i),
      (h.table p.otherPlace).get (slotNumber i)] before with
    | .ok ds after => check i before after &&
        after.cell (before.cells.size - 1) == before.cell (before.cells.size - 1) &&
        callsPass check p f left (i + 1) (noted i (orNull (ds.headD .nil)) after)
    | .error .. => true

variable {check : ℕ → Heap → Heap → Bool}

theorem callsPass_follows (hcheck : callsPass check p f (left + 1) i h = true)
    (hr : r.Follows p f i h) :
    check i r.before r.after = true ∧ r.KeepsSlot ∧
      callsPass check p f left (i + 1) (noted i r.answer r.after) = true := by
  have hcall := hr.call
  rw [hr.key, hr.other, hr.before] at hcall
  rw [callsPass, hcall] at hcheck
  simp only [Bool.and_eq_true, beq_iff_eq] at hcheck
  obtain ⟨⟨hpass, hslot⟩, hrest⟩ := hcheck
  rw [← hr.before] at hpass hslot
  refine ⟨hpass, fun c hc => ?_, hrest⟩
  obtain rfl : c = r.before.cells.size - 1 := by omega
  exact hslot

theorem callsPass_rounds {start : Heap} (hcheck : callsPass check p f n 0 (counted start) = true)
    (hrounds : Rounds p f start rounds h) (hle : rounds.length ≤ n) :
    callsPass check p f (n - rounds.length) rounds.length h = true := by
  induction hrounds with
  | start => exact hcheck
  | @turn rounds h r prior hnext ih =>
    rw [List.length_append, List.length_singleton] at hle ⊢
    have hleft : n - rounds.length = n - (rounds.length + 1) + 1 := by omega
    have hprior := ih (by omega)
    rw [hleft] at hprior
    exact (callsPass_follows hprior hnext).2.2

/-- All calls of a phase pass. -/
theorem callsPass_spec {start : Heap} (hcheck : callsPass check p f n 0 (counted start) = true)
    (hlt : rounds.length < n) (hrounds : Rounds p f start rounds h)
    (hr : r.Follows p f rounds.length h) :
    check rounds.length r.before r.after = true ∧ r.KeepsSlot := by
  have hleft : n - rounds.length = n - (rounds.length + 1) + 1 := by omega
  have hpass := callsPass_rounds hcheck hrounds hlt.le
  rw [hleft] at hpass
  obtain ⟨hcall, hslot, -⟩ := callsPass_follows hpass hr
  exact ⟨hcall, hslot⟩

/-! Phases made again. -/

/-- Whether the expression for the function of a phase passes one check, and its calls another
one. -/
def phasePasses (supply : Heap → Heap → Bool) (check : ℕ → Heap → Heap → Bool) (n : ℕ) (p : Phase)
    (source : String) (s : Scope) : Bool :=
  match Scope.functionOf p.unitName source s with
  | .ok f s₁ => supply s.heap s₁.heap &&
      match Scope.writeGlobal p.function f s₁ with
      | .ok _ s₂ => callsPass check p f n 0 (counted s₂.heap)
      | .error .. => true
  | .error .. => true

/-- Whether the phases after the map phase pass. -/
def jobPasses (supply : Heap → Heap → Bool) (check : Phase → ℕ → Heap → Heap → Bool) (n : Phase → ℕ)
    (batchSize : ℕ) (job : Job) (docs : List Document) : Bool :=
  match mapAll batchSize job docs .fresh with
  | .ok _ s => phasePasses supply (check .reduce) (n .reduce) .reduce job.reduce s &&
      job.finalize.all fun source =>
        match reducePhase job s with
        | .ok _ s₁ => phasePasses supply (check .finalize) (n .finalize) .finalize source s₁
        | .error .. => true
  | .error .. => true

variable {supply : Heap → Heap → Bool} {checks : Phase → ℕ → Heap → Heap → Bool} {ns : Phase → ℕ}
  {batchSize : ℕ} {job : Job} {docs : List Document} {s s' : Scope} {source : String}

theorem phasePasses_of_begins (hcheck : jobPasses supply checks ns batchSize job docs = true)
    (hbegins : Begins batchSize job docs p s) (hsource : p.source? job = some source) :
    phasePasses supply (checks p) (ns p) p source s = true := by
  unfold jobPasses at hcheck
  cases hbegins with
  | reduce hmap =>
    rw [hmap] at hcheck
    dsimp only at hcheck
    rw [Bool.and_eq_true] at hcheck
    obtain rfl : job.reduce = source := Option.some.inj hsource
    exact hcheck.1
  | finalize hmap hreduce =>
    have hjob : job.finalize = some source := hsource
    rw [hmap] at hcheck
    dsimp only at hcheck
    rw [Bool.and_eq_true, hjob, Option.all_some, hreduce] at hcheck
    exact hcheck.2

theorem jobPasses_supplies (hcheck : jobPasses supply checks ns batchSize job docs = true)
    (hsupplies : Supplies batchSize job docs p f s s') : supply s.heap s'.heap = true := by
  obtain ⟨source, hsource, hf⟩ := hsupplies.function
  have hphase := phasePasses_of_begins hcheck hsupplies.begins hsource
  rw [phasePasses, hf] at hphase
  simp only [Bool.and_eq_true] at hphase
  exact hphase.1

theorem jobPasses_starts {start : Heap}
    (hcheck : jobPasses supply checks ns batchSize job docs = true)
    (hstarts : Starts batchSize job docs p f start) :
    callsPass (checks p) p f (ns p) 0 (counted start) = true := by
  obtain ⟨s, s₁, s₂, hsupplies, hwrite, rfl⟩ := hstarts
  obtain ⟨source, hsource, hf⟩ := hsupplies.function
  have hphase := phasePasses_of_begins hcheck hsupplies.begins hsource
  rw [phasePasses, hf] at hphase
  simp only [Bool.and_eq_true] at hphase
  have hcalls := hphase.2
  rwa [hwrite] at hcalls

/-- A job of which the functions emit what they are said to emit. -/
theorem emitting_of_jobPasses {ems : List Emission} {args : Phase → ℕ → List (List Datum)}
    (hmapped : ∀ s, mapAll batchSize job docs .fresh = .ok () s → Recorded ems s.heap)
    (hcheck : jobPasses (fun h h' => Registry.untouched h h' && keepsAside h h')
      (fun p i h h' => emits (args p i) h h' && keepsAside h h') ns batchSize job docs = true)
    (hns : ∀ p,
      (firstKeys (emittedBefore ems (fun p i => (args p i).map .ofArgs) p)).length = ns p)
    (hfits : Fits (emittedUpTo ems (fun p i => (args p i).map .ofArgs) job.lastPhase)) :
    Emitting batchSize job docs ems fun p i => (args p i).map .ofArgs where
  mapped := hmapped
  functions p f s s' hsupplies := by
    have hpass := jobPasses_supplies hcheck hsupplies
    rw [Bool.and_eq_true] at hpass
    exact ⟨Registry.untouched_spec hpass.1, keepsAside_spec hpass.2⟩
  calls p f start hstarts rounds h r hlt hrounds hr := by
    rw [hns] at hlt
    obtain ⟨hcall, hslot⟩ := callsPass_spec (jobPasses_starts hcheck hstarts) hlt hrounds hr
    rw [Bool.and_eq_true] at hcall
    exact ⟨emits_spec hcall.1, keepsAside_spec hcall.2, hslot⟩
  fits := hfits

/-! Map phases. -/

/-- Whether a map phase that succeeds leaves a heap that passes a check. -/
def leaves (check : Heap → Bool) : EStateM.Result ScriptError Scope Unit → Bool
  | .ok _ s => check s.heap
  | .error .. => true

theorem passes_of_leaves {check : Heap → Bool} {r : EStateM.Result ScriptError Scope Unit}
    (hcheck : leaves check r = true) (hr : r = .ok () s) : check s.heap = true := by
  subst hr
  exact hcheck

end Docbase.MapReduce
