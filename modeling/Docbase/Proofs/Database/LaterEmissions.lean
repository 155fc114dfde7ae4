import Docbase.Proofs.Database.OnePerKey

/-!
Emissions once the documents are mapped. The phases of a job have one registry between them, so
what the reduce function emits under a key comes behind the values that the map function emitted,
for every call that is still to come, and the number of emissions is that of all phases.
-/
namespace Docbase.Database

open MapReduce

/-- The reduce function gets, for each key that the map function emitted, the values that the map
function emitted under it and then those of the calls before; all emissions of the job are
counted. -/
theorem later_emissions_filed (settings : Settings) {name : String} {job : Job} {s s' : Store}
    {output : Output} {docs : List Document} {outcome : Outcome} {ems : List Emission}
    {later : Phase → ℕ → List Emission} (haccepted : Accepted name job s output docs)
    (hemitting : Emitting settings.scriptBatchChars job docs ems later)
    (hrun : mapReduce settings name job s = .ok outcome s') :
    (∃ rounds, Makes settings.scriptBatchChars job docs .reduce rounds ∧
      rounds.length = (firstKeys ems).length ∧
      ∀ i (r : Round), rounds[i]? = some r → (firstKeys ems)[i]? = some r.key ∧
        ∃ q, r.other = .table q ∧ (r.before.table q).Lists
          (valuesOf r.key ems ++ valuesOf r.key (emittedBy (later .reduce) i))) ∧
      outcome.counts.emit = (emittedUpTo ems later job.lastPhase).length := by
  obtain ⟨output', docs', rs, emitted, s₁, haccepted', hevaluate, -, -, hcounts⟩ :=
    mapReduce_eq_ok hrun
  cases haccepted.selected.symm.trans haccepted'.selected
  obtain ⟨hemitted, rounds, hmakes, hlength, hgets⟩ := hemitting.exists_calls hevaluate
  refine ⟨⟨rounds, hmakes, hlength, fun i r hr => ?_⟩, ?_⟩
  · exact ⟨(hgets i r hr).key, (hgets i r hr).values rfl⟩
  · rw [hcounts, hemitted]

/-- A job whose reduce function emits under the second key when it is called for the first one. -/
def echoingJob : Job where
  map := "function() emit(1, 10) emit(2, 20) end"
  reduce := "function(key, values) if key == 1 then emit(2, 30) end return #values end"

/-- What the map function of the job emits. -/
def echoed : List Emission := [⟨.int 1, .int 10⟩, ⟨.int 2, .int 20⟩]

/-- What the calls of its reduce function emit. -/
def echoes : Phase → ℕ → List (List Script.Datum)
  | .reduce, 0 => [[.int 2, .int 30]]
  | _, _ => []

/-- Whether some emissions lead to a heap, in which there are no results. -/
def recordsAs (argss : List (List Script.Datum)) (h : Script.Heap) : Bool :=
  emits argss beforeEmission h && unreduced h

theorem recorded_of_recordsAs {argss : List (List Script.Datum)} {h : Script.Heap}
    (hcheck : recordsAs argss h = true) : Recorded (argss.map .ofArgs) h := by
  rw [recordsAs, Bool.and_eq_true] at hcheck
  have hu := unreduced_spec hcheck.2
  exact ⟨undisturbed_beforeEmission.1.emitted.append (emits_spec hcheck.1), hu.global, hu.array⟩

/-- What the job does, computed in one go. -/
theorem echoingJob_computed :
    leaves (recordsAs [[.int 1, .int 10], [.int 2, .int 20]])
      (mapAll 65536 echoingJob oneInput .fresh) = true ∧
    jobPasses (fun h h' => Registry.untouched h h' && keepsAside h h')
      (fun p i h h' => emits (echoes p i) h h' && keepsAside h h') (fun _ => 2)
      65536 echoingJob oneInput = true ∧
    givesNumbers [(1, 1), (2, 2)] 3 (echoingJob.evaluate 65536 oneInput) = true ∧
    echoingJob.validate = .ok () := by
  decide +kernel

theorem recorded_echoingJob (s : Scope)
    (hall : mapAll 65536 echoingJob oneInput .fresh = .ok () s) :
    Recorded echoed s.heap :=
  recorded_of_recordsAs (passes_of_leaves echoingJob_computed.1 hall)

theorem emitting_echoingJob :
    Emitting 65536 echoingJob oneInput echoed fun p i => (echoes p i).map .ofArgs := by
  refine emitting_of_jobPasses recorded_echoingJob echoingJob_computed.2.1 (fun p => ?_) ⟨?_, ?_⟩
  · cases p <;> rfl
  · decide
  · decide

theorem evaluate_echoingJob :
    echoingJob.evaluate 65536 oneInput = .ok ([numbered (1, 1), numbered (2, 2)], 3) :=
  eq_of_givesNumbers echoingJob_computed.2.2.1

/-- The second call gets a value that the first call has emitted. -/
theorem later_emissions_filed_echo :
    ∃ outcome s', mapReduce {} "a" echoingJob oneDocument = .ok outcome s' ∧
      outcome.counts.emit = 3 ∧
      ∃ rounds, Makes 65536 echoingJob oneInput .reduce rounds ∧ rounds.length = 2 ∧
        ∀ r : Round, rounds[1]? = some r → r.key = .int 2 ∧
          ∃ q, r.other = .table q ∧ (r.before.table q).Lists [.int 20, .int 30] := by
  have haccepted : Accepted "a" echoingJob oneDocument
      ⟨.inline, Output.temporary oneDocument.ids.next⟩ oneInput :=
    ⟨echoingJob_computed.2.2.2, rfl, rfl⟩
  have hdistinct : Merge.Distinct [numbered (1, 1), numbered (2, 2)] :=
    ⟨by simp [numbered, Document.Identified, Document.get?], by decide⟩
  obtain ⟨outcome, s', hrun, -⟩ := inline_succeeds {} haccepted rfl evaluate_echoingJob hdistinct
  obtain ⟨⟨rounds, hmakes, hlength, hgets⟩, hcount⟩ :=
    later_emissions_filed {} haccepted emitting_echoingJob hrun
  refine ⟨outcome, s', hrun, hcount, rounds, hmakes, hlength, fun r hr => ?_⟩
  obtain ⟨hkey, q, hother, hlist⟩ := hgets 1 r hr
  have hsecond : r.key = .int 2 := Option.some.inj (hkey.symm.trans rfl)
  have hvalues : valuesOf r.key echoed ++ valuesOf r.key (emittedBy
      (fun i => (echoes .reduce i).map Emission.ofArgs) 1) = [.int 20, .int 30] := by
    rw [hsecond]
    decide
  exact ⟨hsecond, q, hother, hvalues ▸ hlist⟩

/-- What the reduce function emits is not kept apart from what the map function has emitted: it
gets another list of values for the second key, and three emissions are counted where the map
function made two. -/
theorem emissions_not_kept_apart :
    (∀ s, mapAll 65536 echoingJob oneInput .fresh = .ok () s → Emitted echoed s.heap) ∧
    (∃ rs emitted, echoingJob.evaluate 65536 oneInput = .ok (rs, emitted) ∧
      emitted ≠ echoed.length) ∧
    ∃ rounds, Makes 65536 echoingJob oneInput .reduce rounds ∧
      ∃ r ∈ rounds, ∃ q, r.other = .table q ∧ ¬(r.before.table q).Lists (valuesOf r.key echoed) := by
  obtain ⟨-, rounds, hmakes, hlength, hgets⟩ :=
    emitting_echoingJob.exists_calls evaluate_echoingJob
  refine ⟨fun s hall => (recorded_echoingJob s hall).emitted,
    ⟨_, 3, evaluate_echoingJob, by decide⟩, rounds, hmakes, ?_⟩
  have hlt : 1 < rounds.length := by
    rw [hlength]
    decide
  have hr := List.getElem?_eq_getElem hlt
  obtain ⟨hkey, hvalues⟩ := hgets 1 _ hr
  obtain ⟨q, hother, hlist⟩ := hvalues rfl
  refine ⟨_, List.mem_of_getElem? hr, q, hother, fun hmapped => ?_⟩
  -- both lists would have the same length
  have hnone := List.self_eq_append_right.mp (hmapped.unique hlist)
  have hsecond : rounds[1].key = .int 2 := Option.some.inj (hkey.symm.trans rfl)
  rw [hsecond] at hnone
  exact absurd hnone (by decide)

end Docbase.Database
