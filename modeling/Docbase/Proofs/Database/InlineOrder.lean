import Docbase.Proofs.Database.Duplicates
import Docbase.Proofs.Query.Arrangement
import Docbase.Proofs.Query.Congruence

/-!
The order of inline results. They are sorted by their ids as documents are sorted by any field: an
array that has elements counts as its least element, and any other id as itself. So ids that are
no such arrays ascend strictly, because no two results have equal ids, and results whose ids count
as equal keep the order of their keys.
-/
namespace Docbase

open ListStore

/-- What an id counts as when results are put in order. -/
inductive CountsAs : Value → Value → Prop
  | element (items : List Value) (v : Value) (hv : v ∈ items)
      (hleast : ∀ w ∈ items, v.compare w ≠ .gt) : CountsAs (.array items) v
  | itself (id : Value) (h : id.itemsOf = []) : CountsAs id id

theorem CountsAs.eq_of_no_items {id v : Value} (h : CountsAs id v) (hitems : id.itemsOf = []) :
    v = id := by
  cases h with
  | element items v hv hleast =>
    rw [Value.itemsOf] at hitems
    rw [hitems] at hv
    exact absurd hv List.not_mem_nil
  | itself id _ => rfl

namespace MapReduce

/-- The key by which inline results are sorted. -/
def idKey : SortKey := ⟨Path.ofText "_id", .ascending⟩

theorem countsAs_value (d : Document) (hd : d.Identified) :
    CountsAs (idOf d) (idKey.value d) := by
  obtain ⟨id, hid⟩ := Option.isSome_iff_exists.mp hd
  have hoffered : idKey.offered d = if id.itemsOf.isEmpty then [id] else id.itemsOf := by
    have hpath : idKey.field = ⟨["_id"]⟩ := Path.ofText_of_not_mem "_id" (by decide)
    rw [SortKey.offered_eq, hpath, Path.resolveIn_field, hid, Option.toList_some,
      List.flatMap_singleton]
  rw [idOf, hid, Option.getD_some, SortKey.value, hoffered]
  cases id with
  | array items =>
    cases items with
    | nil => exact .itself (.array []) rfl
    | cons x xs => exact .element _ _ (SortKey.least_mem x xs) (SortKey.least_le x xs)
  | _ => exact .itself _ rfl

theorem compare_idOrder (d e : Document) :
    Output.idOrder.compare d e = (idKey.value d).compare (idKey.value e) := by
  have hthen : Output.idOrder.compare d e =
      ((idKey.value d).compare (idKey.value e)).then .eq := rfl
  rw [hthen]
  cases (idKey.value d).compare (idKey.value e) <;> rfl

/-- How the result at the first position stands to that at the second when it comes before it. -/
structure StandsBefore (rs : List Document) (i j : Fin rs.length) : Prop where
  counted : ∃ v w, CountsAs (idOf (rs.get i)) v ∧ CountsAs (idOf (rs.get j)) w ∧
    (v.compare w = .lt ∨ v.compare w = .eq ∧ i < j)
  strict : (idOf (rs.get i)).itemsOf = [] → (idOf (rs.get j)).itemsOf = [] →
    (idOf (rs.get i)).compare (idOf (rs.get j)) = .lt

/-- Equal ids have one key, which two results never share. -/
theorem compare_idOf_ne {rs : List Document} (h : Merge.Distinct rs) {i j : Fin rs.length}
    (hij : i ≠ j) : (idOf (rs.get i)).compare (idOf (rs.get j)) ≠ .eq := by
  intro heq
  have hkey : Merge.key (rs.get i) = Merge.key (rs.get j) :=
    Key.ofValue_eq_of_inner _ _ ((Key.inner_eq_iff _ _).mpr heq)
  have hi : (i : ℕ) < (rs.map Merge.key).length := by simp
  have hj : (j : ℕ) < (rs.map Merge.key).length := by simp
  have hsame : (rs.map Merge.key)[(i : ℕ)] = (rs.map Merge.key)[(j : ℕ)] := by
    rw [List.getElem_map, List.getElem_map]
    exact hkey
  exact hij (Fin.ext (h.nodup.getElem_inj_iff.mp hsame))

theorem standsBefore {rs : List Document} (h : Merge.Distinct rs) {i j : Fin rs.length}
    (hij : i ≠ j) (hle : Output.idOrder.compare (rs.get i) (rs.get j) ≠ .gt)
    (hstable : Output.idOrder.compare (rs.get i) (rs.get j) = .eq → i < j) :
    StandsBefore rs i j := by
  rw [compare_idOrder] at hle hstable
  have hi := countsAs_value (rs.get i) (h.identified _ (List.getElem_mem _))
  have hj := countsAs_value (rs.get j) (h.identified _ (List.getElem_mem _))
  refine ⟨⟨_, _, hi, hj, ?_⟩, fun hiItems hjItems => ?_⟩
  · cases hcompare : (idKey.value (rs.get i)).compare (idKey.value (rs.get j)) with
    | lt => exact .inl rfl
    | eq => exact .inr ⟨rfl, hstable hcompare⟩
    | gt => exact absurd hcompare hle
  · rw [hi.eq_of_no_items hiItems, hj.eq_of_no_items hjItems] at hle
    have hne := compare_idOf_ne h hij
    cases hcompare : (idOf (rs.get i)).compare (idOf (rs.get j)) <;> simp_all

theorem pairwise_standsBefore {rs : List Document} (h : Merge.Distinct rs)
    {positions : List (Fin rs.length)} (harranges : Output.idOrder.Arranges rs positions) :
    positions.Pairwise (StandsBefore rs) := by
  have hnodup : positions.Pairwise (· ≠ ·) :=
    harranges.all.nodup_iff.mpr (List.nodup_finRange rs.length)
  refine (hnodup.and (harranges.ascending.and harranges.stable)).imp ?_
  rintro i j ⟨hij, hle, hstable⟩
  exact standsBefore h hij hle hstable

namespace Output

/-- The temporary collection takes results only if their ids differ, and then it holds them. -/
theorem addAll_inline {o : Output} (hmode : o.mode = .inline) {rs : List Document}
    (hrs : ∀ d ∈ rs, d.Identified) {s s' : Store}
    (h : o.addAll rs (o.prepared s) = .ok () s') :
    Merge.Distinct rs ∧ s'.scan o.collection = .ok rs := by
  have hfind := o.find_prepared (by rw [isCleared, hmode]; rfl) s
  rw [addAll, hmode] at h
  obtain ⟨inserted, s₁, hinsert, hpure⟩ := bind_eq_ok h
  cases hpure
  rcases StoreM.ofStore_cases (fun s => s.insertMany o.collection rs) (o.prepared s) with
    ⟨e, -, herror⟩ | ⟨inserted', s₂, hmany, hok⟩
  · cases herror.symm.trans hinsert
  · cases hok.symm.trans hinsert
    obtain ⟨c, c', ids, hc, hall, rfl⟩ := Store.insertMany_eq_ok _ _ _ _ _ hmany
    cases hfind.symm.trans hc
    have hdocs : c'.docs.toList = rs :=
      Collection.insertAll_docs _ Collection.wellIndexed_empty rs hrs _ _ _ _ hall
    have hdistinct := c'.distinct_docs
      (Collection.wellIndexed_insertAll rs _ Collection.wellIndexed_empty _ _ _ _ hall)
    rw [hdocs] at hdistinct
    exact ⟨hdistinct, by rw [Store.scan_put c' ids (Store.has_of_find _ _ _ hfind), hdocs]⟩

end Output

end MapReduce

namespace Database

open MapReduce

variable {settings : Settings} {name : String} {job : Job} {o : Output} {docs rs : List Document}
  {s s' : Store}

/-- A job that gives its results back is inline, and gives them back sorted. -/
theorem inline_sorted {outcome : Outcome} {found : List Document}
    (h : mapReduce settings name job s = .ok outcome s')
    (hfound : outcome.results = .inline found) :
    ∃ output docs rs emitted, Accepted name job s output docs ∧
      job.evaluate settings.scriptBatchChars docs = .ok (rs, emitted) ∧ Merge.Distinct rs ∧
      found = Output.idOrder.sort rs := by
  obtain ⟨output, docs, rs, emitted, s₁, haccepted, hevaluate, hadd, hresults, -⟩ :=
    mapReduce_eq_ok h
  rw [hfound] at hresults
  obtain ⟨keys, values, -, hrs⟩ := Job.evaluate_eq_ok hevaluate
  by_cases hinline : output.mode = .inline
  · obtain ⟨hdistinct, hscan⟩ :=
      Output.addAll_inline hinline (hrs ▸ identified_zipWith_resultOf keys values) hadd
    cases (Output.results_eq_sort hinline settings.name rs hscan).symm.trans hresults
    exact ⟨output, docs, rs, emitted, haccepted, hevaluate, hdistinct, rfl⟩
  · cases Output.results_collection hinline settings.name _ hresults

/-- An inline job whose results have different ids succeeds as soon as its scripts do. -/
theorem inline_succeeds (settings : Settings) {emitted : ℕ}
    (haccepted : Accepted name job s o docs) (hmode : o.mode = .inline)
    (hevaluate : job.evaluate settings.scriptBatchChars docs = .ok (rs, emitted))
    (hdistinct : Merge.Distinct rs) :
    ∃ outcome s', mapReduce settings name job s = .ok outcome s' ∧
      outcome.results = .inline (Output.idOrder.sort rs) := by
  have hnone : firstTaken [] rs = none := Merge.firstTaken_of_distinct hdistinct
  have hcleared := o.addAll_cleared (.inr hmode) s hdistinct.identified
  rw [hnone] at hcleared
  obtain ⟨s₁, hadd, -⟩ := hcleared
  rcases mapReduce_cases settings name job s with ⟨hrefused, -⟩ | ⟨-, output, docs', h, hjob⟩
  · exact absurd hrefused haccepted.not_refused
  cases haccepted.parsed.symm.trans h.parsed
  cases haccepted.selected.symm.trans h.selected
  rcases runJob_cases settings job o docs s with
    ⟨e, -, -, hcause⟩ | ⟨rs', emitted', s₂, found, hevaluate', hadd', -, hfound, hrun⟩
  · cases hadd.symm.trans (hcause rs emitted hevaluate)
  · cases hevaluate.symm.trans hevaluate'
    obtain ⟨-, hscan⟩ := Output.addAll_inline hmode hdistinct.identified hadd'
    cases (Output.results_eq_sort hmode settings.name rs hscan).symm.trans hfound
    exact ⟨_, _, hjob.trans (Output.during_ok hmode hrun), rfl⟩

/-- Inline results are the results of the keys in another order: of two results, the id of the
first counts as less than that of the second, or as equal and then the first key is before the
second. Ids that are no arrays with elements are themselves strictly ascending. -/
theorem inline_results_ascend (settings : Settings) (name : String) (job : Job) (s s' : Store)
    (outcome : Outcome) (found : List Document)
    (h : mapReduce settings name job s = .ok outcome s')
    (hfound : outcome.results = .inline found) :
    ∃ output docs keys values rs emitted, Accepted name job s output docs ∧
      (∃ scope, mapPhase settings.scriptBatchChars job docs .fresh = .ok keys scope) ∧
      rs = List.zipWith resultOf keys values ∧
      job.evaluate settings.scriptBatchChars docs = .ok (rs, emitted) ∧
      ∃ positions : List (Fin rs.length), positions.Perm (List.finRange rs.length) ∧
        found = positions.map rs.get ∧ positions.Pairwise (StandsBefore rs) := by
  obtain ⟨output, docs, rs, emitted, haccepted, hevaluate, hdistinct, rfl⟩ := inline_sorted h hfound
  obtain ⟨keys, values, hkeys, hrs⟩ := Job.evaluate_eq_ok hevaluate
  obtain ⟨positions, harranges, hsort⟩ := Output.idOrder.exists_arranges rs
  exact ⟨output, docs, keys, values, rs, emitted, haccepted, hkeys, hrs, hevaluate, positions,
    harranges.all, hsort, pairwise_standsBefore hdistinct harranges⟩

/-- A job whose keys are a boolean, an array and a number. -/
def mixedKeysJob : Job where
  map := "function() emit(true, 1) emit(\x7b5, 1\x7d, 2) emit(3, 3) end"
  reduce := "function(key, values) return values[1] end"

/-- The results of the job in the order of its keys. -/
def mixedResults : List Document :=
  [resultOf (.boolean true) (.int32 1), resultOf (.array [.int32 5, .int32 1]) (.int32 2),
    resultOf (.int32 3) (.int32 3)]

/-- Whether a job gives a result for `true`, for an array of two numbers and for a number. -/
def areMixed (first second third : Int32) : Except ScriptError (List Document × ℕ) → Bool
  | .ok ([[("_id", .boolean true), ("value", .int32 u)],
      [("_id", .array [.int32 a, .int32 b]), ("value", .int32 v)],
      [("_id", .int32 c), ("value", .int32 w)]], n) =>
    [a, b, c] == [first, second, third] && [u, v, w] == [1, 2, 3] && n == 3
  | _ => false

theorem eq_of_areMixed {r : Except ScriptError (List Document × ℕ)}
    (hcheck : areMixed 5 1 3 r = true) : r = .ok (mixedResults, 3) := by
  unfold areMixed at hcheck
  split at hcheck
  · simp only [Bool.and_eq_true, beq_iff_eq, List.cons.injEq, and_true] at hcheck
    obtain ⟨⟨⟨rfl, rfl, rfl⟩, rfl, rfl, rfl⟩, rfl⟩ := hcheck
    rfl
  · cases hcheck

theorem evaluate_mixedKeysJob :
    mixedKeysJob.evaluate 65536 [[("_id", .int32 1)]] = .ok (mixedResults, 3) :=
  eq_of_areMixed (by decide +kernel)

theorem distinct_mixedResults : Merge.Distinct mixedResults := by
  constructor
  · intro d hd
    simp only [mixedResults, List.mem_cons, List.not_mem_nil, or_false] at hd
    rcases hd with rfl | rfl | rfl <;> rfl
  · decide +kernel

/-- The array counts as its least element, which is below the number. -/
theorem mixedKeysJob_succeeds :
    ∃ outcome s', mapReduce {} "a" mixedKeysJob oneDocument = .ok outcome s' ∧
      outcome.results = .inline [mixedResults[1], mixedResults[2], mixedResults[0]] := by
  have haccepted : Accepted "a" mixedKeysJob oneDocument
      ⟨.inline, Output.temporary oneDocument.ids.next⟩ [[("_id", .int32 1)]] :=
    ⟨by decide +kernel, rfl, rfl⟩
  have harranges : Output.idOrder.Arranges mixedResults
      [⟨1, by decide⟩, ⟨2, by decide⟩, ⟨0, by decide⟩] :=
    ⟨by decide +kernel, by decide +kernel, by decide +kernel⟩
  obtain ⟨outcome, s', hrun, hresults⟩ :=
    inline_succeeds {} haccepted rfl evaluate_mixedKeysJob distinct_mixedResults
  rw [SortSpec.sort_of_arranges harranges] at hresults
  exact ⟨outcome, s', hrun, hresults⟩

/-- The number and the boolean ascend strictly. -/
theorem inline_results_ascend_mixed :
    ∃ outcome s', mapReduce {} "a" mixedKeysJob oneDocument = .ok outcome s' ∧
      outcome.results = .inline [mixedResults[1], mixedResults[2], mixedResults[0]] ∧
      (idOf mixedResults[2]).compare (idOf mixedResults[0]) = .lt := by
  obtain ⟨outcome, s', hrun, hresults⟩ := mixedKeysJob_succeeds
  obtain ⟨output, docs, keys, values, rs, emitted, haccepted, -, -, hevaluate, positions, -, hfound,
    hordered⟩ := inline_results_ascend {} "a" mixedKeysJob oneDocument s' outcome _ hrun hresults
  have hdocs : find "a" (selection mixedKeysJob) oneDocument =
      .ok [[("_id", .int32 1)]] oneDocument := rfl
  cases hdocs.symm.trans haccepted.selected
  cases evaluate_mixedKeysJob.symm.trans hevaluate
  have hinjective : Function.Injective mixedResults.get :=
    List.nodup_iff_injective_get.mp distinct_mixedResults.nodup.of_map
  have hpositions : [⟨1, by decide⟩, ⟨2, by decide⟩, ⟨0, by decide⟩] = positions :=
    List.map_injective_iff.mpr hinjective hfound
  subst hpositions
  have hlast : StandsBefore mixedResults ⟨2, by decide⟩ ⟨0, by decide⟩ := by
    simp only [List.pairwise_cons, List.mem_cons, List.not_mem_nil, or_false] at hordered
    exact hordered.2.1 _ rfl
  exact ⟨outcome, s', hrun, hresults, hlast.strict rfl rfl⟩

/-- The array comes before the number, which is below it in the order of values. -/
theorem inline_results_descend :
    ∃ outcome s' r t rest, mapReduce {} "a" mixedKeysJob oneDocument = .ok outcome s' ∧
      outcome.results = .inline (r :: t :: rest) ∧ (idOf r).compare (idOf t) = .gt := by
  obtain ⟨outcome, s', hrun, hresults⟩ := mixedKeysJob_succeeds
  exact ⟨outcome, s', _, _, _, hrun, hresults, by decide +kernel⟩

end Database

end Docbase
