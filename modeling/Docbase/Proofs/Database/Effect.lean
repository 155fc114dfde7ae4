import Docbase.Proofs.Database.Course
import Docbase.Proofs.Store.ListStore

/-!
What a successful job leaves. The destination holds the results, alone, after the documents
that were there, or merged with them by id; an inline job gives its results back and leaves the
store as it was. No other collection changes.
-/
namespace Docbase

namespace Merge

open ListStore

/-- The documents after one is written by its id. -/
def write (stored : List Document) (d : Document) : List Document :=
  match stored.findIdx? (hasId (idOf d)) with
  | some i => stored.set i d
  | none => stored ++ [d]

/-- The last result with the id of a document, or the document itself. -/
def updated (results : List Document) (d : Document) : Document :=
  (results.reverse.find? (hasId (idOf d))).getD d

/-- The first result for each id. -/
def firsts : List Document → List Document
  | [] => []
  | d :: rest => d :: (firsts rest).filter fun e => !hasId (idOf d) e

/-- The first results for the ids that are new to the documents. -/
def additions (old results : List Document) : List Document :=
  (firsts results).filter fun d => !old.any (hasId (idOf d))

/-- The old documents in their places and then one for each new id, all of them as the last
result with their id has them. -/
def merged (old results : List Document) : List Document :=
  (old ++ additions old results).map (updated results)

/-- Equal ids have the same key. -/
def key (d : Document) : Key := Key.ofValue (idOf d)

theorem hasId_iff_key (d e : Document) (he : e.Identified) :
    hasId (idOf d) e = true ↔ key e = key d := by
  obtain ⟨id, hid⟩ := Option.isSome_iff_exists.mp he
  have hkey : key e = Key.ofValue id := by
    rw [key, idOf, hid, Option.getD_some]
  rw [hasId_iff, hid, hkey]
  simp [key]

theorem hasId_congr (d e : Document) (h : key d = key e) :
    hasId (idOf d) = hasId (idOf e) := by
  funext f
  have hiff : hasId (idOf d) f = true ↔ hasId (idOf e) f = true := by
    rw [hasId_iff, hasId_iff]
    exact iff_of_eq (congrArg (fun k => ∃ own, Document.get? f "_id" = some own ∧
      Key.ofValue own = k) h)
  exact Bool.eq_iff_iff.mpr hiff

/-- The documents all have ids, no two of them equal. -/
structure Distinct (docs : List Document) : Prop where
  identified : ∀ d ∈ docs, d.Identified
  nodup : (docs.map key).Nodup

/-- The document takes the place of the one with its id. -/
def substitute (d e : Document) : Document := if key e = key d then d else e

theorem key_substitute (d e : Document) : key (substitute d e) = key e := by
  unfold substitute
  split
  · next h => exact h.symm
  · rfl

theorem substitute_of_ne (d e : Document) (h : key e ≠ key d) : substitute d e = e := if_neg h

theorem map_substitute_of_notMem (d : Document) (docs : List Document) (h : key d ∉ docs.map key) :
    docs.map (substitute d) = docs := by
  refine (List.map_congr_left fun e he => ?_).trans (List.map_id docs)
  refine substitute_of_ne d e fun heq => h ?_
  exact List.mem_map.mpr ⟨e, he, heq⟩

theorem any_hasId_iff (d : Document) (docs : List Document) (h : ∀ e ∈ docs, e.Identified) :
    docs.any (hasId (idOf d)) = true ↔ key d ∈ docs.map key := by
  rw [List.any_eq_true, List.mem_map]
  constructor
  · rintro ⟨e, he, hid⟩
    exact ⟨e, he, (hasId_iff_key d e (h e he)).mp hid⟩
  · rintro ⟨e, he, hkey⟩
    exact ⟨e, he, (hasId_iff_key d e (h e he)).mpr hkey⟩

theorem write_of_mem (stored : List Document) (d : Document) (h : Distinct stored)
    (hmem : key d ∈ stored.map key) : write stored d = stored.map (substitute d) := by
  have hfound := (any_hasId_iff d stored h.identified).mpr hmem
  rw [← List.findIdx?_isSome, Option.isSome_iff_exists] at hfound
  obtain ⟨i, hi⟩ := hfound
  rw [write, hi]
  obtain ⟨hlt, hid, -⟩ := List.findIdx?_eq_some_iff_getElem.mp hi
  have hkey := (hasId_iff_key d _ (h.identified _ (List.getElem_mem hlt))).mp hid
  apply List.ext_getElem
  · simp
  · intro j hj hj'
    rw [List.getElem_set, List.getElem_map]
    by_cases hij : i = j
    · subst hij
      rw [if_pos rfl, substitute, if_pos hkey]
    · -- No other document has the id.
      have hlt' : j < stored.length := by simpa using hj'
      have hne : key stored[j] ≠ key d := by
        intro heq
        have hi' : i < (stored.map key).length := by simpa using hlt
        have hj'' : j < (stored.map key).length := by simpa using hlt'
        have hkeys : (stored.map key)[i] = (stored.map key)[j] := by
          rw [List.getElem_map, List.getElem_map, hkey, heq]
        exact hij (h.nodup.getElem_inj_iff.mp hkeys)
      rw [if_neg hij, substitute_of_ne _ _ hne]

theorem write_of_notMem (stored : List Document) (d : Document) (h : Distinct stored)
    (hmem : key d ∉ stored.map key) : write stored d = stored ++ [d] := by
  have hnone : stored.findIdx? (hasId (idOf d)) = none := by
    rw [← Option.not_isSome_iff_eq_none, List.findIdx?_isSome]
    exact fun hany => hmem ((any_hasId_iff d stored h.identified).mp hany)
  rw [write, hnone]

theorem distinct_write (stored : List Document) (d : Document) (h : Distinct stored)
    (hd : d.Identified) : Distinct (write stored d) := by
  by_cases hmem : key d ∈ stored.map key
  · rw [write_of_mem stored d h hmem]
    constructor
    · intro e he
      obtain ⟨e', he', rfl⟩ := List.mem_map.mp he
      unfold substitute
      split
      · exact hd
      · exact h.identified e' he'
    · rw [List.map_map]
      have hkeys : key ∘ substitute d = key := funext (key_substitute d)
      rw [hkeys]
      exact h.nodup
  · rw [write_of_notMem stored d h hmem]
    constructor
    · intro e he
      rcases List.mem_append.mp he with hold | hnew
      · exact h.identified e hold
      · exact List.mem_singleton.mp hnew ▸ hd
    · rw [List.map_append]
      exact h.nodup.append (List.nodup_singleton _) (by simpa using hmem)

/-- A later result has the last word. -/
theorem updated_cons (d : Document) (hd : d.Identified) (rest : List Document) (e : Document) :
    updated (d :: rest) e = updated rest (substitute d e) := by
  rw [updated, List.reverse_cons, List.find?_append, updated]
  by_cases hkey : key e = key d
  · have hhas : hasId (idOf e) d = true := (hasId_iff_key e d hd).mpr hkey.symm
    rw [substitute, if_pos hkey, List.find?_cons_of_pos hhas, hasId_congr e d hkey]
    cases rest.reverse.find? (hasId (idOf d)) <;> rfl
  · have hhas : ¬hasId (idOf e) d = true := fun h => hkey ((hasId_iff_key e d hd).mp h).symm
    rw [substitute_of_ne d e hkey, List.find?_cons_of_neg hhas, List.find?_nil, Option.or_none]

theorem identified_firsts (results : List Document) (h : ∀ d ∈ results, d.Identified) :
    ∀ d ∈ firsts results, d.Identified := by
  induction results with
  | nil => exact h
  | cons d rest ih =>
    intro e he
    rcases List.mem_cons.mp he with rfl | hmem
    · exact h e List.mem_cons_self
    · exact ih (fun d hd => h d (List.mem_cons_of_mem _ hd)) e (List.mem_of_mem_filter hmem)

theorem mem_keys_write (old : List Document) (hold : Distinct old) (d : Document) (k : Key) :
    k ∈ (write old d).map key ↔ k = key d ∨ k ∈ old.map key := by
  by_cases hmem : key d ∈ old.map key
  · have hkeys : key ∘ substitute d = key := funext (key_substitute d)
    rw [write_of_mem old d hold hmem, List.map_map, hkeys]
    constructor
    · exact Or.inr
    · rintro (rfl | hk)
      · exact hmem
      · exact hk
  · rw [write_of_notMem old d hold hmem, List.map_append, List.mem_append, or_comm]
    simp

/-- Once a result is written, its id is not new. -/
theorem additions_write (old : List Document) (hold : Distinct old) (d : Document)
    (hd : d.Identified) (rest : List Document) (hrest : ∀ e ∈ rest, e.Identified) :
    additions old (d :: rest) =
      if key d ∈ old.map key then additions (write old d) rest
      else d :: additions (write old d) rest := by
  have hwrite := distinct_write old d hold hd
  have htail : ((firsts rest).filter fun e => !hasId (idOf d) e).filter
      (fun e => !old.any (hasId (idOf e))) = additions (write old d) rest := by
    rw [List.filter_filter, additions]
    refine List.filter_congr fun e he => ?_
    have hsame := hasId_iff_key d e (identified_firsts rest hrest e he)
    have hold' := any_hasId_iff e old hold.identified
    have hnew := any_hasId_iff e (write old d) hwrite.identified
    rw [mem_keys_write old hold d] at hnew
    rw [Bool.eq_iff_iff, Bool.and_eq_true, Bool.not_eq_true', Bool.not_eq_true',
      Bool.not_eq_true', ← Bool.not_eq_true, ← Bool.not_eq_true, ← Bool.not_eq_true, hsame, hold',
      hnew]
    tauto
  have hany := any_hasId_iff d old hold.identified
  rw [additions, firsts]
  by_cases hmem : key d ∈ old.map key
  · rw [if_pos hmem, List.filter_cons_of_neg (by simp [hany.mpr hmem]), htail]
  · have hnot : old.any (hasId (idOf d)) = false := Bool.eq_false_iff.mpr fun h => hmem (hany.mp h)
    rw [if_neg hmem, List.filter_cons_of_pos (by rw [hnot]; rfl), htail]

theorem map_substitute_additions (old : List Document) (hold : Distinct old) (d : Document)
    (hd : d.Identified) (rest : List Document) :
    (additions (write old d) rest).map (substitute d) = additions (write old d) rest := by
  apply map_substitute_of_notMem
  intro hmem
  obtain ⟨e, he, hkey⟩ := List.mem_map.mp hmem
  have hnew : (write old d).any (hasId (idOf e)) = true := by
    rw [any_hasId_iff e _ (distinct_write old d hold hd).identified, mem_keys_write old hold d]
    exact Or.inl hkey
  have hnot := (List.mem_filter.mp he).2
  rw [hnew] at hnot
  cases hnot

/-- Writing one result and merging the others comes to merging all. -/
theorem merged_write (old : List Document) (hold : Distinct old) (d : Document)
    (hd : d.Identified) (rest : List Document) (hrest : ∀ e ∈ rest, e.Identified) :
    merged (write old d) rest = merged old (d :: rest) := by
  have hupdated (l : List Document) :
      l.map (updated (d :: rest)) = (l.map (substitute d)).map (updated rest) := by
    rw [List.map_map]
    exact List.map_congr_left fun e _ => updated_cons d hd rest e
  have hadded := map_substitute_additions old hold d hd rest
  rw [merged, merged, hupdated, additions_write old hold d hd rest hrest]
  by_cases hmem : key d ∈ old.map key
  · rw [if_pos hmem, List.map_append (f := substitute d), hadded, ← write_of_mem old d hold hmem]
  · have hself : substitute d d = d := if_pos rfl
    rw [if_neg hmem, List.map_append (f := substitute d), List.map_cons, hself, hadded,
      map_substitute_of_notMem d old hmem, write_of_notMem old d hold hmem, List.append_assoc,
      List.singleton_append]

/-- Writing results one after the other. -/
theorem foldl_write (results : List Document) (hresults : ∀ d ∈ results, d.Identified)
    (old : List Document) (hold : Distinct old) : results.foldl write old = merged old results := by
  induction results generalizing old with
  | nil =>
    have hid : updated [] = id := rfl
    simp [merged, additions, firsts, hid]
  | cons d rest ih =>
    have hd := hresults d List.mem_cons_self
    have hrest : ∀ e ∈ rest, e.Identified := fun e he => hresults e (List.mem_cons_of_mem _ he)
    rw [List.foldl_cons, ih hrest _ (distinct_write old d hold hd),
      merged_write old hold d hd rest hrest]

end Merge

namespace Collection

open ListStore

theorem distinct_docs (c : Collection) (h : c.WellIndexed) : Merge.Distinct c.docs.toList := by
  refine ⟨fun d hd => h.has_id d (Array.mem_toList_iff.mp hd), ?_⟩
  rw [List.Nodup, List.pairwise_map, List.pairwise_iff_getElem]
  intro i j hi hj hlt heq
  rw [Array.getElem_toList, Array.getElem_toList] at heq
  rw [Array.length_toList] at hi hj
  obtain ⟨a, ha⟩ := Option.isSome_iff_exists.mp (h.has_id _ (Array.getElem_mem hi))
  obtain ⟨b, hb⟩ := Option.isSome_iff_exists.mp (h.has_id _ (Array.getElem_mem hj))
  rw [Merge.key, Merge.key, idOf, idOf, ha, hb] at heq
  have hij := h.distinct i j _ _ a b (Array.getElem?_eq_getElem hi)
    (Array.getElem?_eq_getElem hj) ha hb ((Value.ofValue_eq_iff a b).mp heq)
  omega

theorem completeAll_identified (docs : List Document) (h : ∀ d ∈ docs, d.Identified)
    (ids : IdSupply) : completeAll docs ids = (docs, ids) := by
  induction docs with
  | nil => rfl
  | cons d docs ih =>
    have hcontains : Document.contains d "_id" = true := h d List.mem_cons_self
    rw [completeAll, complete, if_pos hcontains]
    simp only [ih fun d hd => h d (List.mem_cons_of_mem _ hd)]

/-- Documents with ids of their own are stored as they are. -/
theorem insertAll_docs (c : Collection) (hc : c.WellIndexed) (docs : List Document)
    (hdocs : ∀ d ∈ docs, d.Identified) (ids : IdSupply) (inserted : List Value)
    (c' : Collection) (ids' : IdSupply) (h : c.insertAll ids docs = .ok (inserted, c', ids')) :
    c'.docs.toList = c.docs.toList ++ docs := by
  have hall := insertAll_eq docs c hc ids
  rw [h, completeAll_identified docs hdocs] at hall
  split at hall
  · cases hall
  · simp only [Except.map, Except.ok.injEq, Prod.mk.injEq] at hall
    exact hall.2.1

theorem writeById_docs (c : Collection) (hc : c.WellIndexed) (d : Document) (id : Value)
    (hid : Document.get? d "_id" = some id) :
    (c.writeById id d).docs.toList = Merge.write c.docs.toList d := by
  have hidOf : idOf d = id := by
    rw [idOf, hid, Option.getD_some]
  rw [writeById, position?_eq_findIdx? c hc, Merge.write, hidOf]
  cases c.docs.toList.findIdx? (hasId id) with
  | some i => exact Array.toList_setIfInBounds
  | none => exact Array.toList_push

end Collection

namespace Store

variable {s s' : Store} {name : String}

/-- The documents of a collection; one that is not there holds none. -/
def contents (s : Store) (name : String) : List Document :=
  match s.scan name with
  | .ok docs => docs
  | .error _ => []

theorem scan_of_find (c : Collection) (h : s.find name = .ok c) :
    s.scan name = .ok c.docs.toList := by
  rw [scan, h]
  rfl

theorem find_of_scan (docs : List Document) (h : s.scan name = .ok docs) :
    ∃ c, s.find name = .ok c ∧ c.docs.toList = docs := by
  cases hfind : s.find name with
  | error e =>
    rw [scan, hfind] at h
    cases h
  | ok c =>
    rw [scan_of_find c hfind] at h
    exact ⟨c, rfl, Except.ok.inj h⟩

theorem scan_create : (s.create name).scan name = .ok (s.contents name) := by
  cases hfind : s.collection? name with
  | some c =>
    have hhas : s.has name = true := by
      rw [has, hfind, Option.isSome_some]
    have hfound : s.find name = .ok c := by
      rw [find, hfind]
    rw [create_of_has s name hhas, contents, scan_of_find c hfound]
  | none =>
    have hmissing : s.find name = .error (.collectionNotFound name) := by
      rw [find, hfind]
    have hmade : (s.create name).find name = .ok .empty := by
      rw [create, hfind]
      rw [collection?] at hfind
      rw [find, collection?, lookUp_append, hfind]
      simp [lookUp]
    rw [scan_of_find .empty hmade, contents, scan, hmissing]
    rfl

theorem scan_put (c : Collection) (ids : IdSupply) (h : s.has name = true) :
    scan { s.put name c with ids } name = .ok c.docs.toList :=
  scan_of_find c (find_put s name c ids h)

theorem scan_insertMany (hs : s.WellFormed) (docs old : List Document)
    (hdocs : ∀ d ∈ docs, d.Identified) (hold : s.scan name = .ok old) (inserted : List Value)
    (h : s.insertMany name docs = .ok (inserted, s')) : s'.scan name = .ok (old ++ docs) := by
  obtain ⟨c, c', ids', hfind, hall, rfl⟩ := insertMany_eq_ok s name docs inserted s' h
  rw [scan_of_find c hfind] at hold
  cases hold
  rw [scan_put c' ids' (has_of_find s name c hfind),
    Collection.insertAll_docs c (hs.find name c hfind) docs hdocs s.ids inserted c' ids' hall]

theorem scan_upsert (hs : s.WellFormed) (d : Document) (hd : d.Identified) (old : List Document)
    (hold : s.scan name = .ok old) (outcome : Upsert)
    (h : s.upsert name d = .ok (outcome, s')) : s'.scan name = .ok (Merge.write old d) := by
  obtain ⟨c, id, e, ids', hfind, hwith, rfl⟩ := upsert_eq_ok s name d outcome s' h
  obtain ⟨own, hown, heq⟩ := Collection.withId_eq d hd s.ids
  rw [heq] at hwith
  cases hwith
  rw [scan_of_find c hfind] at hold
  cases hold
  rw [scan_put _ _ (has_of_find s name c hfind),
    Collection.writeById_docs c (hs.find name c hfind) d id hown]

end Store

namespace MapReduce.Output

variable {o : Output} {rs : List Document} {s s' : Store}

theorem wellFormed_prepared (h : s.WellFormed) : (o.prepared s).WellFormed := by
  have hcreate := s.wellFormed_create h o.collection
  unfold prepared
  split
  · exact Store.wellFormed_put _ hcreate o.collection .empty Collection.wellIndexed_empty _
  · exact hcreate

/-- The documents that stay when the destination is made ready. -/
theorem scan_prepared : (o.prepared s).scan o.collection =
    .ok (if o.isCleared then [] else s.contents o.collection) := by
  unfold prepared
  split
  · exact Store.scan_put .empty _ (s.has_create o.collection)
  · exact Store.scan_create

theorem scan_upsertAll (hs : s.WellFormed) (hrs : ∀ d ∈ rs, d.Identified) (old : List Document)
    (hold : s.scan o.collection = .ok old) (h : o.upsertAll rs s = .ok () s') :
    s'.scan o.collection = .ok (rs.foldl Merge.write old) := by
  induction rs generalizing s old with
  | nil =>
    cases h
    exact hold
  | cons d rest ih =>
    obtain ⟨outcome, s₁, hfirst, hothers⟩ := bind_eq_ok h
    rcases StoreM.ofStore_cases (fun s => s.upsert o.collection d) s with
      ⟨e, -, herror⟩ | ⟨outcome', s₂, hupsert, hok⟩
    · cases herror.symm.trans hfirst
    · cases hok.symm.trans hfirst
      have hd := hrs d List.mem_cons_self
      exact ih (s.wellFormed_upsert hs o.collection d outcome s₁ hupsert)
        (fun d hd => hrs d (List.mem_cons_of_mem _ hd)) _
        (Store.scan_upsert hs d hd old hold outcome hupsert) hothers

theorem scan_insertAll (hs : s.WellFormed) (hrs : ∀ d ∈ rs, d.Identified) (old : List Document)
    (hold : s.scan o.collection = .ok old) (inserted : List Value)
    (h : StoreM.insertMany o.collection rs s = .ok inserted s') :
    s'.scan o.collection = .ok (old ++ rs) := by
  rcases StoreM.ofStore_cases (fun s => s.insertMany o.collection rs) s with
    ⟨e, -, herror⟩ | ⟨inserted', s₂, hinsert, hok⟩
  · cases herror.symm.trans h
  · cases hok.symm.trans h
    exact Store.scan_insertMany hs rs old hrs hold inserted hinsert

/-- What the destination holds after results are written to it. -/
def written (o : Output) (old rs : List Document) : List Document :=
  match o.mode with
  | .replace | .inline => rs
  | .reduce => old ++ rs
  | .merge => Merge.merged old rs

theorem scan_addAll (hs : s.WellFormed) (hrs : ∀ d ∈ rs, d.Identified)
    (h : o.addAll rs (o.prepared s) = .ok () s') :
    s'.scan o.collection = .ok (o.written (s.contents o.collection) rs) := by
  have hready := wellFormed_prepared (o := o) hs
  have hscan := scan_prepared (o := o) (s := s)
  unfold addAll at h
  unfold written
  unfold isCleared at hscan
  cases hmode : o.mode with
  | replace | inline =>
    simp only [hmode] at h hscan
    obtain ⟨inserted, s₁, hinsert, hpure⟩ := bind_eq_ok h
    cases hpure
    exact scan_insertAll hready hrs [] hscan inserted hinsert
  | merge =>
    simp only [hmode] at h hscan
    rw [scan_upsertAll hready hrs _ hscan h]
    obtain ⟨c, hfind, hdocs⟩ := Store.find_of_scan _ hscan
    have hdistinct := c.distinct_docs (hready.find _ c hfind)
    rw [hdocs] at hdistinct
    exact congrArg Except.ok (Merge.foldl_write rs hrs _ hdistinct)
  | reduce =>
    simp only [hmode] at h hscan
    obtain ⟨_, s₁, hcheck, hrest⟩ := bind_eq_ok h
    rcases o.checkNew_cases rs (o.prepared s) with ⟨e, -, herror⟩ | hok
    · cases herror.symm.trans hcheck
    · cases hok.symm.trans hcheck
      obtain ⟨inserted, s₂, hinsert, hpure⟩ := bind_eq_ok hrest
      cases hpure
      exact scan_insertAll hready hrs _ hscan inserted hinsert

theorem sort_perm (spec : SortSpec) (docs : List Document) : (spec.sort docs).Perm docs := by
  unfold SortSpec.sort
  split
  · exact .refl docs
  · exact List.mergeSort_perm docs _

/-- The order in which inline results are given back. -/
def idOrder : SortSpec := ⟨[⟨Path.ofText "_id", .ascending⟩]⟩

theorem results_eq_sort (hmode : o.mode = .inline) (db : String) (docs : List Document)
    (hscan : s.scan o.collection = .ok docs) :
    o.results db s = .ok (.inline (idOrder.sort docs)) s := by
  have hread : StoreM.scan o.collection s = .ok docs s := by
    rw [StoreM.scan, StoreM.ofRead, hscan]
  rw [results, hmode]
  exact Script.Run.bind_ok hread

/-- Inline results are what the temporary collection holds, in some order. -/
theorem results_inline (hmode : o.mode = .inline) (db : String) (docs : List Document)
    (hscan : s.scan o.collection = .ok docs) (found : Results)
    (h : o.results db s = .ok found s') : ∃ sorted, found = .inline sorted ∧ sorted.Perm docs := by
  cases (results_eq_sort hmode db docs hscan).symm.trans h
  exact ⟨_, rfl, sort_perm idOrder docs⟩

theorem results_collection (hmode : o.mode ≠ .inline) (db : String) (found : Results)
    (h : o.results db s = .ok found s') : found = .collection o.collection db := by
  unfold results at h
  cases hm : o.mode with
  | inline => exact absurd hm hmode
  | replace | merge | reduce =>
    rw [hm] at h
    cases h
    rfl

end MapReduce.Output

namespace Database

open MapReduce

/-- A job that succeeds found documents and made results of them, one for each key in the order
of the registry's list of keys. An inline job gives them back in some order and leaves the store
as it was. Any other job leaves its destination with the results alone, with the results after
the old documents, or with both merged by id, and every other collection as it was. The
destination may be the collection of the documents. -/
theorem successful_job_effect (settings : Settings) (name : String) (job : Job) (s s' : Store)
    (outcome : Outcome) (hs : s.WellFormed)
    (hnew : s.has (Output.temporary s.ids.next) = false)
    (h : mapReduce settings name job s = .ok outcome s') :
    ∃ output docs keys values rs emitted, Accepted name job s output docs ∧
      (∃ scope, mapPhase settings.scriptBatchChars job docs .fresh = .ok keys scope) ∧
      rs = List.zipWith resultOf keys values ∧
      job.evaluate settings.scriptBatchChars docs = .ok (rs, emitted) ∧
      outcome.counts = ⟨docs.length, emitted, rs.length, rs.length⟩ ∧
      match output.mode with
      | .inline => s' = s ∧ ∃ found, outcome.results = .inline found ∧ found.Perm rs
      | _ => Store.SameBesides output.collection s s' ∧
        s'.scan output.collection = .ok (output.written (s.contents output.collection) rs) ∧
        outcome.results = .collection output.collection settings.name := by
  rcases mapReduce_cases settings name job s with
    ⟨-, e, herror⟩ | ⟨-, output, docs, haccepted, hduring⟩
  · cases herror.symm.trans h
  rw [hduring] at h
  rcases runJob_cases settings job output docs s with
    ⟨e, -, hrun, -⟩ | ⟨rs, emitted, s₁, found, hevaluate, hadd, hwrites, hfound, hrun⟩
  · by_cases hinline : output.mode = .inline
    · cases (Output.during_error hinline hrun).symm.trans h
    · rw [Output.during_eq hinline] at h
      cases hrun.symm.trans h
  · obtain ⟨keys, values, hkeys, hrs⟩ := Job.evaluate_eq_ok hevaluate
    have hids : ∀ d ∈ rs, d.Identified := hrs ▸ identified_zipWith_resultOf keys values
    have hscan := Output.scan_addAll hs hids hadd
    by_cases hinline : output.mode = .inline
    · cases (Output.during_ok hinline hrun).symm.trans h
      have hmissing : s.has output.collection = false := by
        rw [temporary_of_inline _ _ output haccepted.parsed hinline]
        exact hnew
      refine ⟨output, docs, keys, values, rs, emitted, haccepted, hkeys, hrs, hevaluate, rfl, ?_⟩
      simp only [hinline]
      refine ⟨hwrites.same.drop_eq hmissing, ?_⟩
      have hwritten : output.written (s.contents output.collection) rs = rs := by
        rw [Output.written, hinline]
      rw [hwritten] at hscan
      exact Output.results_inline hinline settings.name rs hscan found hfound
    · rw [Output.during_eq hinline] at h
      cases hrun.symm.trans h
      refine ⟨output, docs, keys, values, rs, emitted, haccepted, hkeys, hrs, hevaluate, rfl, ?_⟩
      have hresult := Output.results_collection hinline settings.name found hfound
      cases hmode : output.mode with
      | inline => exact absurd hmode hinline
      | replace | merge | reduce => exact ⟨hwrites.same, hscan, hresult⟩

/-- A job that gives the only document of its source a value. -/
def mergingJob : Job where
  map := "function() emit(1, 5) end"
  reduce := "function(key, values) return values[1] end"
  out := .document [("merge", .string "a")]

/-- The one result of the job. -/
def mergingResult : Document := [("_id", .int32 1), ("value", .int32 5)]

theorem evaluate_mergingJob :
    mergingJob.evaluate 65536 [[("_id", .int32 1)]] = .ok ([mergingResult], 1) := by
  have hcheck : givesNumbers [(1, 5)] 1
      (mergingJob.evaluate 65536 [[("_id", .int32 1)]]) = true := by
    decide +kernel
  exact eq_of_givesNumbers hcheck

theorem wellFormed_oneDocument : oneDocument.WellFormed := by
  refine ⟨List.nodup_singleton _, fun entry hentry => ?_⟩
  rw [List.mem_singleton.mp hentry]
  refine Collection.wellIndexed_append .empty Collection.wellIndexed_empty _ _ rfl ?_
  simp [Collection.position?, Collection.empty]

theorem accepted_mergingJob :
    Accepted "a" mergingJob oneDocument ⟨.merge, "a"⟩ [[("_id", .int32 1)]] :=
  ⟨by decide +kernel, rfl, rfl⟩

/-- The destination is the source, and the result takes the place of its document. -/
theorem successful_job_effect_merge :
    ∃ outcome s', mapReduce {} "a" mergingJob oneDocument = .ok outcome s' ∧
      outcome.results = .collection "a" "test" ∧ s'.scan "a" = .ok [mergingResult] := by
  obtain ⟨found, s', h⟩ := merge_succeeds {} accepted_mergingJob rfl evaluate_mergingJob
  obtain ⟨output, docs, keys, values, rs, emitted, haccepted, -, -, hevaluate, -, heffect⟩ :=
    successful_job_effect {} "a" mergingJob oneDocument s' _ wellFormed_oneDocument
      (by decide +kernel) h
  cases accepted_mergingJob.parsed.symm.trans haccepted.parsed
  cases accepted_mergingJob.selected.symm.trans haccepted.selected
  cases evaluate_mergingJob.symm.trans hevaluate
  obtain ⟨-, hscan, hresults⟩ := heffect
  exact ⟨_, s', h, hresults, hscan⟩

end Database

end Docbase
