import Docbase.Database
import Docbase.Proofs.Refusal
import Docbase.Proofs.Script.Heap
import Docbase.Proofs.Store.Index

/-!
What each step of a job does to the store. The destination is made and perhaps cleared, then
the results are written to it, and no other collection is touched.
-/
namespace Docbase

namespace Document

/-- Results come with an `_id`, so that no id is drawn from the supply for them. -/
def Identified (d : Document) : Prop := (get? d "_id").isSome

end Document

namespace Collection

theorem withId_eq (d : Document) (h : d.Identified) (ids : IdSupply) :
    ∃ id, Document.get? d "_id" = some id ∧ withId d ids = (id, d, ids) := by
  obtain ⟨id, hid⟩ := Option.isSome_iff_exists.mp h
  exact ⟨id, hid, by rw [withId, hid]⟩

theorem insertAll_ids (docs : List Document) (h : ∀ d ∈ docs, d.Identified) (c : Collection)
    (ids : IdSupply) (inserted : List Value) (c' : Collection) (ids' : IdSupply)
    (heq : c.insertAll ids docs = .ok (inserted, c', ids')) : ids' = ids := by
  induction docs generalizing c inserted with
  | nil =>
    rw [insertAll] at heq
    cases heq
    rfl
  | cons d docs ih =>
    obtain ⟨id, -, hwith⟩ := withId_eq d (h d List.mem_cons_self) ids
    rw [insertAll_cons, hwith] at heq
    by_cases htaken : (c.position? id).isSome
    · simp [htaken] at heq
    · cases hrest : (c.append id d).insertAll ids docs with
      | error e => simp [htaken, hrest, Except.map] at heq
      | ok result =>
        simp only [htaken, hrest, Except.map, Bool.false_eq_true, if_false, Except.ok.injEq,
          Prod.mk.injEq] at heq
        refine ih (fun d hd => h d (List.mem_cons_of_mem _ hd)) (c.append id d) result.1 ?_
        rw [hrest, ← heq.2]

end Collection

namespace Store

/-- The stores are the same but for one collection. -/
def SameBesides (name : String) (s s' : Store) : Prop := (s'.drop name).2 = (s.drop name).2

theorem SameBesides.trans {name : String} {s s' s'' : Store} (h : SameBesides name s s')
    (h' : SameBesides name s' s'') : SameBesides name s s'' := Eq.trans h' h

theorem lookUp_append (name : String) (l m : List (String × Collection)) :
    lookUp name (l ++ m) = (lookUp name l).or (lookUp name m) := by
  induction l with
  | nil => simp [lookUp]
  | cons entry rest ih =>
    obtain ⟨n, c⟩ := entry
    rw [List.cons_append, lookUp, lookUp, ih]
    split
    · simp
    · rfl

theorem lookUp_replaceIn (name : String) (new : Collection) (l : List (String × Collection))
    (h : (lookUp name l).isSome) : lookUp name (replaceIn name new l) = some new := by
  induction l with
  | nil => simp [lookUp] at h
  | cons entry rest ih =>
    obtain ⟨n, c⟩ := entry
    rw [replaceIn]
    by_cases hn : n = name
    · rw [if_pos hn, lookUp, if_pos hn]
    · rw [lookUp, if_neg hn] at h
      rw [if_neg hn, lookUp, if_neg hn, ih h]

theorem lookUp_filter (name other : String) (h : other ≠ name) (l : List (String × Collection)) :
    lookUp other (l.filter fun entry => entry.1 != name) = lookUp other l := by
  induction l with
  | nil => rfl
  | cons entry rest ih =>
    obtain ⟨n, c⟩ := entry
    by_cases hn : n = name
    · have hne : n ≠ other := fun heq => h (heq.symm.trans hn)
      rw [List.filter_cons_of_neg (by simp [hn]), lookUp, if_neg hne, ih]
    · rw [List.filter_cons_of_pos (by simp [hn]), lookUp, lookUp, ih]

/-- What is in the other collections. -/
theorem SameBesides.collection? {name : String} {s s' : Store} (h : SameBesides name s s')
    (other : String) (hother : other ≠ name) : s'.collection? other = s.collection? other := by
  have hfilter := congrArg (fun s => lookUp other s.collections) h
  simp only [drop, lookUp_filter name other hother] at hfilter
  exact hfilter

theorem collection?_create (s : Store) (name : String) :
    ∃ c, (s.create name).collection? name = some c := by
  unfold create
  cases h : s.collection? name with
  | some c => exact ⟨c, h⟩
  | none =>
    refine ⟨.empty, ?_⟩
    rw [collection?, lookUp_append]
    rw [collection?] at h
    simp [h, lookUp]

theorem has_create (s : Store) (name : String) : (s.create name).has name = true := by
  obtain ⟨c, hc⟩ := collection?_create s name
  rw [has, hc, Option.isSome_some]

theorem create_of_has (s : Store) (name : String) (h : s.has name = true) :
    s.create name = s := by
  obtain ⟨c, hc⟩ := Option.isSome_iff_exists.mp h
  rw [create, hc]

theorem find_eq_ok (s : Store) (name : String) (h : s.has name = true) :
    ∃ c, s.find name = .ok c := by
  obtain ⟨c, hc⟩ := Option.isSome_iff_exists.mp h
  exact ⟨c, by rw [find, hc]⟩

theorem find_put (s : Store) (name : String) (c : Collection) (ids : IdSupply)
    (h : s.has name = true) : find { s.put name c with ids } name = .ok c := by
  have hlookUp : collection? { s.put name c with ids } name = some c :=
    lookUp_replaceIn name c s.collections h
  rw [find, hlookUp]

theorem has_put (s : Store) (name : String) (c : Collection) (ids : IdSupply)
    (h : s.has name = true) : has { s.put name c with ids } name = true := by
  have hlookUp : collection? { s.put name c with ids } name = some c :=
    lookUp_replaceIn name c s.collections h
  rw [has, hlookUp, Option.isSome_some]

theorem filter_replaceIn (name : String) (c : Collection) (l : List (String × Collection)) :
    (replaceIn name c l).filter (fun entry => entry.1 != name) =
      l.filter fun entry => entry.1 != name := by
  induction l with
  | nil => rfl
  | cons entry rest ih =>
    obtain ⟨n, old⟩ := entry
    rw [replaceIn]
    by_cases hn : n = name
    · rw [if_pos hn, List.filter_cons_of_neg (by simp [hn]),
        List.filter_cons_of_neg (by simp [hn])]
    · rw [if_neg hn, List.filter_cons_of_pos (by simp [hn]),
        List.filter_cons_of_pos (by simp [hn]), ih]

theorem put_sameBesides (s : Store) (name : String) (c : Collection) :
    SameBesides name s (s.put name c) := by
  rw [SameBesides, drop, drop, put]
  simp only [filter_replaceIn]

theorem create_sameBesides (s : Store) (name : String) : SameBesides name s (s.create name) := by
  rw [SameBesides, create]
  split
  · rfl
  · simp [drop]

/-- Without a collection of the name, there is nothing else. -/
theorem SameBesides.drop_eq {name : String} {s s' : Store} (h : SameBesides name s s')
    (hnew : s.has name = false) : (s'.drop name).2 = s := by
  have hnone : name ∉ s.collections.map Prod.fst := by
    rw [← lookUp_eq_none_iff]
    exact Option.not_isSome_iff_eq_none.mp (Bool.eq_false_iff.mp hnew)
  have hall : ∀ entry ∈ s.collections, (entry.1 != name) = true := by
    intro entry hentry
    rw [bne_iff_ne]
    intro heq
    exact hnone (List.mem_map.mpr ⟨entry, hentry, heq⟩)
  rw [h, drop]
  dsimp only
  rw [List.filter_eq_self.mpr hall]

/-- A write to a collection that is there leaves the others as they were. -/
structure Writes (name : String) (s s' : Store) : Prop where
  has : s'.has name = true
  same : SameBesides name s s'

theorem Writes.trans {name : String} {s s' s'' : Store} (h : Writes name s s')
    (h' : Writes name s' s'') : Writes name s s'' := ⟨h'.has, h.same.trans h'.same⟩

theorem writes_put (s : Store) (name : String) (c : Collection) (h : s.has name = true) :
    Writes name s (s.put name c) := ⟨has_put s name c s.ids h, put_sameBesides s name c⟩

theorem has_of_find (s : Store) (name : String) (c : Collection) (h : s.find name = .ok c) :
    s.has name = true := by
  unfold find at h
  split at h
  · next hsome => rw [has, hsome, Option.isSome_some]
  · cases h

theorem writes_insertMany (s : Store) (name : String) (docs : List Document)
    (hdocs : ∀ d ∈ docs, d.Identified) (inserted : List Value) (s' : Store)
    (h : s.insertMany name docs = .ok (inserted, s')) : Writes name s s' := by
  obtain ⟨c, c', ids', hfind, hall, rfl⟩ := insertMany_eq_ok s name docs inserted s' h
  rw [Collection.insertAll_ids docs hdocs c s.ids inserted c' ids' hall]
  exact writes_put s name c' (has_of_find s name c hfind)

theorem writes_upsert (s : Store) (name : String) (d : Document) (hd : d.Identified)
    (outcome : Upsert) (s' : Store) (h : s.upsert name d = .ok (outcome, s')) :
    Writes name s s' := by
  obtain ⟨c, id, e, ids', hfind, hwith, rfl⟩ := upsert_eq_ok s name d outcome s' h
  obtain ⟨own, -, heq⟩ := Collection.withId_eq d hd s.ids
  rw [heq] at hwith
  cases hwith
  exact writes_put s name _ (has_of_find s name c hfind)

/-- A document can be written by its id to any collection that is there. -/
theorem exists_upsert (s : Store) (name : String) (d : Document) (h : s.has name = true) :
    ∃ outcome s', s.upsert name d = .ok (outcome, s') := by
  obtain ⟨c, hc⟩ := find_eq_ok s name h
  cases hupsert : s.upsert name d with
  | error e =>
    unfold upsert at hupsert
    rcases hwith : Collection.withId d s.ids with ⟨id, e, ids⟩
    cases hposition : c.position? id <;>
      simp [hc, hwith, hposition, bind, Except.bind, pure, Except.pure] at hupsert
  | ok result => exact ⟨result.1, result.2, rfl⟩

end Store

/-- The kinds of errors that a job can end with once it runs. -/
def DbError.IsLate : DbError → Prop
  | .script _ | .output _ | .store _ => True
  | .query _ | .invalidJob _ => False

namespace StoreM

variable {α : Type}

/-- Reading leaves the store as it was. -/
theorem ofRead_cases (g : Store → Except StoreError α) (s : Store) :
    (∃ e, e.IsLate ∧ ofRead g s = .error e s) ∨ ∃ a, g s = .ok a ∧ ofRead g s = .ok a s := by
  unfold ofRead
  cases g s with
  | error e => exact Or.inl ⟨.store e, trivial, rfl⟩
  | ok a => exact Or.inr ⟨a, rfl, rfl⟩

/-- A call that fails leaves the store as it was. -/
theorem ofStore_cases (g : Store → Except StoreError (α × Store)) (s : Store) :
    (∃ e, e.IsLate ∧ ofStore g s = .error e s) ∨
      ∃ a s', g s = .ok (a, s') ∧ ofStore g s = .ok a s' := by
  unfold ofStore
  cases g s with
  | error e => exact Or.inl ⟨.store e, trivial, rfl⟩
  | ok result => exact Or.inr ⟨result.1, result.2, rfl, rfl⟩

end StoreM

namespace MapReduce

theorem identified_zipWith_resultOf (keys values : List Value) :
    ∀ d ∈ List.zipWith resultOf keys values, d.Identified := by
  intro d hd
  rw [List.mem_iff_getElem] at hd
  obtain ⟨i, hi, rfl⟩ := hd
  rw [List.getElem_zipWith]
  rfl

namespace Output

/-- The store once the destination is ready. -/
def prepared (o : Output) (s : Store) : Store :=
  if o.isCleared then (s.create o.collection).put o.collection .empty else s.create o.collection

theorem init_eq (o : Output) (s : Store) : o.init s = .ok () (o.prepared s) := by
  obtain ⟨c, hc⟩ := Store.find_eq_ok _ o.collection (s.has_create o.collection)
  have hcreate : StoreM.create o.collection s = .ok () (s.create o.collection) := rfl
  rw [init, Script.Run.bind_ok hcreate, prepared]
  split
  · have hremove : StoreM.removeAll o.collection (s.create o.collection) =
        .ok c.docs.size ((s.create o.collection).put o.collection .empty) := by
      simp [StoreM.removeAll, StoreM.ofStore, Store.removeAll, hc, bind, Except.bind, pure,
        Except.pure]
    rw [Script.Run.bind_ok hremove]
    rfl
  · rfl

/-- The destination is there, and the other collections are as before. -/
theorem writes_prepared (o : Output) (s : Store) : Store.Writes o.collection s (o.prepared s) := by
  have hcreate : Store.Writes o.collection s (s.create o.collection) :=
    ⟨s.has_create o.collection, s.create_sameBesides o.collection⟩
  unfold prepared
  split
  · exact hcreate.trans (Store.writes_put _ o.collection .empty hcreate.has)
  · exact hcreate

/-- Merging cannot fail. -/
theorem upsertAll_ok (o : Output) (rs : List Document) (hrs : ∀ d ∈ rs, d.Identified) (s : Store)
    (h : s.has o.collection = true) :
    ∃ s', o.upsertAll rs s = .ok () s' ∧ Store.Writes o.collection s s' := by
  induction rs generalizing s with
  | nil => exact ⟨s, rfl, h, rfl⟩
  | cons d rest ih =>
    obtain ⟨outcome, s', hupsert⟩ := s.exists_upsert o.collection d h
    have hwrites := s.writes_upsert o.collection d (hrs d List.mem_cons_self) outcome s' hupsert
    obtain ⟨s'', hrest, hothers⟩ :=
      ih (fun d hd => hrs d (List.mem_cons_of_mem _ hd)) s' hwrites.has
    have hfirst : StoreM.upsert o.collection d s = .ok outcome s' := by
      rw [StoreM.upsert, StoreM.ofStore, hupsert]
    exact ⟨s'', by rw [upsertAll, Script.Run.bind_ok hfirst, hrest], hwrites.trans hothers⟩

/-- Looking for taken ids leaves the store as it was. -/
theorem checkNew_cases (o : Output) (rs : List Document) (s : Store) :
    (∃ e, e.IsLate ∧ o.checkNew rs s = .error e s) ∨ o.checkNew rs s = .ok () s := by
  induction rs with
  | nil => exact Or.inr rfl
  | cons d rest ih =>
    rw [checkNew]
    cases Document.get? d "_id" with
    | none => exact ih
    | some id =>
      rcases StoreM.ofRead_cases (fun s => s.containsId o.collection id) s with
        ⟨e, hlate, hread⟩ | ⟨taken, -, hread⟩
      · exact Or.inl ⟨e, hlate, Script.Run.bind_error hread⟩
      · have hcontains : StoreM.containsId o.collection id s = .ok taken s := hread
        simp only [Script.Run.bind_ok hcontains]
        cases taken with
        | false => exact ih
        | true => exact Or.inl ⟨.output (.cannotCombine id o.collection), trivial, rfl⟩

/-- Results are written as a whole, or they leave no trace. -/
theorem addAll_cases (o : Output) (rs : List Document) (hrs : ∀ d ∈ rs, d.Identified) (s : Store)
    (hhas : s.has o.collection = true) :
    (∃ e, e.IsLate ∧ o.addAll rs s = .error e s) ∨
      ∃ s', o.addAll rs s = .ok () s' ∧ Store.Writes o.collection s s' := by
  have hinsert : (∃ e, e.IsLate ∧ StoreM.insertMany o.collection rs s = .error e s) ∨
      ∃ inserted s', StoreM.insertMany o.collection rs s = .ok inserted s' ∧
        Store.Writes o.collection s s' := by
    rcases StoreM.ofStore_cases (fun s => s.insertMany o.collection rs) s with
      herror | ⟨inserted, s', hok, h⟩
    · exact Or.inl herror
    · exact Or.inr ⟨inserted, s', h, s.writes_insertMany o.collection rs hrs inserted s' hok⟩
  unfold addAll
  cases o.mode with
  | replace | inline =>
    rcases hinsert with ⟨e, hlate, h⟩ | ⟨inserted, s', h, hwrites⟩
    · exact Or.inl ⟨e, hlate, Script.Run.bind_error h⟩
    · exact Or.inr ⟨s', Script.Run.bind_ok h, hwrites⟩
  | merge => exact Or.inr (upsertAll_ok o rs hrs s hhas)
  | reduce =>
    rcases o.checkNew_cases rs s with ⟨e, hlate, hcheck⟩ | hcheck
    · exact Or.inl ⟨e, hlate, Script.Run.bind_error hcheck⟩
    · simp only [Script.Run.bind_ok hcheck]
      rcases hinsert with ⟨e, hlate, h⟩ | ⟨inserted, s', h, hwrites⟩
      · exact Or.inl ⟨e, hlate, Script.Run.bind_error h⟩
      · exact Or.inr ⟨s', Script.Run.bind_ok h, hwrites⟩

/-! Every way out of an inline job passes by its temporary collection. -/

section During

variable {α : Type} {x : StoreM α} {s s' : Store} {o : Output}

theorem during_eq (h : o.mode ≠ .inline) : o.during x = x := if_neg h

theorem during_inline (h : o.mode = .inline) : o.during x = fun s =>
    match x s with
    | .ok a s => .ok a (s.drop o.collection).2
    | .error e s => .error e (s.drop o.collection).2 := if_pos h

theorem during_ok {a : α} (h : o.mode = .inline) (hx : x s = .ok a s') :
    o.during x s = .ok a (s'.drop o.collection).2 := by
  rw [during_inline h]
  simp only [hx]

theorem during_error {e : DbError} (h : o.mode = .inline) (hx : x s = .error e s') :
    o.during x s = .error e (s'.drop o.collection).2 := by
  rw [during_inline h]
  simp only [hx]

end During

theorem results_ok (o : Output) (db : String) (s : Store) (h : s.has o.collection = true) :
    ∃ found, o.results db s = .ok found s := by
  unfold results
  cases o.mode with
  | replace | merge | reduce => exact ⟨_, rfl⟩
  | inline =>
    obtain ⟨c, hc⟩ := s.find_eq_ok o.collection h
    have hscan : StoreM.scan o.collection s = .ok c.docs.toList s := by
      simp [StoreM.scan, StoreM.ofRead, Store.scan, hc, bind, Except.bind, pure, Except.pure]
    exact ⟨_, Script.Run.bind_ok hscan⟩

end Output

end MapReduce

end Docbase
