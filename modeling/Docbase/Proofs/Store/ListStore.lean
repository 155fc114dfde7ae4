import Docbase.Proofs.Store.Index

/-!
A store without an index. A collection is the list of its documents, and an id is looked for
from the front by comparing it with the id of each document. From the empty store on, it gives
the same answers as the indexed store, and it holds the same documents in the same order.
-/
namespace Docbase

structure ListStore where
  collections : List (String × List Document)
  ids : IdSupply

/-- There is no entry of an absent key to take out. -/
theorem Document.filter_of_get?_eq_none (d : Document) (key : String)
    (h : get? d key = none) : d.filter (fun entry => entry.1 != key) = d := by
  induction d with
  | nil => rfl
  | cons entry rest ih =>
    obtain ⟨k, v⟩ := entry
    rw [get?] at h
    split at h
    · simp at h
    · next hne => simpa [hne] using ih h

namespace ListStore

def empty (ids : IdSupply) : ListStore := ⟨[], ids⟩

def idOf (d : Document) : Value := (Document.get? d "_id").getD .null

def hasId (id : Value) (d : Document) : Bool :=
  (Document.get? d "_id").any fun own => Value.equal own id

/-- A document without an `_id` gets one from the supply as its first entry. -/
def complete (d : Document) (ids : IdSupply) : Document × IdSupply :=
  if Document.contains d "_id" then (d, ids)
  else (("_id", .objectId ids.next) :: d, ids.advance)

def completeAll : List Document → IdSupply → List Document × IdSupply
  | [], ids => ([], ids)
  | d :: docs, ids =>
    let (e, ids) := complete d ids
    let (batch, ids) := completeAll docs ids
    (e :: batch, ids)

/-- The first id of a batch that is equal to a stored one or to an earlier one of the batch. -/
def firstTaken (stored batch : List Document) : Option Value :=
  (List.range batch.length).findSome? fun i =>
    batch[i]?.bind fun d =>
      if (stored ++ batch.take i).any (hasId (idOf d)) then some (idOf d) else none

def find (l : ListStore) (name : String) : Except StoreError (List Document) :=
  match l.collections.lookup name with
  | some docs => .ok docs
  | none => .error (.collectionNotFound name)

def put (l : ListStore) (name : String) (docs : List Document) : ListStore :=
  { l with collections := l.collections.map fun entry =>
      if entry.1 = name then (name, docs) else entry }

def has (l : ListStore) (name : String) : Bool := (l.collections.lookup name).isSome

def create (l : ListStore) (name : String) : ListStore :=
  if l.has name then l else { l with collections := l.collections ++ [(name, [])] }

def drop (l : ListStore) (name : String) : Bool × ListStore :=
  (l.has name, { l with collections := l.collections.filter fun entry => entry.1 != name })

def names (l : ListStore) : List String :=
  (l.collections.map Prod.fst).mergeSort fun a b => decide (a ≤ b)

def containsId (l : ListStore) (name : String) (id : Value) : Except StoreError Bool := do
  return (← l.find name).any (hasId id)

/-- Appends the whole batch in order, or names the first id that is taken. -/
def insertMany (l : ListStore) (name : String) (docs : List Document) :
    Except StoreError (List Value × ListStore) := do
  let stored ← l.find name
  let (batch, ids) := completeAll docs l.ids
  match firstTaken stored batch with
  | some id => throw (.duplicateKey name id)
  | none => return (batch.map idOf, { l.put name (stored ++ batch) with ids })

def insert (l : ListStore) (name : String) (d : Document) :
    Except StoreError (Value × ListStore) := do
  let stored ← l.find name
  let (e, ids) := complete d l.ids
  if stored.any (hasId (idOf e)) then throw (.duplicateKey name (idOf e))
  else return (idOf e, { l.put name (stored ++ [e]) with ids })

/-- Puts the document in the place of the one with an equal id, or last. -/
def upsert (l : ListStore) (name : String) (d : Document) :
    Except StoreError (Upsert × ListStore) := do
  let stored ← l.find name
  let (e, ids) := complete d l.ids
  match stored.findIdx? (hasId (idOf e)) with
  | some i => return (.replaced, { l.put name (stored.set i e) with ids })
  | none => return (.inserted, { l.put name (stored ++ [e]) with ids })

def removeAll (l : ListStore) (name : String) : Except StoreError (ℕ × ListStore) := do
  let stored ← l.find name
  return (stored.length, l.put name [])

def operations : Store.Operations ListStore where
  create := create
  drop := drop
  has := has
  names := names
  scan := find
  containsId := containsId
  insert := insert
  insertMany := insertMany
  upsert := upsert
  removeAll := removeAll
  takeId l := { l with ids := l.ids.advance }

theorem hasId_iff (id : Value) (d : Document) :
    hasId id d = true ↔
      ∃ own, Document.get? d "_id" = some own ∧ Key.ofValue own = Key.ofValue id := by
  simp only [hasId, Option.any_eq_true, Value.ofValue_eq_iff]

theorem complete_eq_withId (d : Document) (ids : IdSupply) :
    complete d ids = (Collection.withId d ids).2 := by
  unfold complete Collection.withId Document.contains
  cases h : Document.get? d "_id" with
  | some id => rfl
  | none => simp [Document.insertFirst, Document.filter_of_get?_eq_none d "_id" h]

theorem idOf_withId (d : Document) (ids : IdSupply) :
    idOf (Collection.withId d ids).2.1 = (Collection.withId d ids).1 := by
  rw [idOf, Collection.get?_withId, Option.getD_some]

theorem firstTaken_cons (stored batch : List Document) (d : Document) :
    firstTaken stored (d :: batch) =
      if stored.any (hasId (idOf d)) then some (idOf d) else firstTaken (stored ++ [d]) batch := by
  simp only [firstTaken, List.length_cons, List.range_succ_eq_map, List.findSome?_cons,
    List.findSome?_map, List.take_zero, List.append_nil, List.getElem?_cons_zero,
    Option.bind_some]
  split
  · next id heq =>
    split at heq
    · next htaken => rw [if_pos htaken, heq]
    · simp at heq
  · next heq =>
    split at heq
    · simp at heq
    · next hfree =>
      rw [if_neg hfree]
      simp [Function.comp_def]

theorem firstTaken_singleton (stored : List Document) (d : Document) :
    firstTaken stored [d] =
      if stored.any (hasId (idOf d)) then some (idOf d) else none :=
  firstTaken_cons stored [] d

theorem insert_eq_insertMany (l : ListStore) (name : String) (d : Document) :
    l.insert name d = (l.insertMany name [d]).map fun r => (r.1.headD .null, r.2) := by
  unfold insert insertMany
  cases l.find name with
  | error e => rfl
  | ok stored =>
    simp only [bind, Except.bind, completeAll, firstTaken_singleton]
    by_cases htaken : stored.any (hasId (idOf (complete d l.ids).1)) = true
    · rw [if_pos htaken, if_pos htaken]
      rfl
    · rw [if_neg htaken, if_neg htaken]
      rfl

end ListStore

namespace Collection

open ListStore

theorem keyAt?_eq_some_iff (docs : Array Document) (p : ℕ) (id : Value) :
    keyAt? docs p = some (Key.ofValue id) ↔ ∃ d, docs[p]? = some d ∧ hasId id d = true := by
  simp only [keyAt?, Option.bind_eq_some_iff, Option.map_eq_some_iff, hasId_iff]

/-- The index finds what a search through the documents finds. -/
theorem position?_eq_findIdx? (c : Collection) (h : c.WellIndexed) (id : Value) :
    c.position? id = c.docs.toList.findIdx? (hasId id) := by
  have hindexed (p : ℕ) : c.position? id = some p ↔
      ∃ d, c.docs.toList[p]? = some d ∧ hasId id d = true := by
    rw [position?, h.indexed, keyAt?_eq_some_iff]
    simp only [Array.getElem?_toList]
  cases hfound : c.docs.toList.findIdx? (hasId id) with
  | none =>
    rw [List.findIdx?_eq_none_iff] at hfound
    rw [Option.eq_none_iff_forall_not_mem]
    intro p hp
    obtain ⟨d, hd, hid⟩ := (hindexed p).mp hp
    simp [hfound d (List.mem_of_getElem? hd)] at hid
  | some p =>
    obtain ⟨hlt, hid, -⟩ := List.findIdx?_eq_some_iff_getElem.mp hfound
    exact (hindexed p).mpr ⟨_, List.getElem?_eq_getElem hlt, hid⟩

theorem isSome_position? (c : Collection) (h : c.WellIndexed) (id : Value) :
    (c.position? id).isSome = c.docs.toList.any (hasId id) := by
  rw [position?_eq_findIdx? c h, List.findIdx?_isSome]

theorem completeAll_cons (d : Document) (docs : List Document) (ids : IdSupply) :
    completeAll (d :: docs) ids =
      ((complete d ids).1 :: (completeAll docs (complete d ids).2).1,
        (completeAll docs (complete d ids).2).2) :=
  rfl

/-- Inserting one by one, with a look into the index for each, comes to the same as looking
through the whole batch first. -/
theorem insertAll_eq (docs : List Document) (c : Collection) (h : c.WellIndexed)
    (ids : IdSupply) :
    (c.insertAll ids docs).map (fun r => (r.1, r.2.1.docs.toList, r.2.2)) =
      match firstTaken c.docs.toList (completeAll docs ids).1 with
      | some id => .error id
      | none => .ok ((completeAll docs ids).1.map idOf,
          c.docs.toList ++ (completeAll docs ids).1, (completeAll docs ids).2) := by
  induction docs generalizing c ids with
  | nil => simp [insertAll, completeAll, firstTaken, Except.map]
  | cons d docs ih =>
    rw [insertAll_cons, completeAll_cons, firstTaken_cons, complete_eq_withId, idOf_withId,
      isSome_position? c h]
    by_cases htaken : c.docs.toList.any (hasId (withId d ids).1) = true
    · rw [if_pos htaken, if_pos htaken]
      rfl
    · have hnew : c.position? (withId d ids).1 = none := by
        rw [← Option.not_isSome_iff_eq_none, isSome_position? c h]
        exact htaken
      have happend := wellIndexed_append c h _ _ (get?_withId d ids) hnew
      have hrest := ih _ happend (withId d ids).2.2
      have hdocs : (c.append (withId d ids).1 (withId d ids).2.1).docs.toList =
          c.docs.toList ++ [(withId d ids).2.1] := by
        simp [append]
      rw [hdocs] at hrest
      rw [if_neg htaken, if_neg htaken]
      have hcompose (result : Except Value (List Value × Collection × IdSupply)) :
          (result.map fun r => ((withId d ids).1 :: r.1, r.2)).map
              (fun r => (r.1, r.2.1.docs.toList, r.2.2)) =
            (result.map fun r => (r.1, r.2.1.docs.toList, r.2.2)).map
              fun r => ((withId d ids).1 :: r.1, r.2) := by
        cases result <;> rfl
      rw [hcompose, hrest]
      cases firstTaken (c.docs.toList ++ [(withId d ids).2.1])
          (completeAll docs (withId d ids).2.2).1 with
      | some id => rfl
      | none => simp [Except.map, idOf_withId]

end Collection

namespace Store

/-- The documents of a store without the indices. -/
def lists (s : Store) : ListStore :=
  ⟨s.collections.map fun entry => (entry.1, entry.2.docs.toList), s.ids⟩

theorem lookup_lists (s : Store) (name : String) :
    s.lists.collections.lookup name = (s.collection? name).map fun c => c.docs.toList := by
  unfold lists collection?
  induction s.collections with
  | nil => rfl
  | cons entry rest ih =>
    obtain ⟨n, c⟩ := entry
    rw [List.map_cons, List.lookup_cons, lookUp, ih]
    by_cases hn : n = name
    · simp [hn]
    · rw [if_neg hn, beq_eq_false_iff_ne.mpr (Ne.symm hn)]

theorem find_lists (s : Store) (name : String) :
    s.lists.find name = (s.find name).map fun c => c.docs.toList := by
  rw [ListStore.find, find, lookup_lists]
  cases s.collection? name <;> rfl

theorem has_lists (s : Store) (name : String) : s.lists.has name = s.has name := by
  rw [ListStore.has, has, lookup_lists, Option.isSome_map]

theorem replaceIn_eq_map (name : String) (new : Collection)
    (collections : List (String × Collection)) (h : (collections.map Prod.fst).Nodup) :
    replaceIn name new collections =
      collections.map fun entry => if entry.1 = name then (name, new) else entry := by
  induction collections with
  | nil => rfl
  | cons entry rest ih =>
    obtain ⟨n, c⟩ := entry
    rw [List.map_cons, List.nodup_cons] at h
    rw [replaceIn, List.map_cons]
    by_cases hn : n = name
    · subst hn
      -- The names differ, so nothing further on is replaced.
      have hrest : rest.map (fun entry => if entry.1 = n then (n, new) else entry) = rest := by
        refine (List.map_congr_left ?_).trans (List.map_id rest)
        intro entry hentry
        have hne : entry.1 ≠ n := by
          intro heq
          exact h.1 (List.mem_map.mpr ⟨entry, hentry, heq⟩)
        rw [if_neg hne]
        rfl
      rw [if_pos rfl, if_pos rfl, hrest]
    · rw [if_neg hn, if_neg hn, ih h.2]

theorem put_lists (s : Store) (h : s.WellFormed) (name : String) (c : Collection)
    (ids : IdSupply) :
    lists ⟨(s.put name c).collections, ids⟩ =
      ⟨(s.lists.put name c.docs.toList).collections, ids⟩ := by
  rw [lists, put, ListStore.put, lists, replaceIn_eq_map name c s.collections h.names_nodup]
  congr 1
  simp only [List.map_map]
  apply List.map_congr_left
  intro entry _
  by_cases hn : entry.1 = name
  · simp [hn]
  · simp [hn]

theorem create_lists (s : Store) (name : String) : (s.create name).lists = s.lists.create name := by
  rw [ListStore.create, has_lists, has, create]
  cases h : s.collection? name with
  | none => simp [lists, Collection.empty]
  | some c => simp

theorem drop_lists (s : Store) (name : String) :
    s.lists.drop name = ((s.drop name).1, (s.drop name).2.lists) := by
  rw [ListStore.drop, drop, has_lists]
  simp [lists, List.filter_map, Function.comp_def]

theorem names_lists (s : Store) : s.lists.names = s.names := by
  simp [ListStore.names, names, lists, Function.comp_def]

theorem containsId_lists (s : Store) (h : s.WellFormed) (name : String) (id : Value) :
    s.lists.containsId name id = s.containsId name id := by
  rw [ListStore.containsId, find_lists, containsId]
  cases hc : s.find name with
  | error e => rfl
  | ok c =>
    have hany := Collection.isSome_position? c (h.find name c hc) id
    exact congrArg Except.ok hany.symm

theorem removeAll_lists (s : Store) (h : s.WellFormed) (name : String) :
    s.lists.removeAll name = (s.removeAll name).map fun r => (r.1, r.2.lists) := by
  rw [ListStore.removeAll, find_lists, removeAll]
  cases s.find name with
  | error e => rfl
  | ok c =>
    have hput := put_lists s h name .empty s.ids
    exact congrArg (fun l => Except.ok (c.docs.toList.length, l)) hput.symm

theorem insertMany_lists (s : Store) (h : s.WellFormed) (name : String) (docs : List Document) :
    s.lists.insertMany name docs = (s.insertMany name docs).map fun r => (r.1, r.2.lists) := by
  rw [ListStore.insertMany, find_lists, insertMany]
  cases hc : s.find name with
  | error e => rfl
  | ok c =>
    have hall := Collection.insertAll_eq docs c (h.find name c hc) s.ids
    have hids : s.lists.ids = s.ids := rfl
    simp only [Except.map, bind, Except.bind, hids]
    cases hfirst : ListStore.firstTaken c.docs.toList (ListStore.completeAll docs s.ids).1 with
    | some id =>
      cases hresult : c.insertAll s.ids docs with
      | error e =>
        simp only [hfirst, hresult, Except.map, Except.error.injEq] at hall
        rw [hall]
        rfl
      | ok r => simp [hfirst, hresult, Except.map] at hall
    | none =>
      cases hresult : c.insertAll s.ids docs with
      | error e => simp [hfirst, hresult, Except.map] at hall
      | ok r =>
        simp only [hfirst, hresult, Except.map, Except.ok.injEq, Prod.mk.injEq] at hall
        obtain ⟨hinserted, hdocs, hids'⟩ := hall
        have hput := put_lists s h name r.2.1 r.2.2
        rw [hdocs] at hput
        rw [← hids', ← hinserted]
        exact congrArg (fun l => Except.ok (r.1, l)) hput.symm

theorem upsert_lists (s : Store) (h : s.WellFormed) (name : String) (d : Document) :
    s.lists.upsert name d = (s.upsert name d).map fun r => (r.1, r.2.lists) := by
  rw [ListStore.upsert, find_lists, upsert]
  cases hc : s.find name with
  | error e => rfl
  | ok c =>
    have hids : s.lists.ids = s.ids := rfl
    have hid := ListStore.idOf_withId d s.ids
    have hcomplete := ListStore.complete_eq_withId d s.ids
    rcases hwith : Collection.withId d s.ids with ⟨id, e, ids⟩
    rw [hwith] at hid hcomplete
    have hposition := Collection.position?_eq_findIdx? c (h.find name c hc) id
    simp only [Except.map, bind, Except.bind, hids, hcomplete, hid, ← hposition]
    cases c.position? id with
    | some i =>
      have hput := put_lists s h name { c with docs := c.docs.setIfInBounds i e } ids
      rw [Array.toList_setIfInBounds] at hput
      exact congrArg (fun l => Except.ok (Upsert.replaced, l)) hput.symm
    | none =>
      have hput := put_lists s h name (c.append id e) ids
      rw [Collection.append, Array.toList_push] at hput
      exact congrArg (fun l => Except.ok (Upsert.inserted, l)) hput.symm

theorem insert_lists (s : Store) (h : s.WellFormed) (name : String) (d : Document) :
    s.lists.insert name d = (s.insert name d).map fun r => (r.1, r.2.lists) := by
  rw [ListStore.insert_eq_insertMany, insertMany_lists s h, insert]
  cases s.insertMany name [d] <;> rfl

/-! One call, and all calls of a run. -/

theorem write_lists {α : Type} (s : Store) (answer : α → Answer)
    (result : Except StoreError (α × Store)) :
    Operations.write s.lists answer (result.map fun r => (r.1, r.2.lists)) =
      ((Operations.write s answer result).1, (Operations.write s answer result).2.lists) := by
  cases result <;> rfl

theorem read_lists {α : Type} (s : Store) (answer : α → Answer) (result : Except StoreError α) :
    Operations.read s.lists answer result =
      ((Operations.read s answer result).1, (Operations.read s answer result).2.lists) := by
  cases result <;> rfl

theorem scan_lists (s : Store) (name : String) : s.lists.find name = s.scan name := by
  rw [find_lists, scan]
  cases s.find name <;> rfl

theorem step_lists (s : Store) (h : s.WellFormed) (call : Call) :
    ListStore.operations.step s.lists call =
      ((operations.step s call).1, (operations.step s call).2.lists) := by
  cases call with
  | create name => exact congrArg (Prod.mk Answer.done) (create_lists s name).symm
  | drop name =>
    have hdrop := drop_lists s name
    exact congrArg (fun r => (Answer.flag r.1, r.2)) hdrop
  | has name => exact congrArg (fun b => (Answer.flag b, s.lists)) (has_lists s name)
  | names => exact congrArg (fun l => (Answer.names l, s.lists)) (names_lists s)
  | scan name =>
    have hscan := scan_lists s name
    exact (congrArg (Operations.read s.lists .documents) hscan).trans (read_lists s _ _)
  | containsId name id =>
    have hcontains := containsId_lists s h name id
    exact (congrArg (Operations.read s.lists .flag) hcontains).trans (read_lists s _ _)
  | insert name d =>
    have hinsert := insert_lists s h name d
    exact (congrArg (Operations.write s.lists .id) hinsert).trans (write_lists s _ _)
  | insertMany name docs =>
    have hinsert := insertMany_lists s h name docs
    exact (congrArg (Operations.write s.lists .ids) hinsert).trans (write_lists s _ _)
  | upsert name d =>
    have hupsert := upsert_lists s h name d
    exact (congrArg (Operations.write s.lists .written) hupsert).trans (write_lists s _ _)
  | removeAll name =>
    have hremove := removeAll_lists s h name
    exact (congrArg (Operations.write s.lists .count) hremove).trans (write_lists s _ _)
  | takeId => rfl

theorem run_lists (calls : List Call) (s : Store) (h : s.WellFormed) :
    ListStore.operations.run s.lists calls =
      ((operations.run s calls).1, (operations.run s calls).2.lists) := by
  induction calls generalizing s with
  | nil => rfl
  | cons call calls ih =>
    rw [Operations.run, Operations.run, step_lists s h call, ih _ (wellFormed_step s h call)]

/-- With the same supply of ids, all calls made of a store that begins empty are answered as the
store without an index answers them, errors included, and the documents are the same. -/
theorem answers_as_list_store (ids : IdSupply) (calls : List Call) :
    ListStore.operations.run (ListStore.empty ids) calls =
      ((operations.run (empty ids) calls).1, (operations.run (empty ids) calls).2.lists) :=
  run_lists calls (empty ids) (wellFormed_empty ids)

end Store

end Docbase
