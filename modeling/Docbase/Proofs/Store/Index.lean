import Docbase.Proofs.Store.Run
import Docbase.Proofs.Value.Key

/-!
The index of a collection is never out of step with its documents. A position is found under a
key exactly when the document there has an `_id` with that key, after every call and whether or
not the call succeeded. As keys decide equality, no two documents have equal ids.
-/
namespace Docbase

namespace Collection

/-- The key of the document at a position. -/
def keyAt? (docs : Array Document) (p : ℕ) : Option Key :=
  docs[p]?.bind fun d => (Document.get? d "_id").map Key.ofValue

/-- Every document has an `_id`, the index holds its position under the key of that `_id` and
nothing else, and no two documents have equal ids. -/
structure WellIndexed (c : Collection) : Prop where
  has_id : ∀ d ∈ c.docs, (Document.get? d "_id").isSome
  indexed : ∀ k p, c.positions[k]? = some p ↔ keyAt? c.docs p = some k
  size_eq : c.positions.size = c.docs.size
  distinct : ∀ (p q : ℕ) (d e : Document) (i j : Value), c.docs[p]? = some d →
    c.docs[q]? = some e → Document.get? d "_id" = some i → Document.get? e "_id" = some j →
    Value.equal i j = true → p = q

theorem keyAt?_eq (docs : Array Document) (p : ℕ) (d : Document) (id : Value)
    (hd : docs[p]? = some d) (hid : Document.get? d "_id" = some id) :
    keyAt? docs p = some (Key.ofValue id) := by
  simp [keyAt?, hd, hid]

theorem wellIndexed_of_index (c : Collection)
    (has_id : ∀ d ∈ c.docs, (Document.get? d "_id").isSome)
    (indexed : ∀ k p, c.positions[k]? = some p ↔ keyAt? c.docs p = some k)
    (size_eq : c.positions.size = c.docs.size) : c.WellIndexed := by
  refine ⟨has_id, indexed, size_eq, ?_⟩
  intro p q d e i j hd he hi hj hij
  have hp := (indexed _ _).mpr (keyAt?_eq c.docs p d i hd hi)
  have hq := (indexed _ _).mpr (keyAt?_eq c.docs q e j he hj)
  rw [(Value.ofValue_eq_iff i j).mpr hij] at hp
  exact Option.some.inj (hp.symm.trans hq)

theorem wellIndexed_empty : empty.WellIndexed := by
  apply wellIndexed_of_index
  · intro d hd
    exact absurd hd (Array.not_mem_empty d)
  · intro k p
    simp [empty, keyAt?]
  · rfl

theorem keyAt?_size (docs : Array Document) : keyAt? docs docs.size = none := by
  simp [keyAt?]

theorem keyAt?_push (docs : Array Document) (d : Document) (id : Value)
    (hid : Document.get? d "_id" = some id) (p : ℕ) :
    keyAt? (docs.push d) p = if p = docs.size then some (Key.ofValue id) else keyAt? docs p := by
  unfold keyAt?
  rw [Array.getElem?_push]
  split
  · simp [hid]
  · rfl

theorem wellIndexed_append (c : Collection) (h : c.WellIndexed) (id : Value) (d : Document)
    (hid : Document.get? d "_id" = some id) (hnew : c.position? id = none) :
    (c.append id d).WellIndexed := by
  apply wellIndexed_of_index
  · intro e he
    rcases Array.mem_push.mp he with hmem | rfl
    · exact h.has_id e hmem
    · simp [hid]
  · intro k p
    rw [append, keyAt?_push c.docs d id hid, Std.HashMap.getElem?_insert]
    by_cases hk : Key.ofValue id = k
    · subst hk
      have hfree : keyAt? c.docs p ≠ some (Key.ofValue id) := by
        intro hp
        have := (h.indexed _ _).mpr hp
        rw [position?] at hnew
        simp [hnew] at this
      by_cases hp : p = c.docs.size
      · simp [hp]
      · simp [hp, hfree, Ne.symm hp]
    · rw [if_neg (by simpa using hk), h.indexed]
      by_cases hp : p = c.docs.size
      · simp [hp, hk, keyAt?_size]
      · rw [if_neg hp]
  · have hcontains : Key.ofValue id ∉ c.positions := by
      rw [Std.HashMap.mem_iff_isSome_getElem?]
      exact Option.not_isSome_iff_eq_none.mpr hnew
    rw [append, Std.HashMap.size_insert, if_neg hcontains, Array.size_push, h.size_eq]

theorem keyAt?_set (docs : Array Document) (d : Document) (i : ℕ) (id : Value)
    (hid : Document.get? d "_id" = some id) (hi : keyAt? docs i = some (Key.ofValue id)) (p : ℕ) :
    keyAt? (docs.setIfInBounds i d) p = keyAt? docs p := by
  by_cases hp : i = p
  · subst hp
    have hlt : i < docs.size := by
      by_contra hge
      simp [keyAt?, Array.getElem?_eq_none (not_lt.mp hge)] at hi
    rw [hi]
    exact keyAt?_eq _ i d id (Array.getElem?_setIfInBounds_self_of_lt hlt) hid
  · unfold keyAt?
    rw [Array.getElem?_setIfInBounds_ne hp]

/-- The new document has the old key, so the index stays as it is. -/
theorem wellIndexed_replace (c : Collection) (h : c.WellIndexed) (id : Value) (d : Document)
    (i : ℕ) (hid : Document.get? d "_id" = some id) (hi : c.position? id = some i) :
    WellIndexed { c with docs := c.docs.setIfInBounds i d } := by
  apply wellIndexed_of_index
  · intro e he
    rcases Array.mem_or_eq_of_mem_setIfInBounds he with hmem | rfl
    · exact h.has_id e hmem
    · simp [hid]
  · intro k p
    rw [keyAt?_set c.docs d i id hid ((h.indexed _ _).mp hi)]
    exact h.indexed k p
  · rw [Array.size_setIfInBounds]
    exact h.size_eq

/-- The collection after a document is written by its id. -/
def writeById (c : Collection) (id : Value) (d : Document) : Collection :=
  match c.position? id with
  | some i => { c with docs := c.docs.setIfInBounds i d }
  | none => c.append id d

theorem wellIndexed_writeById (c : Collection) (h : c.WellIndexed) (id : Value) (d : Document)
    (hid : Document.get? d "_id" = some id) : (c.writeById id d).WellIndexed := by
  unfold writeById
  cases hposition : c.position? id with
  | some i => exact wellIndexed_replace c h id d i hid hposition
  | none => exact wellIndexed_append c h id d hid hposition

/-- The document that is stored has the id that is looked up. -/
theorem get?_withId (d : Document) (ids : IdSupply) :
    Document.get? (withId d ids).2.1 "_id" = some (withId d ids).1 := by
  unfold withId
  cases h : Document.get? d "_id" with
  | none => simp [Document.insertFirst, Document.get?]
  | some id => exact h

theorem insertAll_cons (c : Collection) (ids : IdSupply) (d : Document) (docs : List Document) :
    c.insertAll ids (d :: docs) =
      if (c.position? (withId d ids).1).isSome then .error (withId d ids).1
      else
        ((c.append (withId d ids).1 (withId d ids).2.1).insertAll (withId d ids).2.2 docs).map
          fun result => ((withId d ids).1 :: result.1, result.2) := by
  rw [insertAll]
  rcases withId d ids with ⟨id, e, rest⟩
  dsimp only
  split
  · rfl
  · cases (c.append id e).insertAll rest docs <;> rfl

theorem wellIndexed_insertAll (docs : List Document) (c : Collection) (h : c.WellIndexed)
    (ids : IdSupply) (inserted : List Value) (c' : Collection) (ids' : IdSupply)
    (heq : c.insertAll ids docs = .ok (inserted, c', ids')) : c'.WellIndexed := by
  induction docs generalizing c ids inserted with
  | nil =>
    rw [insertAll] at heq
    cases heq
    exact h
  | cons d docs ih =>
    rw [insertAll_cons] at heq
    cases hposition : c.position? (withId d ids).1 with
    | some i => simp [hposition] at heq
    | none =>
      have happend := wellIndexed_append c h _ _ (get?_withId d ids) hposition
      cases hrest : (c.append (withId d ids).1 (withId d ids).2.1).insertAll (withId d ids).2.2
          docs with
      | error e => simp [hposition, hrest, Except.map] at heq
      | ok result =>
        simp only [hposition, hrest, Except.map, Option.isSome_none, Bool.false_eq_true, if_false,
          Except.ok.injEq, Prod.mk.injEq] at heq
        obtain ⟨-, hresult⟩ := heq
        exact ih _ happend _ result.1 (by rw [hrest, ← hresult])

end Collection

namespace Store

/-- The names of the collections differ, and every collection has its index in step. -/
structure WellFormed (s : Store) : Prop where
  names_nodup : (s.collections.map Prod.fst).Nodup
  wellIndexed : ∀ entry ∈ s.collections, entry.2.WellIndexed

theorem mem_of_lookUp (name : String) (collections : List (String × Collection))
    (c : Collection) (h : lookUp name collections = some c) : (name, c) ∈ collections := by
  induction collections with
  | nil => simp [lookUp] at h
  | cons entry rest ih =>
    obtain ⟨n, c'⟩ := entry
    rw [lookUp] at h
    split at h
    · next heq =>
      cases h
      rw [heq]
      exact List.mem_cons_self
    · exact List.mem_cons_of_mem _ (ih h)

theorem lookUp_eq_none_iff (name : String) (collections : List (String × Collection)) :
    lookUp name collections = none ↔ name ∉ collections.map Prod.fst := by
  induction collections with
  | nil => simp [lookUp]
  | cons entry rest ih =>
    obtain ⟨n, c⟩ := entry
    rw [lookUp]
    split
    · next heq => simp [heq]
    · next hne => simp [ih, Ne.symm hne]

theorem WellFormed.find {s : Store} (h : s.WellFormed) (name : String) (c : Collection)
    (hc : s.find name = .ok c) : c.WellIndexed := by
  unfold Store.find at hc
  split at hc
  · next hsome =>
      rw [← Except.ok.inj hc]
      exact h.wellIndexed _ (mem_of_lookUp name s.collections _ hsome)
  · simp at hc

theorem names_replaceIn (name : String) (new : Collection)
    (collections : List (String × Collection)) :
    (replaceIn name new collections).map Prod.fst = collections.map Prod.fst := by
  induction collections with
  | nil => rfl
  | cons entry rest ih =>
    obtain ⟨n, c⟩ := entry
    rw [replaceIn]
    split
    · rfl
    · rw [List.map_cons, ih, List.map_cons]

theorem mem_replaceIn (name : String) (new : Collection)
    (collections : List (String × Collection)) (entry : String × Collection)
    (h : entry ∈ replaceIn name new collections) : entry ∈ collections ∨ entry.2 = new := by
  induction collections with
  | nil => simp [replaceIn] at h
  | cons first rest ih =>
    obtain ⟨n, c⟩ := first
    rw [replaceIn] at h
    split at h
    · rcases List.mem_cons.mp h with rfl | hmem
      · exact Or.inr rfl
      · exact Or.inl (List.mem_cons_of_mem _ hmem)
    · rcases List.mem_cons.mp h with rfl | hmem
      · exact Or.inl List.mem_cons_self
      · exact (ih hmem).imp_left (List.mem_cons_of_mem _)

theorem wellFormed_empty (ids : IdSupply) : (empty ids).WellFormed :=
  ⟨List.nodup_nil, fun _ h => absurd h List.not_mem_nil⟩

theorem wellFormed_put (s : Store) (h : s.WellFormed) (name : String) (c : Collection)
    (hc : c.WellIndexed) (ids : IdSupply) : WellFormed { s.put name c with ids } := by
  constructor
  · exact (names_replaceIn name c s.collections).symm ▸ h.names_nodup
  · intro entry hentry
    rcases mem_replaceIn name c s.collections entry hentry with hmem | heq
    · exact h.wellIndexed entry hmem
    · exact heq ▸ hc

theorem wellFormed_create (s : Store) (h : s.WellFormed) (name : String) :
    (s.create name).WellFormed := by
  unfold create
  split
  · exact h
  · next hnone =>
    have hnew := (lookUp_eq_none_iff name s.collections).mp hnone
    constructor
    · simp only [List.map_append, List.map_cons, List.map_nil]
      exact h.names_nodup.append (List.nodup_singleton _) (by simpa using hnew)
    · intro entry hentry
      rcases List.mem_append.mp hentry with hmem | hmem
      · exact h.wellIndexed entry hmem
      · rw [List.mem_singleton.mp hmem]
        exact Collection.wellIndexed_empty

theorem wellFormed_drop (s : Store) (h : s.WellFormed) (name : String) :
    (s.drop name).2.WellFormed := by
  constructor
  · exact h.names_nodup.sublist (List.filter_sublist.map _)
  · intro entry hentry
    exact h.wellIndexed entry (List.mem_of_mem_filter hentry)

/-! What a call that writes leaves behind when it succeeds. -/

theorem insertMany_eq_ok (s : Store) (name : String) (docs : List Document)
    (inserted : List Value) (s' : Store) (h : s.insertMany name docs = .ok (inserted, s')) :
    ∃ c c' ids', s.find name = .ok c ∧
      c.insertAll s.ids docs = .ok (inserted, c', ids') ∧
      s' = { s.put name c' with ids := ids' } := by
  unfold insertMany at h
  cases hfind : s.find name with
  | error e => simp [hfind, bind, Except.bind] at h
  | ok c =>
    cases hall : c.insertAll s.ids docs with
    | error id => simp [hfind, hall, bind, Except.bind, throw, throwThe, MonadExceptOf.throw] at h
    | ok result =>
      simp only [hfind, hall, bind, Except.bind, pure, Except.pure, Except.ok.injEq,
        Prod.mk.injEq] at h
      obtain ⟨rfl, rfl⟩ := h
      exact ⟨c, result.2.1, result.2.2, rfl, hall, rfl⟩

theorem upsert_eq_ok (s : Store) (name : String) (d : Document) (outcome : Upsert) (s' : Store)
    (h : s.upsert name d = .ok (outcome, s')) :
    ∃ c id e ids', s.find name = .ok c ∧ Collection.withId d s.ids = (id, e, ids') ∧
      s' = { s.put name (c.writeById id e) with ids := ids' } := by
  unfold upsert at h
  rcases hid : Collection.withId d s.ids with ⟨id, e, ids'⟩
  cases hfind : s.find name with
  | error e => simp [hfind, bind, Except.bind] at h
  | ok c =>
    refine ⟨c, id, e, ids', rfl, rfl, ?_⟩
    unfold Collection.writeById
    cases hposition : c.position? id with
    | some i =>
      simp only [hfind, hid, hposition, bind, Except.bind, pure, Except.pure, Except.ok.injEq,
        Prod.mk.injEq] at h
      exact h.2.symm
    | none =>
      simp only [hfind, hid, hposition, bind, Except.bind, pure, Except.pure, Except.ok.injEq,
        Prod.mk.injEq] at h
      exact h.2.symm

theorem removeAll_eq_ok (s : Store) (name : String) (n : ℕ) (s' : Store)
    (h : s.removeAll name = .ok (n, s')) : s' = s.put name .empty := by
  unfold removeAll at h
  cases hfind : s.find name with
  | error e => simp [hfind, bind, Except.bind] at h
  | ok c =>
    simp only [hfind, bind, Except.bind, pure, Except.pure, Except.ok.injEq, Prod.mk.injEq] at h
    exact h.2.symm

theorem insert_eq_ok (s : Store) (name : String) (d : Document) (id : Value) (s' : Store)
    (h : s.insert name d = .ok (id, s')) :
    ∃ inserted, s.insertMany name [d] = .ok (inserted, s') := by
  unfold insert at h
  cases hmany : s.insertMany name [d] with
  | error e => simp [hmany, bind, Except.bind] at h
  | ok result =>
    simp only [hmany, bind, Except.bind, pure, Except.pure, Except.ok.injEq, Prod.mk.injEq] at h
    exact ⟨result.1, by rw [← h.2]⟩

/-! One call, and all calls of a run. -/

theorem wellFormed_insertMany (s : Store) (h : s.WellFormed) (name : String)
    (docs : List Document) (inserted : List Value) (s' : Store)
    (heq : s.insertMany name docs = .ok (inserted, s')) : s'.WellFormed := by
  obtain ⟨c, c', ids', hc, hall, rfl⟩ := insertMany_eq_ok s name docs inserted s' heq
  exact wellFormed_put s h name c'
    (Collection.wellIndexed_insertAll docs c (h.find name c hc) s.ids inserted c' ids'
      hall) ids'

theorem wellFormed_upsert (s : Store) (h : s.WellFormed) (name : String) (d : Document)
    (outcome : Upsert) (s' : Store) (heq : s.upsert name d = .ok (outcome, s')) :
    s'.WellFormed := by
  obtain ⟨c, id, e, ids', hc, hid, rfl⟩ := upsert_eq_ok s name d outcome s' heq
  have hget : Document.get? e "_id" = some id := by
    have := Collection.get?_withId d s.ids
    rwa [hid] at this
  exact wellFormed_put s h name _
    (Collection.wellIndexed_writeById c (h.find name c hc) id e hget) ids'

theorem wellFormed_write {α : Type} (s : Store) (h : s.WellFormed) (answer : α → Answer)
    (result : Except StoreError (α × Store))
    (hresult : ∀ a s', result = .ok (a, s') → s'.WellFormed) :
    (Operations.write s answer result).2.WellFormed := by
  cases result with
  | error e => exact h
  | ok r => exact hresult r.1 r.2 rfl

theorem wellFormed_read {α : Type} (s : Store) (h : s.WellFormed) (answer : α → Answer)
    (result : Except StoreError α) : (Operations.read s answer result).2.WellFormed := by
  cases result <;> exact h

theorem wellFormed_step (s : Store) (h : s.WellFormed) (call : Call) :
    (operations.step s call).2.WellFormed := by
  cases call with
  | create name => exact wellFormed_create s h name
  | drop name => exact wellFormed_drop s h name
  | has name => exact h
  | names => exact h
  | scan name => exact wellFormed_read s h _ _
  | containsId name id => exact wellFormed_read s h _ _
  | insert name d =>
    apply wellFormed_write s h
    intro id s' heq
    obtain ⟨inserted, hmany⟩ := insert_eq_ok s name d id s' heq
    exact wellFormed_insertMany s h name [d] inserted s' hmany
  | insertMany name docs =>
    apply wellFormed_write s h
    exact wellFormed_insertMany s h name docs
  | upsert name d =>
    apply wellFormed_write s h
    exact wellFormed_upsert s h name d
  | removeAll name =>
    apply wellFormed_write s h
    intro n s' heq
    rw [removeAll_eq_ok s name n s' heq]
    exact wellFormed_put s h name .empty Collection.wellIndexed_empty s.ids
  | takeId => exact ⟨h.names_nodup, h.wellIndexed⟩

theorem wellFormed_run (calls : List Call) (s : Store) (h : s.WellFormed) :
    (operations.run s calls).2.WellFormed := by
  induction calls generalizing s with
  | nil => exact h
  | cons call calls ih => exact ih _ (wellFormed_step s h call)

/-- Whatever calls are made of a store that begins empty, whatever ids it is given, and whether
the calls succeed or fail, the indices of its collections are in step with their documents. -/
theorem index_always_in_step (ids : IdSupply) (calls : List Call) :
    (operations.run (empty ids) calls).2.WellFormed :=
  wellFormed_run calls _ (wellFormed_empty ids)

end Store

end Docbase
