import Docbase.Proofs.Script.Meaning

/-!
Evaluation of names and tables. What is said of the datum that an expression gives rests on the
tables that its evaluation makes, so it stays true while other tables come or change.
-/
namespace Docbase.Script

/-! Heaps in which literals are evaluated. -/

/-- A fresh scope with changed globals; those that literals use are as they were. -/
structure Heap.Ready (h : Heap) : Prop where
  grows : Heap.Grows (· = 0) Heap.fresh h
  global : ∀ g ∈ Literal.globals, (h.table 0).getText g.1 = g.2
  metatable : (h.table 0).metatable = none

/-- Only tables that are not the prelude's may change. -/
abbrev Heap.GrowsApart : Heap → Heap → Prop := Heap.Grows (Heap.preludeTables ≤ ·)

namespace Heap

variable {h h' : Heap}

theorem ready_fresh : Heap.fresh.Ready where
  grows := .refl _
  global := holdsPrelude_fresh.global
  metatable := holdsPrelude_fresh.metatable (0, none) (by decide)

theorem Ready.tables_le (hr : h.Ready) : preludeTables ≤ h.tables.size :=
  holdsPrelude_fresh.tables_size.ge.trans hr.grows.tables_le

theorem Ready.hasPrelude (hr : h.Ready) : h.HasPrelude := fun p hpos hlt =>
  hr.grows.table p (hlt.trans_eq holdsPrelude_fresh.tables_size.symm) hpos.ne'

theorem Ready.growsApart (hr : h.Ready) (hg : h.GrowsApart h') : h'.Ready := by
  have hzero : h'.table 0 = h.table 0 :=
    hg.table 0 (Nat.lt_of_lt_of_le (by decide) hr.tables_le) (by decide)
  have hboth : Grows (fun p => p = 0 ∨ preludeTables ≤ p) Heap.fresh h' :=
    (hr.grows.weaken fun _ _ => .inl).trans (hg.weaken fun _ _ => .inr)
  refine ⟨hboth.weaken fun p hp hc => hc.resolve_right ?_, hzero ▸ hr.global, hzero ▸ hr.metatable⟩
  exact (hp.trans_eq holdsPrelude_fresh.tables_size).not_ge

theorem Ready.closure (hr : h.Ready) {k : ℕ × Constructor × Option (String × ℕ)}
    (hk : k ∈ Literal.constructors) : (h.closure k.1).IsOf k.2.1 k.2.2 := by
  have hplace : ∀ k ∈ Literal.constructors, k.1 < 28 := by decide
  rw [hr.grows.closure k.1 ((hplace k hk).trans_eq holdsPrelude_fresh.closures_size.symm)]
  exact holdsPrelude_fresh.constructor k hk

theorem Ready.cell (hr : h.Ready) {c : ℕ × Datum} (hc : c ∈ Literal.cells) :
    c.1 < h.cells.size ∧ h.cell c.1 = c.2 := by
  have hplace : ∀ c ∈ Literal.cells, c.1 < 19 := by decide
  have hlt := (hplace c hc).trans_eq holdsPrelude_fresh.cells_size.symm
  rw [hr.grows.cell c.1 hlt]
  exact ⟨hlt.trans_le hr.grows.cells_le, holdsPrelude_fresh.cell c hc⟩

end Heap

/-! Names. -/

/-- What a function sees: variables with what they hold, and names of no variable. -/
structure Sight where
  vars : List (String × Datum)
  free : List String

structure Env.Sees (env : Env) (s : Sight) (h : Heap) : Prop where
  ready : h.Ready
  var : ∀ x d, (x, d) ∈ s.vars → ∃ c, env.cell? x = some c ∧ c < h.cells.size ∧ h.cell c = d
  globals : (Env.globalsName, Datum.table Heap.globals) ∈ s.vars
  free : ∀ x ∈ s.free, env.cell? x = none

section Names

variable {env : Env} {s : Sight} {h h' : Heap}

theorem Env.Sees.growsApart (hs : env.Sees s h) (hg : h.GrowsApart h') : env.Sees s h' where
  ready := hs.ready.growsApart hg
  var x d hx := by
    obtain ⟨c, hcell, hlt, hvalue⟩ := hs.var x d hx
    exact ⟨c, hcell, hlt.trans_le hg.cells_le, (hg.cell c hlt).trans hvalue⟩
  globals := hs.globals
  free := hs.free

/-- What a table has under a name. -/
theorem Operation.index_table (call : Callee) {place : ℕ} {x : String} {d : Datum}
    (hd : (h.table place).getText x = d) (hpresent : d.isNil = false) :
    Operation.index call (.table place) (.ofText x) h = .ok d h := by
  refine (Run.bind_ok (Run.rawGet_text place x h)).trans ?_
  rw [hd]
  dsimp only
  rw [hpresent]
  rfl

/-- The host looks up a name of the globals. -/
theorem Env.operate_ok {call : Dispatch} {α : Type} {x : Callee → Run α} {a : α} (env : Env)
    (line : ℕ) (hx : ∀ call, x call h = .ok a h') : env.operate call line x h = .ok a h' :=
  Run.placed_ok _ (hx _)

theorem evaluate_var (call : Dispatch) (hs : env.Sees s h) (line : ℕ) {x : String} {d : Datum}
    (hx : (x, d) ∈ s.vars) :
    (Expr.name line x).evaluate call env h = .ok [d] h := by
  obtain ⟨c, hcell, -, hvalue⟩ := hs.var _ _ hx
  have hread : env.read call line x h = .ok d h := by
    rw [Env.read, hcell]
    exact congrArg (EStateM.Result.ok · h) hvalue
  exact Run.bind_ok hread

/-- A name of no variable is a field of the globals. -/
theorem evaluate_global (call : Dispatch) (hs : env.Sees s h) (line : ℕ) {x : String} {d : Datum}
    (hx : (x, d) ∈ Literal.globals) (hfree : x ∈ s.free) :
    (Expr.name line x).evaluate call env h = .ok [d] h := by
  obtain ⟨c, hcell, -, hvalue⟩ := hs.var _ _ hs.globals
  have hpresent : ∀ g ∈ Literal.globals, g.2.isNil = false := by decide
  have hglobals : env.globals h = .ok (.table Heap.globals) h := by
    rw [Env.globals, hcell]
    exact congrArg (EStateM.Result.ok · h) hvalue
  have hread : env.read call line x h = .ok d h := by
    rw [Env.read, hs.free _ hfree]
    exact (Run.bind_ok hglobals).trans (env.operate_ok line fun call =>
      Operation.index_table call (hs.ready.global _ hx) (hpresent _ hx))
  exact Run.bind_ok hread

end Names

/-! Data and the tables that they are made of. -/

/-- What is said of a datum by the tables from one place up to another. -/
abbrev Footing := Heap → ℕ → ℕ → Datum → Prop

/-- It stays true while those tables are unchanged, also among more tables. -/
def Footing.Lasts (R : Footing) : Prop :=
  ∀ ⦃h low high d h' low' high'⦄, R h low high d → low' ≤ low → high ≤ high' →
    h.Agrees low high h' → R h' low' high' d

/-- An expression gives one datum, of which something is true by the tables made for it. -/
def Gives (call : Dispatch) (env : Env) (s : Sight) (e : Expr) (R : Footing) : Prop :=
  ∀ h, env.Sees s h → ∃ d h', e.evaluate call env h = .ok [d] h' ∧ h.Keeps h' ∧
    R h' h.tables.size h'.tables.size d

theorem Heap.Grows.agrees {changed : ℕ → Prop} {h h' : Heap} {low high : ℕ}
    (hg : h.Grows changed h') (hsize : preludeTables ≤ h.tables.size)
    (hhigh : high ≤ h.tables.size)
    (hc : ∀ p, changed p → (p = 0 ∨ preludeTables ≤ p) ∧ (p < low ∨ high ≤ p)) :
    h.Agrees low high h' := by
  intro p hp
  refine hg.table p (by omega) fun hchanged => ?_
  have := hc p hchanged
  omega

/-- Changes of new tables only. -/
theorem Heap.Grows.keeps {changed : ℕ → Prop} {h h' : Heap} (hg : h.Grows changed h')
    (hnew : ∀ p, changed p → h.tables.size ≤ p) : h.Keeps h' :=
  hg.weaken fun p hp hc => (hnew p hc).not_gt hp

/-- The entries that a table keeps. -/
def present (entries : List (String × Datum)) : List (String × Datum) :=
  entries.filter fun e => !e.2.isNil

/-- A new table of fields, each with what is true of it. -/
def IsRecord {α : Type} (R : α → Footing) (fields : List (String × α)) : Footing :=
  fun h low high d => ∃ place room entries, d = .table place ∧ low ≤ place ∧ place < high ∧
    h.table place = Table.record (present entries) room none ∧
    List.Forall₂ (fun e f => e.1 = f.1 ∧ R f.2 h (place + 1) high e.2) entries fields

def IsSequence {α : Type} (R : α → Footing) (items : List α) : Footing :=
  fun h low high d => ∃ place ds, d = .table place ∧ low ≤ place ∧ place < high ∧
    h.table place = Table.sequence ds 0 none ∧
    List.Forall₂ (fun d a => R a h (place + 1) high d) ds items

theorem lasts_isRecord {α : Type} {R : α → Footing} (hR : ∀ a, (R a).Lasts)
    (fields : List (String × α)) : (IsRecord R fields).Lasts := by
  rintro h low high d h' low' high' ⟨place, room, entries, rfl, hplace, hlt, htable, hentries⟩
    hlow hhigh hsame
  refine ⟨place, room, entries, rfl, hlow.trans hplace, hlt.trans_le hhigh,
    (hsame place (.inr ⟨hplace, hlt⟩)).trans htable, hentries.imp fun e f he => ⟨he.1, ?_⟩⟩
  exact hR f.2 he.2 le_rfl hhigh fun p hp => hsame p (hp.imp_right fun hp => ⟨by omega, hp.2⟩)

section Tables

variable {α : Type} {call : Dispatch} {env : Env} {s : Sight} {R : α → Footing} {place : ℕ}
  (hR : ∀ a, (R a).Lasts) (line : ℕ) (expr : α → Expr)

theorem storeAll_text (x : String) (e : Expr) (rest : List Item) (h : Heap) :
    Item.storeAll call place line (.keyed (.text (Utf8.encode x)) e :: rest) env #[] 0 h = (do
      let ds ← e.evaluate call env
      Run.placed (env.frame line) (Run.rawSet place (.ofText x) (Operation.first ds))
      Item.storeAll call place line rest env #[] 0 : Run Unit) h := rfl

theorem present_append (done entries : List (String × Datum)) :
    present (done ++ entries) = present done ++ present entries := List.filter_append ..

theorem set_present (done : List (String × Datum)) {x : String} (hx : x ∉ done.map Prod.fst)
    (d : Datum) {room : ℕ} (hroom : 0 < room) (metatable : Option ℕ) :
    ∃ room', (Table.record (present done) room metatable).set (.ofText x) d =
      .record (present (done ++ [(x, d)])) room' metatable ∧ room ≤ room' + 1 := by
  have hnew : x ∉ (present done).map Prod.fst := fun hmem =>
    hx ((List.filter_sublist.map Prod.fst).subset hmem)
  rw [present_append]
  cases hd : d.isNil with
  | true =>
    obtain rfl := Datum.isNil_iff.mp hd
    exact ⟨room, by rw [Table.set_record_nil x hnew]; simp [present, Datum.isNil], by omega⟩
  | false =>
    exact ⟨room - 1, by rw [Table.set_record x d hnew hd hroom]; simp [present, hd], by omega⟩

include hR in
/-- Fields are stored as they come. -/
theorem storeAll_keyed (fields : List (String × α))
    (hgives : ∀ f ∈ fields, Gives call env s (expr f.2) (R f.2)) (h : Heap)
    (hs : env.Sees s h) (hplace : Heap.preludeTables ≤ place ∧ place < h.tables.size)
    (done : List (String × Datum)) (room : ℕ)
    (ht : h.table place = .record (present done) room none) (hroom : fields.length ≤ room)
    (hkeys : (done.map Prod.fst ++ fields.map Prod.fst).Nodup) :
    ∃ entries room' h', Item.storeAll call place line
        (fields.map fun f => .keyed (.text (Utf8.encode f.1)) (expr f.2)) env #[] 0 h =
          .ok () h' ∧
      h.Grows (· = place) h' ∧
      h'.table place = .record (present (done ++ entries)) room' none ∧
      List.Forall₂ (fun e f => e.1 = f.1 ∧ R f.2 h' (place + 1) h'.tables.size e.2)
        entries fields := by
  induction fields generalizing h done room with
  | nil =>
    obtain ⟨h', hrun, hgrows, -, htable⟩ := Run.modifyTable_grows place
      (fun t => t.fillFrom 0 []) h hplace.2
    refine ⟨[], room, h', hrun, hgrows, ?_, .nil⟩
    rw [htable, ht, List.append_nil]
    rfl
  | cons f fields ih =>
    obtain ⟨x, a⟩ := f
    obtain ⟨d, h₁, heval, hkeeps, hd⟩ := hgives (x, a) List.mem_cons_self h hs
    have hplace₁ : place < h₁.tables.size := hplace.2.trans_le hkeeps.tables_le
    obtain ⟨h₂, hset, hgrows, hsize, htable⟩ := Run.modifyTable_grows place
      (fun t => t.set (.ofText x) d) h₁ hplace₁
    rw [hkeeps.table place hplace.2 id, ht] at htable
    have hnew : x ∉ done.map Prod.fst := fun hmem =>
      List.disjoint_of_nodup_append hkeys hmem (by simp)
    have hpos : 0 < room := by
      rw [List.length_cons] at hroom
      omega
    obtain ⟨room₂, hrecord, hroom₂⟩ := set_present done hnew d hpos none
    rw [hrecord] at htable
    have hapart : h.GrowsApart h₂ :=
      hkeeps.grows.trans (hgrows.weaken fun p _ hp => hp ▸ hplace.1)
    obtain ⟨entries, room', h', hrun, hgrows', htable', hentries⟩ :=
      ih (fun f hf => hgives f (List.mem_cons_of_mem _ hf)) h₂ (hs.growsApart hapart)
        ⟨hplace.1, hsize ▸ hplace₁⟩ (done ++ [(x, d)]) room₂ htable
        (by rw [List.length_cons] at hroom; omega) (by simpa using hkeys)
    refine ⟨(x, d) :: entries, room', h', ?_, hkeeps.grows.trans (hgrows.trans hgrows'), ?_,
      .cons ⟨rfl, ?_⟩ hentries⟩
    · rw [List.map_cons, storeAll_text, Run.bind_ok heval]
      exact (Run.bind_ok (Run.placed_ok (env.frame line) hset)).trans hrun
    · simpa using htable'
    · -- The datum was given before the table changed, by tables behind it.
      refine hR a hd (by omega) ((hsize.symm.trans_le hgrows'.tables_le)) ?_
      refine (hgrows.trans hgrows').agrees (hplace.1.trans hplace₁.le) le_rfl ?_
      rintro p rfl
      exact ⟨.inr hplace.1, .inl hplace.2⟩

/-! Sequences. -/

theorem storeAll_positional (e : Expr) (rest : List Item) (waiting : Array Datum) (filled : ℕ)
    (h : Heap) (hsize : waiting.size ≠ Slots.chunkSize) :
    Item.storeAll call place line (.positional e :: rest) env waiting filled h = (do
      let ds ← e.evaluate call env
      Item.storeAll call place line rest env
        (waiting ++ if rest.isEmpty then ds else [Operation.first ds]) filled : Run Unit) h := by
  have hnot : (waiting.size == Slots.chunkSize) = false := by simpa using hsize
  rw [Item.storeAll.eq_def]
  dsimp only
  rw [hnot]
  rfl

theorem storeAll_complete (e : Expr) (rest : List Item) (waiting : Array Datum) (filled : ℕ)
    (h : Heap) (hsize : waiting.size = Slots.chunkSize) :
    Item.storeAll call place line (.positional e :: rest) env waiting filled h = (do
      Run.modifyTable place fun t => t.fillFrom filled waiting.toList
      Item.storeAll call place line (.positional e :: rest) env #[] (filled + waiting.size) :
        Run Unit) h := by
  have hyes : (waiting.size == Slots.chunkSize) = true := by simpa using hsize
  rw [Item.storeAll.eq_def]
  dsimp only
  rw [hyes]
  rfl

include hR in
/-- Values without keys wait for their chunk to be complete, and come into slots in order. -/
theorem storeAll_sequence (items : List α)
    (hgives : ∀ a ∈ items, Gives call env s (expr a) (R a)) (h : Heap) (hs : env.Sees s h)
    (hplace : Heap.preludeTables ≤ place ∧ place < h.tables.size) (done waiting : List Datum)
    (hwaiting : waiting.length ≤ Slots.chunkSize) (spare : ℕ)
    (ht : h.table place = .sequence done spare none)
    (hspare : spare ≤ waiting.length + items.length) :
    ∃ ds h', Item.storeAll call place line (items.map fun a => .positional (expr a)) env
        waiting.toArray done.length h = .ok () h' ∧
      h.Grows (· = place) h' ∧
      h'.table place = .sequence (done ++ waiting ++ ds) 0 none ∧
      List.Forall₂ (fun d a => R a h' (place + 1) h'.tables.size d) ds items := by
  induction items generalizing h done waiting spare with
  | nil =>
    obtain ⟨h', hrun, hgrows, -, htable⟩ := Run.modifyTable_grows place
      (fun t => t.fillFrom done.length waiting) h hplace.2
    refine ⟨[], h', hrun, hgrows, ?_, .nil⟩
    have hnone : spare - waiting.length = 0 := Nat.sub_eq_zero_of_le (by simpa using hspare)
    rw [htable, ht, Table.fillFrom_sequence, hnone, List.append_nil]
  | cons a items ih =>
    -- One value is given while the chunk is not complete.
    have hstep (h : Heap) (hs : env.Sees s h) (hlt : place < h.tables.size)
        (done waiting : List Datum) (hwaiting : waiting.length < Slots.chunkSize) (spare : ℕ)
        (ht : h.table place = .sequence done spare none)
        (hspare : spare ≤ waiting.length + (a :: items).length) :
        ∃ ds h', Item.storeAll call place line ((a :: items).map fun a => .positional (expr a)) env
            waiting.toArray done.length h = .ok () h' ∧
          h.Grows (· = place) h' ∧
          h'.table place = .sequence (done ++ waiting ++ ds) 0 none ∧
          List.Forall₂ (fun d a => R a h' (place + 1) h'.tables.size d) ds (a :: items) := by
      obtain ⟨d, h₁, heval, hkeeps, hd⟩ := hgives a List.mem_cons_self h hs
      have hlt₁ : place < h₁.tables.size := hlt.trans_le hkeeps.tables_le
      obtain ⟨ds, h', hrun, hgrows, htable, hds⟩ :=
        ih (fun a ha => hgives a (List.mem_cons_of_mem _ ha)) h₁ (hs.growsApart hkeeps.grows)
          ⟨hplace.1, hlt₁⟩ done (waiting ++ [d]) (by simpa using hwaiting) spare
          ((hkeeps.table place hlt id).trans ht)
          (by simp only [List.length_append, List.length_cons, List.length_nil] at hspare ⊢; omega)
      refine ⟨d :: ds, h', ?_, hkeeps.grows.trans hgrows, by simpa using htable, .cons ?_ hds⟩
      · rw [List.map_cons, storeAll_positional _ _ _ _ _ _ (by simpa using hwaiting.ne),
          Run.bind_ok heval]
        simpa [Operation.first] using hrun
      · refine hR a hd (by omega) hgrows.tables_le ?_
        refine hgrows.agrees (hplace.1.trans hlt₁.le) le_rfl ?_
        rintro p rfl
        exact ⟨.inr hplace.1, .inl hlt⟩
    rcases hwaiting.lt_or_eq with hless | hcomplete
    · exact hstep h hs hplace.2 done waiting hless spare ht hspare
    · obtain ⟨h₁, hrun, hgrows, hsize, htable⟩ := Run.modifyTable_grows place
        (fun t => t.fillFrom done.length waiting) h hplace.2
      rw [ht, Table.fillFrom_sequence] at htable
      have hapart : h.GrowsApart h₁ := hgrows.weaken fun p _ hp => hp ▸ hplace.1
      obtain ⟨ds, h', hrest, hgrows', htable', hds⟩ := hstep h₁ (hs.growsApart hapart)
        (hsize ▸ hplace.2) (done ++ waiting) [] (by decide) _ htable
        (by simp only [List.length_nil]; omega)
      refine ⟨ds, h', ?_, hgrows.trans hgrows', by simpa using htable', hds⟩
      rw [List.map_cons, storeAll_complete _ _ _ _ _ _ (by simpa using hcomplete)]
      refine (Run.bind_ok hrun).trans ?_
      simpa using hrest

/-! Tables with all their items. -/

theorem forItems_keyed (fields : List (String × α)) :
    Table.forItems (fields.map fun f => .keyed (.text (Utf8.encode f.1)) (expr f.2)) =
      .record [] (Table.capacity fields.length) none := by
  have hsingle : Item.singleCount
      (fields.map fun f => .keyed (.text (Utf8.encode f.1)) (expr f.2)) = 0 := by
    induction fields with
    | nil => rfl
    | cons f fields ih => rw [List.map_cons, Item.singleCount, ih]
  have hkeyed : Item.keyedCount
      (fields.map fun f => .keyed (.text (Utf8.encode f.1)) (expr f.2)) = fields.length := by
    clear hsingle
    induction fields with
    | nil => rfl
    | cons f fields ih => rw [List.map_cons, Item.keyedCount, ih, List.length_cons]
  rw [Table.forItems, hsingle, hkeyed]
  rfl

/-- A last item that may give any number of values has no slot yet. -/
theorem forItems_positional (items : List α) : ∃ spare ≤ items.length,
    Table.forItems (items.map fun a => .positional (expr a)) = .sequence [] spare none := by
  have hsingle : Item.singleCount (items.map fun a => .positional (expr a)) ≤ items.length := by
    induction items with
    | nil => exact le_rfl
    | cons a items ih =>
      cases items with
      | nil =>
        rw [List.map_cons, List.map_nil, Item.singleCount]
        split_ifs <;> simp
      | cons b items =>
        rw [List.map_cons] at ih
        rw [List.map_cons, List.map_cons, Item.singleCount, List.length_cons]
        · exact Nat.succ_le_succ ih
        · simp
  have hkeyed : Item.keyedCount (items.map fun a => .positional (expr a)) = 0 := by
    clear hsingle
    induction items with
    | nil => rfl
    | cons a items ih => rw [List.map_cons, Item.keyedCount, ih]
  refine ⟨_, hsingle, ?_⟩
  rw [Table.forItems, hkeyed]
  simp [Table.ofItems, Table.sequence, Table.capacity]

theorem evaluate_table (items : List Item) (h : Heap) :
    (Expr.table line items).evaluate call env h = (do
      let place ← Run.allocate (.forItems items)
      Item.storeAll call place line items env #[] 0
      return [Datum.table place] : Run (List Datum)) h := rfl

include hR in
/-- A table of fields. -/
theorem gives_record (fields : List (String × α)) (hkeys : (fields.map Prod.fst).Nodup)
    (hgives : ∀ f ∈ fields, Gives call env s (expr f.2) (R f.2)) :
    Gives call env s
      (.table line (fields.map fun f => .keyed (.text (Utf8.encode f.1)) (expr f.2)))
      (IsRecord R fields) := by
  intro h hs
  obtain ⟨h₁, hrun, hkeeps, hsize, htable⟩ := Run.allocate_keeps
    (.forItems (fields.map fun f => .keyed (.text (Utf8.encode f.1)) (expr f.2))) h
  rw [forItems_keyed] at htable
  obtain ⟨entries, room, h', hstore, hgrows, htable', hentries⟩ :=
    storeAll_keyed hR line expr fields hgives h₁ (hs.growsApart hkeeps.grows)
      ⟨hs.ready.tables_le, by omega⟩ [] _ htable (Table.le_capacity _) (by simpa using hkeys)
  have hlt : h.tables.size < h'.tables.size := (by omega : _ < h₁.tables.size).trans_le
    hgrows.tables_le
  refine ⟨.table h.tables.size, h', ?_, (hkeeps.grows.trans hgrows).keeps fun p hp => hp.ge,
    h.tables.size, room, entries, rfl, le_rfl, hlt, htable', hentries⟩
  rw [evaluate_table, Run.bind_ok hrun]
  exact Run.bind_ok hstore

include hR in
/-- A table of values without keys. -/
theorem gives_sequence (items : List α)
    (hgives : ∀ a ∈ items, Gives call env s (expr a) (R a)) :
    Gives call env s (.table line (items.map fun a => .positional (expr a)))
      (IsSequence R items) := by
  intro h hs
  obtain ⟨spare, hspare, hitems⟩ := forItems_positional expr items
  obtain ⟨h₁, hrun, hkeeps, hsize, htable⟩ := Run.allocate_keeps
    (.forItems (items.map fun a => .positional (expr a))) h
  rw [hitems] at htable
  obtain ⟨ds, h', hstore, hgrows, htable', hds⟩ := storeAll_sequence hR line expr items
    hgives h₁ (hs.growsApart hkeeps.grows) ⟨hs.ready.tables_le, by omega⟩ [] [] (by decide) spare
    htable (by simpa using hspare)
  have hlt : h.tables.size < h'.tables.size := (by omega : _ < h₁.tables.size).trans_le
    hgrows.tables_le
  refine ⟨.table h.tables.size, h', ?_, (hkeeps.grows.trans hgrows).keeps fun p hp => hp.ge,
    h.tables.size, ds, rfl, le_rfl, hlt, htable', hds⟩
  rw [evaluate_table, Run.bind_ok hrun]
  exact Run.bind_ok hstore

end Tables

end Docbase.Script
