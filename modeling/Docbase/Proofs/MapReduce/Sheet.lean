import Docbase.Proofs.MapReduce.Rounds

/-!
Runs of the loops that nothing gets in the way of. A phase goes through a sheet that has a line
for each key: the key, its values and its result. As long as the calls spare what is still to be
read and what is written, each of them gets what belongs to its key, and what it gives is the
result of this key.
-/
namespace Docbase.MapReduce

open Docbase.Script
open Registry (keysPlace emitsPlace reducedPlace arrayType)

namespace Registry

/-- The globals that the loops read, beside the function that they call. -/
def loopGlobals : List (String × Datum) :=
  [("null", null), (keysName, .table keysPlace), (emitsName, .table emitsPlace),
    (reducedName, .table reducedPlace)]

/-- The globals of a job that are read once its documents are mapped. -/
def jobNames : List String :=
  [keysName, emitsName, reducedName, emitCountName, reduceName, finalizeName]

/-- The events of the operations that the loops do on arrays. -/
def loopEvents : List String := ["__len", "__newindex"]

end Registry

open Registry (loopGlobals jobNames loopEvents)

namespace Phase

/-- The keys of which a phase still reads the values, once it has gone through some. -/
def later : Phase → ℕ → ℕ → Prop
  | .reduce, done, i => done ≤ i
  | .finalize, _, _ => False

/-- What the function gets besides the keys. -/
def others (p : Phase) (lists : List (ℕ × List Datum)) (prior : List Datum) : List Datum :=
  match p with
  | .reduce => lists.map fun l => .table l.1
  | .finalize => prior

theorem later_of_later_succ {p : Phase} {n i : ℕ} (hi : p.later (n + 1) i) : p.later n i := by
  cases p with
  | reduce => exact Nat.le_of_succ_le hi
  | finalize => exact hi

theorem function_mem (p : Phase) : p.function ∈ jobNames := by cases p <;> decide

end Phase

/-- A heap with keys, the table and the values of each, and results, for loops to go through.
Only of some keys the values are still to be read. -/
structure Sheet (ks : List Datum) (lists : List (ℕ × List Datum)) (later : ℕ → Prop)
    (results : List Datum) (tally : Datum) (h : Heap) : Prop where
  tables_le : 29 ≤ h.tables.size
  cells_pos : 0 < h.cells.size
  cell : h.cell 0 = .table 0
  globals_valid : (h.table 0).Valid
  plain : (h.table 0).metatable = none
  global : ∀ g ∈ loopGlobals, (h.table 0).getText g.1 = g.2
  count : (h.table 0).getText emitCountName = tally
  array : ∀ q ∈ [keysPlace, reducedPlace], (h.table q).metatable = some arrayType
  silent : ∀ x ∈ loopEvents, (h.table arrayType).getText x = .nil
  keys : (h.table keysPlace).Lists ks
  emits : (h.table emitsPlace).Lists (lists.map fun l => .table l.1)
  reduced : (h.table reducedPlace).Lists results
  length : lists.length = ks.length
  place : ∀ l ∈ lists, 29 ≤ l.1
  values : ∀ i l, later i → lists[i]? = some l → (h.table l.1).Lists l.2

/-- What happens leaves the registry alone: the globals of the job, and the tables of the keys,
of the results and of the values that are still to be read. -/
structure KeepsOut (later : ℕ → Prop) (h h' : Heap) : Prop where
  tables_le : h.tables.size ≤ h'.tables.size
  cells_le : h.cells.size ≤ h'.cells.size
  global : ∀ x ∈ jobNames, (h'.table 0).getText x = (h.table 0).getText x
  table : ∀ q ∈ [keysPlace, emitsPlace, reducedPlace], (h.table q).Moved (h'.table q)
  list : ∀ i q, later i → (h.table emitsPlace).get (slotNumber i) = .table q →
    (h.table q).Moved (h'.table q)

/-- Besides, what happens leaves alone what the loops get from the prelude: null, the metatable of
arrays, and how globals are read and written. -/
structure Spares (later : ℕ → Prop) (h h' : Heap) : Prop extends KeepsOut later h h' where
  null : (h'.table 0).getText "null" = (h.table 0).getText "null"
  silent : ∀ x ∈ loopEvents, (h'.table arrayType).getText x = (h.table arrayType).getText x
  plain : (h'.table 0).metatable = (h.table 0).metatable
  globals_valid : (h.table 0).Valid → (h'.table 0).Valid
  cell : h'.cell 0 = h.cell 0

variable {ks results : List Datum} {lists : List (ℕ × List Datum)} {later : ℕ → Prop}
  {tally f : Datum} {i : ℕ} {p : Phase} {h h' : Heap}

/-! Steps. -/

theorem Sheet.spares {later' : ℕ → Prop} (hs : Sheet ks lists later results tally h)
    (hspares : Spares later' h h') (hlater : ∀ i, later' i → later i) :
    Sheet ks lists later' results tally h' where
  tables_le := hs.tables_le.trans hspares.tables_le
  cells_pos := hs.cells_pos.trans_le hspares.cells_le
  cell := hspares.cell.trans hs.cell
  globals_valid := hspares.globals_valid hs.globals_valid
  plain := hspares.plain.trans hs.plain
  global g hg := by
    have hname : ∀ g ∈ loopGlobals, g.1 = "null" ∨ g.1 ∈ jobNames := by decide
    rw [← hs.global g hg]
    rcases hname g hg with hnull | hmem
    · rw [hnull, hspares.null]
    · exact hspares.global _ hmem
  count := (hspares.global _ (by decide)).trans hs.count
  array q hq := by
    have hkept : ∀ q ∈ [keysPlace, reducedPlace], q ∈ [keysPlace, emitsPlace, reducedPlace] := by
      decide
    exact (hspares.table q (hkept q hq)).metatable.trans (hs.array q hq)
  silent x hx := (hspares.silent x hx).trans (hs.silent x hx)
  keys := hs.keys.moved (hspares.table _ (by simp))
  emits := hs.emits.moved (hspares.table _ (by simp))
  reduced := hs.reduced.moved (hspares.table _ (by simp))
  length := hs.length
  place := hs.place
  values i l hi hl := by
    have hget : (h.table emitsPlace).get (slotNumber i) = .table l.1 :=
      hs.emits.get_of_getElem? (by rw [List.getElem?_map, hl, Option.map_some])
    exact (hs.values i l (hlater i hi) hl).moved (hspares.list i l.1 hi hget)

/-- Tables that are only looked at, and new variables. -/
theorem spares_of_moved (hsize : h'.tables.size = h.tables.size)
    (hcells : h.cells.size ≤ h'.cells.size) (hcell : h'.cell 0 = h.cell 0)
    (hmoved : ∀ q, (h.table q).Moved (h'.table q)) : Spares later h h' where
  tables_le := hsize.ge
  cells_le := hcells
  global _ _ := (hmoved 0).getKey _
  table q _ := hmoved q
  list _ q _ _ := hmoved q
  null := (hmoved 0).getKey _
  silent _ _ := (hmoved arrayType).getKey _
  plain := (hmoved 0).metatable
  globals_valid := (hmoved 0).valid
  cell := hcell

theorem Sheet.unhandled (hs : Sheet ks lists later results tally h) {q : ℕ}
    (hq : q ∈ [keysPlace, reducedPlace]) {event : String} (hevent : event ∈ loopEvents) :
    Operation.Unhandled h q event := by
  intro m hm
  rw [hs.array q hq, Option.some_inj] at hm
  subst hm
  exact hs.silent event hevent

theorem Sheet.counted (hs : Sheet ks lists later results tally h) :
    Sheet ks lists later results tally (counted h) := by
  have hlt : keysPlace < h.tables.size := Nat.lt_of_lt_of_le (by decide) hs.tables_le
  refine hs.spares (spares_of_moved (Heap.size_update _ _ _) le_rfl rfl fun q => ?_) fun _ => id
  exact moved_update hlt ⟨rfl, fun _ => hs.keys.findBorder.2⟩ q

theorem Phase.otherPlace_lt (p : Phase) : p.otherPlace < 29 := by cases p <;> decide

theorem moved_asked (hsize : 29 ≤ h.tables.size) (p : Phase) (i q : ℕ) :
    (h.table q).Moved ((asked p i h).table q) := by
  have hlt : keysPlace < h.tables.size := Nat.lt_of_lt_of_le (by decide) hsize
  have hother := p.otherPlace_lt.trans_le hsize
  rw [← Heap.size_update h keysPlace fun t => t.touch (slotNumber i)] at hother
  exact (moved_look hlt (slotNumber i) q).trans (moved_look hother (slotNumber i) q)

theorem size_tables_asked (p : Phase) (i : ℕ) (h : Heap) :
    (asked p i h).tables.size = h.tables.size :=
  (Heap.size_update _ _ _).trans (Heap.size_update _ _ _)

theorem size_cells_asked (p : Phase) (i : ℕ) (h : Heap) :
    (asked p i h).cells.size = h.cells.size + 1 := by
  simp [asked, Heap.withCells, Heap.update]

/-- The number of the slot is in the last cell. -/
theorem cell_asked (p : Phase) (i : ℕ) (h : Heap) :
    (asked p i h).cell h.cells.size = slotNumber i := by
  simp [asked, Heap.cell, Heap.withCells, Heap.update]

/-- To file an answer changes the table of the results. -/
theorem table_noted (hsize : 29 ≤ h.tables.size) (i : ℕ) (d : Datum) (q : ℕ) :
    (noted i d h).table q =
      if q = reducedPlace then (h.table reducedPlace).set (slotNumber i) d else h.table q :=
  Heap.table_update (Nat.lt_of_lt_of_le (by decide) hsize) q

theorem Sheet.asked (hs : Sheet ks lists later results tally h) (p : Phase) (i : ℕ) :
    Sheet ks lists later results tally (asked p i h) := by
  have hcell : (MapReduce.asked p i h).cell 0 = h.cell 0 := Heap.cell_withCells hs.cells_pos _
  refine hs.spares (spares_of_moved (size_tables_asked p i h) ?_ hcell
    (moved_asked hs.tables_le p i)) fun _ => id
  rw [size_cells_asked]
  exact Nat.le_succ _

/-- A result is filed, in the place of one or behind all of them. -/
theorem Sheet.noted (hs : Sheet ks lists later results tally h) {d : Datum} (hd : d.isNil = false)
    (hi : i ≤ results.length) (hsmall : i + 1 < 2 ^ 63) :
    Sheet ks lists later (results.take i ++ d :: results.drop (i + 1)) tally (noted i d h) := by
  have hself := (table_noted hs.tables_le i d reducedPlace).trans (if_pos rfl)
  have hother (q : ℕ) (hq : q ≠ reducedPlace) : (MapReduce.noted i d h).table q = h.table q :=
    (table_noted hs.tables_le i d q).trans (if_neg hq)
  have hglobals := hother 0 (by decide)
  have hkeys := hother keysPlace (by decide)
  refine ⟨?_, ?_, ?_, hglobals ▸ hs.globals_valid, hglobals ▸ hs.plain, fun g hg => ?_, ?_,
    fun q hq => ?_, fun x hx => ?_, hkeys ▸ hs.keys, ?_, ?_, hs.length, hs.place,
    fun j l hj hl => ?_⟩
  · exact hs.tables_le.trans (Heap.size_update _ _ _).ge
  · exact hs.cells_pos.trans_le (by simp [MapReduce.noted, Heap.withCells, Heap.update])
  · exact (Heap.cell_withCells hs.cells_pos [d]).trans hs.cell
  · rw [hglobals]
    exact hs.global g hg
  · rw [hglobals]
    exact hs.count
  · by_cases hreduced : q = reducedPlace
    · rw [hreduced, hself]
      exact (Registry.set_metatable _ _ _).trans (hs.array reducedPlace (by simp))
    · rw [hother q hreduced]
      exact hs.array q hq
  · rw [hother arrayType (by decide)]
    exact hs.silent x hx
  · rw [hother emitsPlace (by decide)]
    exact hs.emits
  · rw [hself]
    exact hs.reduced.put hd hi hsmall
  · have hplace := hs.place l (List.mem_of_getElem? hl)
    have hne : l.1 ≠ reducedPlace := by
      have hsmall : reducedPlace < 29 := by decide
      omega
    rw [hother l.1 hne]
    exact hs.values j l hj hl

/-- The function of a phase goes into its global. -/
theorem Sheet.setGlobal (hs : Sheet ks lists later results tally h) (p : Phase) (f : Datum) :
    Sheet ks lists later results tally (h.update 0 fun t => t.set (.ofText p.function) f) := by
  set h₁ := h.update 0 fun t => t.set (.ofText p.function) f
  have hlt : 0 < h.tables.size := Nat.lt_of_lt_of_le (by decide) hs.tables_le
  have hself : h₁.table 0 = (h.table 0).set (.ofText p.function) f :=
    (Heap.table_update hlt 0).trans (if_pos rfl)
  have hother (q : ℕ) (hq : q ≠ 0) : h₁.table q = h.table q :=
    (Heap.table_update hlt q).trans (if_neg hq)
  have hget (x : String) (hx : x ≠ p.function) :
      (h₁.table 0).getText x = (h.table 0).getText x := by
    rw [hself, Registry.getText_set hs.globals_valid, if_neg hx]
  have hkeys := hother keysPlace (by decide)
  have hemits := hother emitsPlace (by decide)
  have hreduced := hother reducedPlace (by decide)
  refine ⟨hs.tables_le.trans (Heap.size_update _ _ _).ge, hs.cells_pos, hs.cell, ?_, ?_,
    fun g hg => ?_, ?_, fun q hq => ?_, fun x hx => ?_, hkeys ▸ hs.keys, hemits ▸ hs.emits,
    hreduced ▸ hs.reduced, hs.length, hs.place, fun i l hi hl => ?_⟩
  · rw [hself]
    exact (Table.setKey_spec hs.globals_valid _ _).1
  · rw [hself]
    exact (Registry.set_metatable _ _ _).trans hs.plain
  · have hname : ∀ g ∈ loopGlobals, g.1 ≠ p.function := by cases p <;> decide
    exact (hget g.1 (hname g hg)).trans (hs.global g hg)
  · exact (hget _ (by cases p <;> decide)).trans hs.count
  · have hpos : ∀ q ∈ [keysPlace, reducedPlace], q ≠ 0 := by decide
    rw [hother q (hpos q hq)]
    exact hs.array q hq
  · rw [hother arrayType (by decide)]
    exact hs.silent x hx
  · have hplace := hs.place l (List.mem_of_getElem? hl)
    rw [hother l.1 (by omega)]
    exact hs.values i l hi hl

/-! Phases. -/

/-- The loop's own variable has the number of the slot after the call. -/
def Round.KeepsSlot (r : Round) : Prop :=
  ∀ c, c + 1 = r.before.cells.size → r.after.cell c = r.before.cell c

/-- The calls of a phase that has started keep to a relation between the heaps before and after
them, with regard to what is still to be read. -/
def CallsKeep (R : (ℕ → Prop) → Heap → Heap → Prop) (p : Phase) (f : Datum) (start : Heap)
    (n : ℕ) : Prop :=
  ∀ rounds h (r : Round), rounds.length < n → Rounds p f start rounds h →
    r.Follows p f rounds.length h →
      R (p.later (rounds.length + 1)) r.before r.after ∧ r.KeepsSlot

/-- A call that gets what belongs to its key. -/
structure Round.Handed (p : Phase) (ks : List Datum) (lists : List (ℕ × List Datum))
    (prior : List Datum) (i : ℕ) (r : Round) : Prop where
  key : ks[i]? = some r.key
  other : (p.others lists prior)[i]? = some r.other
  values : p.later i i → ∀ l, lists[i]? = some l → (r.before.table l.1).Lists l.2

/-- A phase under way: the results so far are what the calls gave, before those of the phase
before. -/
structure Underway (p : Phase) (f : Datum) (ks : List Datum) (lists : List (ℕ × List Datum))
    (prior : List Datum) (tally : Datum) (rounds : List Round) (h : Heap) : Prop where
  sheet : Sheet ks lists (p.later rounds.length)
    (rounds.map Round.answer ++ prior.drop rounds.length) tally h
  function : (h.table 0).getText p.function = f
  handed : ∀ i (r : Round), rounds[i]? = some r → r.Handed p ks lists prior i

variable {prior : List Datum} {rounds : List Round} {r : Round}

theorem Round.answer_isNil (r : Round) : r.answer.isNil = false := orNull_isNil _

/-- What holds of all elements, and of one more. -/
theorem forall_getElem?_concat {α : Type} {l : List α} {a : α} {P : ℕ → α → Prop}
    (hall : ∀ i b, l[i]? = some b → P i b) (ha : P l.length a) :
    ∀ i b, (l ++ [a])[i]? = some b → P i b := by
  intro i b hb
  rcases Nat.lt_or_ge i l.length with hlt | hge
  · rw [List.getElem?_append_left hlt] at hb
    exact hall i b hb
  · obtain rfl : i = l.length := by
      have hlast := (List.getElem?_eq_some_iff.mp hb).1
      rw [List.length_append, List.length_singleton] at hlast
      omega
    rw [List.getElem?_append_right le_rfl, Nat.sub_self] at hb
    obtain rfl : a = b := Option.some.inj hb
    exact ha

/-- The table of what the function gets besides the keys. -/
theorem Underway.others (hu : Underway p f ks lists prior tally rounds h) :
    ∃ others, (h.table p.otherPlace).Lists others ∧
      others[rounds.length]? = (p.others lists prior)[rounds.length]? := by
  cases p with
  | reduce => exact ⟨_, hu.sheet.emits, rfl⟩
  | finalize =>
    refine ⟨_, hu.sheet.reduced, ?_⟩
    rw [List.getElem?_append_right (by rw [List.length_map]), List.length_map, Nat.sub_self,
      List.getElem?_drop]
    rfl

theorem Underway.items (hu : Underway p f ks lists prior tally rounds h)
    (hothers : (p.others lists prior).length = ks.length) (hlt : rounds.length < ks.length) :
    ks[rounds.length]? = some ((h.table keysPlace).get (slotNumber rounds.length)) ∧
      (p.others lists prior)[rounds.length]? =
        some ((h.table p.otherPlace).get (slotNumber rounds.length)) := by
  obtain ⟨others, hlists, hsame⟩ := hu.others
  have hkey := List.getElem?_eq_getElem hlt
  have hother := List.getElem?_eq_getElem (hothers.symm ▸ hlt)
  have hgetKey := hu.sheet.keys.get_of_getElem? hkey
  have hgetOther := hlists.get_of_getElem? (hsame.trans hother)
  exact ⟨hkey.trans (congrArg some hgetKey.symm), hother.trans (congrArg some hgetOther.symm)⟩

/-- The next call can be made. -/
theorem Underway.ready (hu : Underway p f ks lists prior tally rounds h) (hf : f.isNil = false)
    (hothers : (p.others lists prior).length = ks.length) (hlt : rounds.length < ks.length) :
    Ready p f rounds.length ((h.table keysPlace).get (slotNumber rounds.length))
      ((h.table p.otherPlace).get (slotNumber rounds.length)) h := by
  have hs := hu.sheet
  obtain ⟨others, hlists, hsame⟩ := hu.others
  obtain ⟨hkey, hother⟩ := hu.items hothers hlt
  have hpresent := hlists.present _ (List.mem_of_getElem? (hsame.trans hother))
  have hname : (h.table 0).getText p.other = .table p.otherPlace := by
    cases p with
    | reduce => exact hs.global (emitsName, .table emitsPlace) (by decide)
    | finalize => exact hs.global (reducedName, .table reducedPlace) (by decide)
  refine ⟨hs.cells_pos, hs.cell, Nat.lt_of_lt_of_le (by decide) hs.tables_le,
    p.otherPlace_lt.trans_le hs.tables_le,
    hu.function, hf, hs.global (keysName, .table keysPlace) (by decide), hname, rfl,
    hs.keys.present _ (List.mem_of_getElem? hkey), rfl, fun hnil => ?_⟩
  rw [hpresent] at hnil
  cases hnil

/-- A call that spares the sheet takes the phase one line further. -/
theorem Underway.next (hu : Underway p f ks lists prior tally rounds h)
    (hothers : (p.others lists prior).length = ks.length) (hlt : rounds.length < ks.length)
    (hr : r.Follows p f rounds.length h)
    (hspares : Spares (p.later (rounds.length + 1)) r.before r.after) (hslot : r.KeepsSlot) :
    Returned rounds.length h.cells.size r.after ∧
      Underway p f ks lists prior tally (rounds ++ [r])
        (noted rounds.length r.answer r.after) := by
  have hfew := hu.sheet.keys.length_lt
  have hlength : (rounds ++ [r]).length = rounds.length + 1 := by simp
  have hasked := hu.sheet.asked p rounds.length
  rw [← hr.before] at hasked
  have hs := hasked.spares hspares fun _ => Phase.later_of_later_succ
  have hfunction : (r.after.table 0).getText p.function = f := by
    rw [hspares.global _ p.function_mem, hr.before]
    exact ((moved_asked hu.sheet.tables_le p _ 0).getKey _).trans hu.function
  have hcells : r.before.cells.size = h.cells.size + 1 := hr.before ▸ size_cells_asked p _ h
  refine ⟨⟨hs.cells_pos, hs.cell, ?_, ?_, hs.global ("null", null) (by decide),
    hs.global (reducedName, .table reducedPlace) (by decide),
    hs.unhandled (by simp) (by decide)⟩, ?_, ?_, ?_⟩
  · have hle := hspares.cells_le
    omega
  · rw [hslot _ hcells.symm, hr.before, cell_asked]
  · have hresults : (rounds.map Round.answer ++ prior.drop rounds.length).take rounds.length ++
        r.answer :: (rounds.map Round.answer ++ prior.drop rounds.length).drop
          (rounds.length + 1) =
        (rounds ++ [r]).map Round.answer ++ prior.drop (rounds ++ [r]).length := by
      have hdone : (rounds.map Round.answer).length = rounds.length := List.length_map _
      rw [List.take_append_of_le_length hdone.ge, List.take_of_length_le hdone.le,
        List.drop_append, List.drop_of_length_le (by omega), hdone, List.drop_drop, hlength]
      simp
    have hnoted := hs.noted r.answer_isNil (i := rounds.length) (by simp) (by omega)
    rwa [hresults, ← hlength] at hnoted
  · rw [table_noted hs.tables_le, if_neg (by decide)]
    exact hfunction
  · obtain ⟨hkey, hother⟩ := hu.items hothers hlt
    refine forall_getElem?_concat hu.handed ?_
    exact ⟨hr.key ▸ hkey, hr.other ▸ hother, fun hlater l hl => hasked.values _ l hlater hl⟩

theorem Sheet.startable (hs : Sheet ks lists later results tally h) : Startable ks.length h :=
  ⟨hs.cells_pos, hs.cell, hs.global (keysName, .table keysPlace) (by decide),
    hs.unhandled (by simp) (by decide), hs.keys.findBorder.1, hs.keys.length_lt⟩

theorem Sheet.underway (hs : Sheet ks lists (p.later 0) prior tally h)
    (hf : (h.table 0).getText p.function = f) :
    Underway p f ks lists prior tally [] (MapReduce.counted h) := by
  have hlt : keysPlace < h.tables.size := Nat.lt_of_lt_of_le (by decide) hs.tables_le
  have hmoved : (h.table 0).Moved ((MapReduce.counted h).table 0) :=
    moved_update hlt ⟨rfl, fun _ => hs.keys.findBorder.2⟩ 0
  exact ⟨hs.counted, (hmoved.getKey _).trans hf, by simp⟩

/-- A phase that spares its sheet stays under way. -/
theorem CallsKeep.sustained (hcalls : CallsKeep Spares p f h ks.length) (hf : f.isNil = false)
    (hothers : (p.others lists prior).length = ks.length) :
    Sustained p f h ks.length (Underway p f ks lists prior tally) where
  ready _ _ hlt _ hu := hu.ready hf hothers hlt
  returned rounds h₁ r hlt hrounds hu hr := by
    obtain ⟨hspares, hslot⟩ := hcalls rounds h₁ r hlt hrounds hr
    exact hu.next hothers hlt hr hspares hslot

end Docbase.MapReduce
