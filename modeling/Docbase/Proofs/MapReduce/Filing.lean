import Docbase.Proofs.MapReduce.Registry

/-!
What a call of `emit` files. The tables of the registry hold the keys, the slot of each key and
the values of each slot; one statement of `emit` after the other changes one of them.
-/
namespace Docbase.MapReduce

open Docbase.Script
open Registry (nanPlace)

/-- What stands for a key in the table of slots. -/
def slotKey (key : Datum) : Datum := if key.isKey then key else .table nanPlace

/-- The key of the table of slots itself. -/
def filedUnder (key : Datum) : Datum := (slotKey key).normalizeKey

theorem slotKey_isKey (key : Datum) : (slotKey key).isKey = true := by
  rw [slotKey]
  split_ifs with h
  · exact h
  · rfl

theorem filedUnder_ne {key : Datum} (hkey : key.isKey = true)
    (hne : key ≠ .table nanPlace) : filedUnder key ≠ .table nanPlace := by
  rw [filedUnder, slotKey, if_pos hkey]
  cases key with
  | double x =>
    rw [Datum.normalizeKey]
    cases Number.intOfDouble? x <;> simp
  | _ => exact hne

/-- Keys of one class are filed together, as long as no key is the table that stands for NaN. -/
theorem filedUnder_eq_iff {k key : Datum} (hk : k ≠ .table nanPlace)
    (hkey : key ≠ .table nanPlace) :
    filedUnder k = filedUnder key ↔ classOf k = classOf key := by
  unfold classOf
  cases hl : k.isKey <;> cases hr : key.isKey
  · simp [filedUnder, slotKey, hl, hr]
  · have hne : filedUnder k ≠ filedUnder key := by
      rw [show filedUnder k = .table nanPlace by simp [filedUnder, slotKey, hl, Datum.normalizeKey]]
      exact (filedUnder_ne hr hkey).symm
    simpa using hne
  · have hne : filedUnder k ≠ filedUnder key := by
      rw [show filedUnder key = .table nanPlace by
        simp [filedUnder, slotKey, hr, Datum.normalizeKey]]
      exact filedUnder_ne hl hk
    simpa using hne
  · simp [filedUnder, slotKey, hl, hr]

namespace Registry

/-- A registry with some keys, the table and the values of each, and how often `emit` was
called. -/
structure Filed (h : Heap) (ks : List Datum) (lists : List (ℕ × List Datum)) (calls : ℕ) :
    Prop where
  wired : Wired h
  keys : (h.table keysPlace).Lists ks
  slots : (h.table slotsPlace).Valid
  known : ∀ i k, ks[i]? = some k →
    (h.table slotsPlace).getKey (filedUnder k) = .int (Int64.ofNat (i + 1))
  unknown : ∀ d, d ∉ ks.map filedUnder → (h.table slotsPlace).getKey d = .nil
  emits : (h.table emitsPlace).Lists (lists.map fun l => .table l.1)
  length : lists.length = ks.length
  nodup : (lists.map Prod.fst).Nodup
  place : ∀ l ∈ lists, 29 ≤ l.1 ∧ l.1 < h.tables.size
  values : ∀ l ∈ lists, (h.table l.1).Lists l.2
  array : ∀ l ∈ lists, (h.table l.1).metatable = some arrayType
  count : (h.table 0).getText emitCountName = .int (Int64.ofNat calls)

/-- Tables that the registry is made of. -/
def IsPart (lists : List (ℕ × List Datum)) (p : ℕ) : Prop :=
  p ∈ [keysPlace, slotsPlace, emitsPlace] ∨ p ∈ lists.map Prod.fst

variable {h h' : Heap} {ks : List Datum} {lists : List (ℕ × List Datum)} {calls p : ℕ}
  {f : Table → Table}

/-- A fresh registry has no keys. -/
theorem filed_of_isFresh (hfresh : isFresh h = true) : Filed h [] [] 0 := by
  have hwired := wired_of_isFresh hfresh
  simp only [isFresh, Bool.and_eq_true, List.all_eq_true, beq_iff_eq, Array.isEmpty_iff,
    List.isEmpty_iff] at hfresh
  obtain ⟨⟨-, hempty⟩, hcount⟩ := hfresh
  have hlists (p : ℕ) (hp : p ∈ [keysPlace, slotsPlace, emitsPlace]) : (h.table p).Lists [] := by
    obtain ⟨⟨hitems, hfields⟩, hedge⟩ := hempty p hp
    have htable : h.table p = ⟨#[], [], (h.table p).room, 0, (h.table p).metatable⟩ := by
      rw [← hitems, ← hfields, ← hedge]
    rw [htable]
    exact Table.lists_empty _ _ _ (Nat.zero_le _)
  have hslots := hlists slotsPlace (by simp)
  refine ⟨hwired, hlists keysPlace (by simp), hslots.valid, by simp, fun d _ => ?_,
    hlists emitsPlace (by simp), rfl, List.nodup_nil, by simp, by simp, by simp, hcount⟩
  rw [hslots.getKey]
  cases Table.position? d <;> rfl

theorem filed_fresh : Filed fresh [] [] 0 := filed_of_isFresh fresh_isFresh

/-! Changes that file nothing. -/

theorem Filed.moved (hf : Filed h ks lists calls) (hk : Keeps h h')
    (hcount : (h'.table 0).getText emitCountName = (h.table 0).getText emitCountName)
    (hmoved : ∀ p, IsPart lists p → (h.table p).Moved (h'.table p)) :
    Filed h' ks lists calls where
  wired := hf.wired.keeps hk
  keys := hf.keys.moved (hmoved _ (.inl (by simp)))
  slots := (hmoved slotsPlace (.inl (by simp))).valid hf.slots
  known i k hi := ((hmoved slotsPlace (.inl (by simp))).getKey _).trans (hf.known i k hi)
  unknown d hd := ((hmoved slotsPlace (.inl (by simp))).getKey _).trans (hf.unknown d hd)
  emits := hf.emits.moved (hmoved _ (.inl (by simp)))
  length := hf.length
  nodup := hf.nodup
  place l hl := ⟨(hf.place l hl).1, (hf.place l hl).2.trans_le hk.tables_le⟩
  values l hl := (hf.values l hl).moved (hmoved _ (.inr (List.mem_map_of_mem hl)))
  array l hl := (hmoved _ (.inr (List.mem_map_of_mem hl))).metatable.trans (hf.array l hl)
  count := hcount.trans hf.count

theorem Filed.isPart_lt (hf : Filed h ks lists calls) (hp : IsPart lists p) :
    keysPlace ≤ p ∧ p < h.tables.size := by
  rcases hp with hp | hp
  · have hplace : ∀ q ∈ [keysPlace, slotsPlace, emitsPlace], keysPlace ≤ q ∧ q < 29 := by decide
    exact ⟨(hplace p hp).1, (hplace p hp).2.trans_le hf.wired.tables_le⟩
  · obtain ⟨l, hl, rfl⟩ := List.mem_map.mp hp
    exact ⟨Nat.le_trans (by decide) (hf.place l hl).1, (hf.place l hl).2⟩

theorem Filed.update_moved (hf : Filed h ks lists calls) (hp : IsPart lists p)
    (hmoved : (h.table p).Moved (f (h.table p))) : Filed (h.update p f) ks lists calls := by
  obtain ⟨hlow, hlt⟩ := hf.isPart_lt hp
  have hall (q : ℕ) : (h.table q).Moved ((h.update p f).table q) := by
    rw [Heap.table_update hlt]
    split_ifs with hq
    · exact hq ▸ hmoved
    · exact .refl _
  have hprelude (q : ℕ) (hq : q < keysPlace) : (h.update p f).table q = h.table q := by
    rw [Heap.table_update hlt, if_neg (by omega)]
  refine hf.moved (.of_tables (Heap.size_update h p f).ge rfl rfl hprelude
    fun q _ => (hall q).metatable) ?_ fun q _ => hall q
  rw [hprelude 0 (by decide)]

theorem Filed.touch (hf : Filed h ks lists calls) (hp : IsPart lists p) (key : Datum) :
    Filed (h.update p fun t => t.touch key) ks lists calls :=
  hf.update_moved hp (Table.moved_touch _ key)

theorem Filed.search (hf : Filed h ks lists calls) (hp : IsPart lists p) {ds : List Datum}
    (hl : (h.table p).Lists ds) :
    Filed (h.update p fun t => { t with edge := (h.table p).findBorder.2 }) ks lists calls :=
  hf.update_moved hp ⟨rfl, fun _ => hl.findBorder.2⟩

/-! The next position of a list. -/

theorem evaluate_next (call : Dispatch) {env : Env} {o : Expr} {ds l : List Datum}
    (ho : o.evaluate call env (h.withCells ds) = .ok [.table p] (h.withCells ds))
    (hlength : Operation.Unhandled h p "__len") (hl : (h.table p).Lists l) :
    (plusOne o.length).evaluate call env (h.withCells ds) =
      .ok [.int (Int64.ofNat (l.length + 1))]
        ((h.update p fun t => { t with edge := (h.table p).findBorder.2 }).withCells ds) := by
  have hborder : o.length.evaluate call env (h.withCells ds) = .ok [.int (Int64.ofNat l.length)]
      ((h.update p fun t => { t with edge := (h.table p).findBorder.2 }).withCells ds) := by
    refine evaluate_unary ho fun call => ?_
    refine (Operation.length_eq (h := h.withCells ds) call hlength).trans ?_
    rw [Heap.table_withCells, hl.findBorder.1]
    rfl
  exact evaluate_binary rfl hborder rfl fun call => Operation.add_one call _

/-! Statements of `emit`. -/

section Statements

variable {call : Dispatch} {env : Env} {ds : List Datum} {i : ℕ} {x : String} {d : Datum}

theorem execute_nullIfNil (hnull : (h.table 0).getText "null" = null) (hg : env.Global h)
    (hfree : env.cell? "null" = none) (hx : env.own.lookup x = some (h.cells.size + i))
    (hd : ds[i]? = some d) :
    (nullIfNil x).execute call env (h.withCells ds) =
      .ok (.next, env) (h.withCells (ds.set i (orNull d))) := by
  have hcondition := evaluate_isNil call hx hd
  rw [orNull]
  cases hnil : d.isNil with
  | false =>
    rw [hnil] at hcondition
    obtain ⟨hlt, rfl⟩ := List.getElem?_eq_some_iff.mp hd
    rw [if_neg (by simp), List.set_getElem_self]
    exact execute_when_false _ hcondition
  | true =>
    rw [hnil] at hcondition
    have hset := execute_set hx (evaluate_free call 0 hg hfree hnull rfl ds)
    rw [if_pos rfl]
    refine execute_when_true hcondition ((execute_cons (by simp [Stmt.set]) hset _ _).trans rfl)

/-- What `emit` sees beside its own variables. -/
def emitEnv (trace : Trace) (own : List (String × ℕ)) : Env :=
  ⟨own, emitClosure.captured, [], none, trace, true⟩

variable {trace : Trace} {k v s : Datum}

/-- The variables of `emit`, the last one first. -/
def own₂ (n : ℕ) : List (String × ℕ) := [("value", n + 1), ("key", n + 0)]
def own₃ (n : ℕ) : List (String × ℕ) := ("slot_key", n + 2) :: own₂ n
def own₄ (n : ℕ) : List (String × ℕ) := ("slot", n + 3) :: own₃ n

theorem Wired.sees_emit (hw : Wired h) (trace : Trace) {own : List (String × ℕ)}
    (hown : own.lookup Env.globalsName = none) : (emitEnv trace own).Global h :=
  hw.sees hown rfl

/-- NaN is no key of a table, and another table stands for it. -/
theorem execute_slotKey (hw : Wired h) (hk : k.isNil = false) :
    (Stmt.when ((Expr.ofName "key").ne (.ofName "key"))
        [.set "slot_key" (.ofName "nan_slot")]).execute call
          (emitEnv trace (own₃ h.cells.size)) (h.withCells [k, v, k]) =
      .ok (.next, emitEnv trace (own₃ h.cells.size)) (h.withCells [k, v, slotKey k]) := by
  set e := emitEnv trace (own₃ h.cells.size)
  have hkey : (Expr.ofName "key").evaluate call e (h.withCells [k, v, k]) =
      .ok [k] (h.withCells [k, v, k]) := evaluate_local call e 0 (i := 0) rfl rfl
  have hcondition : ((Expr.ofName "key").ne (.ofName "key")).evaluate call e
      (h.withCells [k, v, k]) = .ok [.boolean !k.isKey] (h.withCells [k, v, k]) :=
    evaluate_binary_waiting ((waitingCell?_name (by decide) 0 "key").trans rfl) hkey
      (Run.readCell_local (i := 0) rfl) fun call => Operation.ne_self call hk
  rw [slotKey]
  cases hisKey : k.isKey with
  | true =>
    rw [hisKey] at hcondition
    exact execute_when_false _ hcondition
  | false =>
    rw [hisKey] at hcondition
    have hnan := evaluate_captured call e 0 (x := "nan_slot") (c := 23) rfl rfl
      (Nat.lt_of_lt_of_le (by decide) hw.cells_le) [k, v, k]
    rw [hw.cell (23, .table nanPlace) (by decide)] at hnan
    have hset : (Stmt.set "slot_key" (.ofName "nan_slot")).execute call e
        (h.withCells [k, v, k]) = .ok (.next, e) (h.withCells [k, v, .table nanPlace]) :=
      execute_set (i := 2) rfl hnan
    exact execute_when_true hcondition ((execute_cons (by simp [Stmt.set]) hset _ _).trans rfl)

/-- A value of a table of the registry. -/
theorem Filed.evaluate_item (hf : Filed h ks lists calls) {name y : String}
    (hg : (name, Datum.table p) ∈ globals) (hp : p ∈ [slotsPlace, emitsPlace])
    {own : List (String × ℕ)} (hown : own.lookup Env.globalsName = none)
    (hfree : (emitEnv trace own).cell? name = none)
    (hy : own.lookup y = some (h.cells.size + i)) (hd : ds[i]? = some d) :
    ((Expr.ofName name).item (.ofName y)).evaluate call (emitEnv trace own) (h.withCells ds) =
      .ok [(h.table p).get d] ((h.update p fun t => t.touch d.normalizeKey).withCells ds) := by
  have hpart : IsPart lists p := .inl (List.mem_cons_of_mem _ hp)
  have hobject := hf.wired.evaluate call (hf.wired.sees_emit trace hown) hg hfree ds
  have hkey := evaluate_local call (emitEnv trace own) 0 hy hd
  have hmeta : ((h.update p fun t => t.touch d.normalizeKey).table p).metatable = none := by
    rw [Heap.table_update (hf.isPart_lt hpart).2, if_pos rfl, (Table.moved_touch _ _).metatable]
    have hplace : ∀ q ∈ [slotsPlace, emitsPlace], (q, none) ∈ metatables := by decide
    exact hf.wired.metatable _ (hplace p hp)
  have hcell : (emitEnv trace own).objectCell? (.ofName name) = none := by
    obtain ⟨hown, hcaptured⟩ := cells_of_free 0 hfree
    rw [Env.objectCell?, Expr.ofName, hown, hcaptured]
  refine evaluate_index hcell hobject hkey fun call => ?_
  refine Operation.index_eq (h := h.withCells ds) call d fun _ m hm => ?_
  have hnone := hm.symm.trans hmeta
  cases hnone

/-- A value is stored in a table of the registry. -/
theorem Wired.execute_store (hw : Wired h) {name y : String} {e : Expr} {ds₁ : List Datum}
    {key : Datum} (hg : (name, Datum.table p) ∈ globals) {own : List (String × ℕ)}
    (hown : own.lookup Env.globalsName = none) (hfree : (emitEnv trace own).cell? name = none)
    (hy : own.lookup y = some (h'.cells.size + i))
    (he : e.evaluate call (emitEnv trace own) (h.withCells ds) = .ok [d] (h'.withCells ds₁))
    (hd : ds₁[i]? = some key) (hkey : key.isKey = true)
    (hu : Operation.Unhandled h' p "__newindex") :
    (Stmt.setIndex (.ofName name) (.ofName y) e).execute call (emitEnv trace own)
        (h.withCells ds) =
      .ok (.next, emitEnv trace own) ((h'.update p fun t => t.set key d).withCells ds₁) := by
  have hobject := hw.evaluate call (hw.sees_emit trace hown) hg hfree ds
  exact execute_setIndex (places_global 0 hfree hobject hy) he rfl (Run.readCell_local hd)
    fun call => Operation.setIndex_eq (h := h'.withCells ds₁) call hkey d hu

theorem Wired.evaluate_emptyArray (hw : Wired h) (htrace : trace.hosted < Trace.hostedLimit)
    (depth : ℕ) (own : List (String × ℕ)) (hown : own.lookup Env.globalsName = none)
    (hfree : (emitEnv trace own).cell? "Array" = none) (ds : List Datum) :
    emptyArray.evaluate (Call.within (depth + 1)) (emitEnv trace own) (h.withCells ds) =
      .ok [.table h.tables.size] (((h.push .empty).update h.tables.size
        fun t => { t with metatable := some arrayType }).withCells
          (ds ++ [Datum.table 20, .table h.tables.size])) := by
  have hname := hw.evaluate (Call.within (depth + 1)) (hw.sees_emit trace hown)
    (g := ("Array", .table 20)) (by decide) hfree ds
  have hitems : Expr.evaluateAll (Call.within (depth + 1)) [.tableOf []] (emitEnv trace own)
      (h.withCells ds) = .ok [.table h.tables.size] ((h.push .empty).withCells ds) :=
    evaluate_tableOf_nil _ _ _
  have hfresh : ((h.push .empty).table h.tables.size).metatable = none := by
    rw [Heap.table_push_self]
    rfl
  have htrace' : ((emitEnv trace own).trace 0).hosted < Trace.hostedLimit := htrace
  exact evaluate_call hname hitems ((hw.push .empty).makesArray htrace' depth hfresh ds)

end Statements

/-! A new slot. -/

/-- A registry after a key that it did not know has its slot. -/
def opened (h : Heap) (key : Datum) (n : ℕ) : Heap :=
  ((((h.update keysPlace fun t => t.set (.int (Int64.ofNat n)) key).update slotsPlace
    fun t => t.set (slotKey key) (.int (Int64.ofNat n))).push .empty).update h.tables.size
      fun t => { t with metatable := some arrayType }).update emitsPlace
        fun t => t.set (.int (Int64.ofNat n)) (.table h.tables.size)

theorem cells_opened (h : Heap) (key : Datum) (n : ℕ) : (opened h key n).cells = h.cells := by
  simp only [opened, Heap.cells_update, Heap.cells_push]

theorem closures_opened (h : Heap) (key : Datum) (n : ℕ) :
    (opened h key n).closures = h.closures := by
  simp only [opened, Heap.closures_update, Heap.closures_push]

theorem size_opened (h : Heap) (key : Datum) (n : ℕ) :
    (opened h key n).tables.size = h.tables.size + 1 := by
  simp [opened]

theorem table_opened (hsize : 29 ≤ h.tables.size) (key : Datum) (n : ℕ) {q : ℕ}
    (hq : q < h.tables.size) : (opened h key n).table q =
      if q = emitsPlace then (h.table q).set (.int (Int64.ofNat n)) (.table h.tables.size)
      else if q = slotsPlace then (h.table q).set (slotKey key) (.int (Int64.ofNat n))
      else if q = keysPlace then (h.table q).set (.int (Int64.ofNat n)) key
      else h.table q := by
  have hplaces : keysPlace < 29 ∧ slotsPlace < 29 ∧ emitsPlace < 29 := by decide
  have hapart : emitsPlace ≠ slotsPlace ∧ emitsPlace ≠ keysPlace ∧ slotsPlace ≠ keysPlace := by
    decide
  have hkeys (r : ℕ) := Heap.table_update (h := h)
    (f := fun t => t.set (.int (Int64.ofNat n)) key) (hplaces.1.trans_le hsize) r
  set h₁ := h.update keysPlace fun t => t.set (.int (Int64.ofNat n)) key
  have hsize₁ : h₁.tables.size = h.tables.size := Heap.size_update _ _ _
  have hslots (r : ℕ) := Heap.table_update (h := h₁)
    (f := fun t => t.set (slotKey key) (.int (Int64.ofNat n)))
    (hplaces.2.1.trans_le (hsize.trans hsize₁.ge)) r
  set h₂ := h₁.update slotsPlace fun t => t.set (slotKey key) (.int (Int64.ofNat n))
  have hsize₂ : h₂.tables.size = h.tables.size := (Heap.size_update _ _ _).trans hsize₁
  have hother (r : ℕ) (hr : r < h.tables.size) : ((h₂.push .empty).update h.tables.size
      fun t => { t with metatable := some arrayType }).table r = h₂.table r := by
    rw [Heap.table_update (by simp [hsize₂]), if_neg hr.ne,
      Heap.table_push _ (hr.trans_eq hsize₂.symm)]
  rw [opened, Heap.table_update (by simp; omega), hother q hq,
    hother emitsPlace (by omega), hslots, hkeys, hslots, hkeys]
  simp only [hapart, if_false]
  split_ifs with hemits hslot hkey
  · rw [hemits]
  · rw [hslot, hkeys, if_neg hapart.2.2]
  · rw [hkey, hkeys, if_pos rfl]
  · rw [hkeys, if_neg hkey]

theorem table_opened_new (hsize : 29 ≤ h.tables.size) (key : Datum) (n : ℕ) :
    (opened h key n).table h.tables.size = ⟨#[], [], 0, 0, some arrayType⟩ := by
  have hplace : emitsPlace < 29 := by decide
  rw [opened, Heap.table_update (by simp; omega), if_neg (by omega),
    Heap.table_update (by simp), if_pos rfl]
  have hnew (h' : Heap) (hh : h'.tables.size = h.tables.size) :
      (h'.push .empty).table h.tables.size = .empty := by
    rw [← hh, Heap.table_push_self]
  rw [hnew _ (by simp)]
  rfl

theorem table_keys_opened (hsize : 29 ≤ h.tables.size) (key : Datum) (n : ℕ) :
    (opened h key n).table keysPlace =
      (h.table keysPlace).setKey (.int (Int64.ofNat n)) key := by
  rw [table_opened hsize key n (Nat.lt_of_lt_of_le (by decide) hsize), if_neg (by decide),
    if_neg (by decide), if_pos rfl]
  rfl

theorem table_slots_opened (hsize : 29 ≤ h.tables.size) (key : Datum) (n : ℕ) :
    (opened h key n).table slotsPlace =
      (h.table slotsPlace).setKey (filedUnder key) (.int (Int64.ofNat n)) := by
  rw [table_opened hsize key n (Nat.lt_of_lt_of_le (by decide) hsize), if_neg (by decide),
    if_pos rfl]
  rfl

theorem table_emits_opened (hsize : 29 ≤ h.tables.size) (key : Datum) (n : ℕ) :
    (opened h key n).table emitsPlace =
      (h.table emitsPlace).setKey (.int (Int64.ofNat n)) (.table h.tables.size) := by
  rw [table_opened hsize key n (Nat.lt_of_lt_of_le (by decide) hsize), if_pos rfl]
  rfl

theorem table_other_opened (hsize : 29 ≤ h.tables.size) (key : Datum) (n : ℕ) {q : ℕ}
    (hq : q < h.tables.size) (hne : q < keysPlace ∨ 29 ≤ q) :
    (opened h key n).table q = h.table q := by
  have hplaces : keysPlace < slotsPlace ∧ slotsPlace < emitsPlace ∧ emitsPlace < 29 := by decide
  rw [table_opened hsize key n hq, if_neg (by omega), if_neg (by omega), if_neg (by omega)]

theorem samePrelude_opened (hsize : 29 ≤ h.tables.size) (key : Datum) (n : ℕ) :
    SamePrelude h (opened h key n) := by
  intro q _ hq
  have hplace : keysPlace < 29 := by decide
  exact table_other_opened hsize key n (by omega) (.inl hq)

theorem keeps_opened (hsize : 29 ≤ h.tables.size) (key : Datum) (n : ℕ) :
    Keeps h (opened h key n) := by
  have hplace : keysPlace < 29 := by decide
  refine .of_tables (by rw [size_opened]; omega) (cells_opened h key n) (closures_opened h key n)
    (fun q hq => table_other_opened hsize key n (by omega) (.inl hq)) ?_
  refine List.forall_mem_cons.mpr
    ⟨?_, List.forall_mem_cons.mpr ⟨?_, List.forall_mem_singleton.mpr ?_⟩⟩
  · rw [table_keys_opened hsize, Table.setKey_metatable]
  · rw [table_slots_opened hsize, Table.setKey_metatable]
  · rw [table_emits_opened hsize, Table.setKey_metatable]

theorem Filed.samePrelude_update (hf : Filed h ks lists calls) (hp : IsPart lists p) :
    SamePrelude h (h.update p f) :=
  Registry.samePrelude_update (.inr (hf.isPart_lt hp).1) (hf.isPart_lt hp).2

/-- The slots of the keys before stay, and the new key has the next one. -/
theorem known_opened (hf : Filed h ks lists calls) {key : Datum}
    (hnew : filedUnder key ∉ ks.map filedUnder) (i : ℕ) (k : Datum)
    (hi : (ks ++ [key])[i]? = some k) :
    ((opened h key (ks.length + 1)).table slotsPlace).getKey (filedUnder k) =
      .int (Int64.ofNat (i + 1)) := by
  rw [table_slots_opened hf.wired.tables_le, (Table.setKey_spec hf.slots _ _).2]
  rcases Nat.lt_trichotomy i ks.length with hlt | rfl | hgt
  · rw [List.getElem?_append_left hlt] at hi
    rw [if_neg, hf.known i k hi]
    rintro heq
    exact hnew (heq ▸ List.mem_map_of_mem (List.mem_of_getElem? hi))
  · obtain rfl : key = k := by simpa using hi
    rw [if_pos rfl]
  · rw [List.getElem?_eq_none (by simp; omega)] at hi
    cases hi

/-- The new array is apart from those before. -/
theorem Filed.size_notMem (hf : Filed h ks lists calls) :
    h.tables.size ∉ lists.map Prod.fst := by
  intro hmem
  obtain ⟨l, hl, heq⟩ := List.mem_map.mp hmem
  exact (hf.place l hl).2.ne heq

theorem filed_opened (hf : Filed h ks lists calls) {key : Datum} (hkey : key.isNil = false)
    (hnew : filedUnder key ∉ ks.map filedUnder) (hsmall : ks.length + 1 < 2 ^ 63) :
    Filed (opened h key (ks.length + 1)) (ks ++ [key]) (lists ++ [(h.tables.size, [])]) calls := by
  have hsize := hf.wired.tables_le
  have hlist (l) (hl : l ∈ lists) : (opened h key (ks.length + 1)).table l.1 = h.table l.1 :=
    table_other_opened hsize key _ (hf.place l hl).2 (.inr (hf.place l hl).1)
  constructor
  case wired => exact hf.wired.keeps (keeps_opened hsize key _)
  case keys =>
    rw [table_keys_opened hsize]
    exact hf.keys.push hkey hsmall
  case slots =>
    rw [table_slots_opened hsize]
    exact (Table.setKey_spec hf.slots _ _).1
  case known => exact known_opened hf hnew
  case unknown =>
    intro d hd
    rw [List.map_append, List.mem_append, not_or] at hd
    rw [table_slots_opened hsize, (Table.setKey_spec hf.slots _ _).2,
      if_neg (by simpa using hd.2), hf.unknown d hd.1]
  case emits =>
    have hpush := hf.emits.push (d := .table h.tables.size) rfl
      (by rw [List.length_map, hf.length]; exact hsmall)
    rw [List.length_map, hf.length] at hpush
    rwa [table_emits_opened hsize, List.map_append]
  case length => rw [List.length_append, List.length_append, hf.length, List.length_singleton,
    List.length_singleton]
  case nodup =>
    rw [List.map_append]
    exact hf.nodup.append (List.nodup_singleton _) (by simpa using hf.size_notMem)
  case place =>
    refine List.forall_mem_append.mpr ⟨fun l hl => ?_, List.forall_mem_singleton.mpr ?_⟩
    · rw [size_opened]
      exact ⟨(hf.place l hl).1, (hf.place l hl).2.trans (Nat.lt_succ_self _)⟩
    · rw [size_opened]
      exact ⟨hsize, Nat.lt_succ_self _⟩
  case values =>
    refine List.forall_mem_append.mpr ⟨fun l hl => ?_, List.forall_mem_singleton.mpr ?_⟩
    · rw [hlist l hl]
      exact hf.values l hl
    · rw [table_opened_new hsize]
      exact Table.lists_empty _ _ _ (Nat.zero_le _)
  case array =>
    refine List.forall_mem_append.mpr ⟨fun l hl => ?_, List.forall_mem_singleton.mpr ?_⟩
    · rw [hlist l hl]
      exact hf.array l hl
    · rw [table_opened_new hsize]
  case count =>
    rw [table_other_opened hsize key _ (by omega) (.inl (by decide))]
    exact hf.count

theorem int_isKey (n : ℕ) : (Datum.int (Int64.ofNat n)).isKey = true := rfl

theorem set_metatable (t : Table) (key value : Datum) :
    (t.set key value).metatable = t.metatable := Table.setKey_metatable t _ value

section Execute

variable {trace : Trace} {k v s : Datum}

/-- A slot has an array of its own for its values. -/
theorem Wired.execute_newArray (hw : Wired h) (htrace : trace.hosted < Trace.hostedLimit)
    (depth : ℕ) (k v s : Datum) (n : ℕ) :
    (Stmt.setIndex (.ofName emitsName) (.ofName "slot") emptyArray).execute
        (Call.within (depth + 1)) (emitEnv trace (own₄ h.cells.size))
        (h.withCells [k, v, s, .int (Int64.ofNat n)]) =
      .ok (.next, emitEnv trace (own₄ h.cells.size))
        ((((h.push .empty).update h.tables.size
            fun t => { t with metatable := some arrayType }).update emitsPlace
              fun t => t.set (.int (Int64.ofNat n)) (.table h.tables.size)).withCells
          [k, v, s, .int (Int64.ofNat n), .table 20, .table h.tables.size]) := by
  have harray := hw.evaluate_emptyArray htrace depth (own₄ h.cells.size) rfl rfl
    [k, v, s, .int (Int64.ofNat n)]
  have hcells : ((h.push .empty).update h.tables.size
      fun t => { t with metatable := some arrayType }).cells = h.cells := by
    rw [Heap.cells_update, Heap.cells_push]
  have hw' : Wired ((h.push .empty).update h.tables.size
      fun t => { t with metatable := some arrayType }) := by
    have hplace : ∀ q ∈ [keysPlace, slotsPlace, emitsPlace], q < 29 := by decide
    have hsize := hw.tables_le
    refine (hw.push .empty).update (Nat.le_trans (by decide) hsize) (by simp) fun hmem => ?_
    exact absurd (hplace _ hmem) (Nat.not_lt.mpr hsize)
  exact hw.execute_store (by decide) rfl rfl (i := 3) (by rw [hcells]; rfl) harray rfl
    (int_isKey _)
    (hw'.unhandled (by decide) (.inl (hw'.metatable (emitsPlace, none) (by decide))))

/-- A key that is not known gets the next slot, and an array for its values. -/
theorem execute_newSlot (hf : Filed h ks lists calls) (htrace : trace.hosted < Trace.hostedLimit)
    (depth : ℕ) (k v : Datum) :
    Block.execute (Call.within (depth + 1)) newSlot (emitEnv trace (own₄ h.cells.size)) atBlockEnd
        (h.withCells [k, v, slotKey k, .nil]) =
      .ok .next ((opened (h.update keysPlace fun t =>
          { t with edge := (h.table keysPlace).findBorder.2 }) k (ks.length + 1)).withCells
        [k, v, slotKey k, .int (Int64.ofNat (ks.length + 1)), .table 20,
          .table h.tables.size]) := by
  have hplaces : keysPlace < 29 ∧ slotsPlace < 29 := by decide
  set m : Datum := .int (Int64.ofNat (ks.length + 1))
  set e := emitEnv trace (own₄ h.cells.size)
  set call := Call.within (depth + 1)
  -- The next slot.
  have hname : (Expr.ofName keysName).evaluate call e (h.withCells [k, v, slotKey k, .nil]) =
      .ok [.table keysPlace] (h.withCells [k, v, slotKey k, .nil]) :=
    hf.wired.evaluate call (hf.wired.sees_emit trace rfl) (g := (keysName, .table keysPlace))
      (by decide) rfl _
  have hlen : Operation.Unhandled h keysPlace "__len" := hf.wired.unhandled (by decide)
    (.inr (hf.wired.metatable (keysPlace, some arrayType) (by decide)))
  have hnext := evaluate_next call hname hlen hf.keys
  have hw₁ := (hf.search (.inl (by simp)) hf.keys).wired
  set h₁ := h.update keysPlace fun t => { t with edge := (h.table keysPlace).findBorder.2 }
  have hslot : (Stmt.set "slot" (plusOne (Expr.ofName keysName).length)).execute call e
      (h.withCells [k, v, slotKey k, .nil]) =
      .ok (.next, e) (h₁.withCells [k, v, slotKey k, m]) := execute_set (i := 3) rfl hnext
  -- The key.
  have hw₂ : Wired (h₁.update keysPlace fun t => t.set m k) :=
    hw₁.update le_rfl (hplaces.1.trans_le hw₁.tables_le) fun _ t => set_metatable t m k
  have hkey : (Stmt.setIndex (.ofName keysName) (.ofName "slot") (.ofName "key")).execute call e
      (h₁.withCells [k, v, slotKey k, m]) =
      .ok (.next, e) ((h₁.update keysPlace fun t => t.set m k).withCells
        [k, v, slotKey k, m]) :=
    hw₁.execute_store (by decide) rfl rfl (i := 3) rfl (evaluate_local call e 0 (i := 0) rfl rfl)
      rfl (int_isKey _)
      (hw₁.unhandled (by decide) (.inr (hw₁.metatable (keysPlace, some arrayType) (by decide))))
  set h₂ := h₁.update keysPlace fun t => t.set m k
  -- Its slot.
  have hw₃ : Wired (h₂.update slotsPlace fun t => t.set (slotKey k) m) :=
    hw₂.update (by decide) (hplaces.2.trans_le hw₂.tables_le) fun _ t => set_metatable t _ m
  have hstored : (Stmt.setIndex (.ofName slotsName) (.ofName "slot_key") (.ofName "slot")).execute
      call e (h₂.withCells [k, v, slotKey k, m]) =
      .ok (.next, e) ((h₂.update slotsPlace fun t => t.set (slotKey k) m).withCells
        [k, v, slotKey k, m]) :=
    hw₂.execute_store (by decide) rfl rfl (i := 2) rfl (evaluate_local call e 0 (i := 3) rfl rfl)
      rfl (slotKey_isKey k)
      (hw₂.unhandled (by decide) (.inl (hw₂.metatable (slotsPlace, none) (by decide))))
  set h₃ := h₂.update slotsPlace fun t => t.set (slotKey k) m
  have hsize : h₃.tables.size = h.tables.size := by simp [h₃, h₂, h₁]
  have hopened : opened h₁ k (ks.length + 1) = ((h₃.push .empty).update h₃.tables.size
      fun t => { t with metatable := some arrayType }).update emitsPlace
        fun t => t.set m (.table h₃.tables.size) := by
    rw [opened, hsize, Heap.size_update]
  rw [hopened, ← hsize]
  calc Block.execute call newSlot e atBlockEnd (h.withCells [k, v, slotKey k, .nil])
      = _ := execute_cons (by simp [Stmt.set]) hslot _ _
    _ = _ := execute_cons (by simp [Stmt.setIndex]) hkey _ _
    _ = _ := execute_cons (by simp [Stmt.setIndex]) hstored _ _
    _ = _ := execute_cons (by simp [Stmt.setIndex])
      (hw₃.execute_newArray htrace depth k v (slotKey k) _) _ _

/-- What a registry becomes by a key: it knows the key, or the key comes last. -/
def Opens (ks : List Datum) (lists : List (ℕ × List Datum)) (key : Datum) (ks' : List Datum)
    (lists' : List (ℕ × List Datum)) : Prop :=
  (filedUnder key ∈ ks.map filedUnder ∧ ks' = ks ∧ lists' = lists) ∨
    (filedUnder key ∉ ks.map filedUnder ∧ ks' = ks ++ [key] ∧
      ∃ p, lists' = lists ++ [(p, [])])

/-- The slot of the key is found or made. -/
theorem execute_slot (hf : Filed h ks lists calls) (htrace : trace.hosted < Trace.hostedLimit)
    (depth : ℕ) (hk : k.isNil = false) (hsmall : ks.length + 1 < 2 ^ 63) (v : Datum) (rest : Block)
    (atEnd : Env → Run Flow) :
    ∃ h' ks' lists' i extra, h'.cells = h.cells ∧ SamePrelude h h' ∧
      Filed h' ks' lists' calls ∧ Opens ks lists k ks' lists' ∧
      (ks'[i]?).map filedUnder = some (filedUnder k) ∧
      Block.execute (Call.within (depth + 1))
          (.bind "slot" ((Expr.ofName slotsName).item (.ofName "slot_key")) ::
            .when (.isNil (.ofName "slot")) newSlot :: rest)
          (emitEnv trace (own₃ h.cells.size)) atEnd (h.withCells [k, v, slotKey k]) =
        Block.execute (Call.within (depth + 1)) rest (emitEnv trace (own₄ h.cells.size)) atEnd
          (h'.withCells ([k, v, slotKey k, .int (Int64.ofNat (i + 1))] ++ extra)) := by
  set call := Call.within (depth + 1)
  have hitem : ((Expr.ofName slotsName).item (.ofName "slot_key")).evaluate call
      (emitEnv trace (own₃ h.cells.size)) (h.withCells [k, v, slotKey k]) =
      .ok [(h.table slotsPlace).get (slotKey k)]
        ((h.update slotsPlace fun t => t.touch (filedUnder k)).withCells [k, v, slotKey k]) :=
    hf.evaluate_item (by decide) (by simp) rfl rfl (i := 2) rfl rfl
  have hf₁ := hf.touch (p := slotsPlace) (.inl (by simp)) (filedUnder k)
  have hsame₁ : SamePrelude h (h.update slotsPlace fun t => t.touch (filedUnder k)) :=
    hf.samePrelude_update (.inl (by simp))
  set h₁ := h.update slotsPlace fun t => t.touch (filedUnder k)
  have hfound : (h.table slotsPlace).get (slotKey k) =
      (h.table slotsPlace).getKey (filedUnder k) := rfl
  by_cases hmem : filedUnder k ∈ ks.map filedUnder
  · obtain ⟨i, hi⟩ := List.mem_iff_getElem?.mp hmem
    rw [List.getElem?_map] at hi
    obtain ⟨k₀, hk₀, heq⟩ := Option.map_eq_some_iff.mp hi
    rw [hfound, ← heq, hf.known i k₀ hk₀] at hitem
    have hcondition : (Expr.isNil (.ofName "slot")).evaluate call
        (emitEnv trace (own₄ h.cells.size))
        (h₁.withCells [k, v, slotKey k, .int (Int64.ofNat (i + 1))]) = .ok [.boolean false]
          (h₁.withCells [k, v, slotKey k, .int (Int64.ofNat (i + 1))]) :=
      evaluate_isNil call (i := 3) (d := .int _) rfl rfl
    refine ⟨h₁, ks, lists, i, [], rfl, hsame₁, hf₁, .inl ⟨hmem, rfl, rfl⟩, hi, ?_⟩
    exact (execute_cons (by simp [Stmt.bind]) (execute_bind hitem) _ _).trans
      (execute_cons (by simp [Stmt.when]) (execute_when_false _ hcondition) _ _)
  · rw [hfound, hf.unknown _ hmem] at hitem
    have hcondition : (Expr.isNil (.ofName "slot")).evaluate call
        (emitEnv trace (own₄ h.cells.size)) (h₁.withCells [k, v, slotKey k, .nil]) =
        .ok [.boolean true] (h₁.withCells [k, v, slotKey k, .nil]) :=
      evaluate_isNil call (i := 3) (d := .nil) rfl rfl
    have hopen := execute_newSlot hf₁ htrace depth k v
    have hf₂ := hf₁.search (.inl (by simp)) hf₁.keys
    have hsame₂ : SamePrelude h (h₁.update keysPlace fun t =>
        { t with edge := (h₁.table keysPlace).findBorder.2 }) :=
      hsame₁.trans (hf₁.samePrelude_update (.inl (by simp)))
    set h₂ := h₁.update keysPlace fun t => { t with edge := (h₁.table keysPlace).findBorder.2 }
    refine ⟨opened h₂ k (ks.length + 1), ks ++ [k], lists ++ [(h₂.tables.size, [])], ks.length,
      [.table 20, .table h₁.tables.size], cells_opened h₂ k _,
      hsame₂.trans (samePrelude_opened hf₂.wired.tables_le k _), filed_opened hf₂ hk hmem hsmall,
      .inr ⟨hmem, rfl, _, rfl⟩, by simp, ?_⟩
    exact (execute_cons (by simp [Stmt.bind]) (execute_bind hitem) _ _).trans
      (execute_cons (by simp [Stmt.when]) (execute_when_true hcondition hopen) _ _)

end Execute

/-! A value more, and a call more. -/

theorem map_fst_set {i q : ℕ} {l : List Datum} (hi : lists[i]? = some (q, l)) (l' : List Datum) :
    (lists.set i (q, l')).map Prod.fst = lists.map Prod.fst := by
  obtain ⟨hlt, heq⟩ := List.getElem?_eq_some_iff.mp hi
  have hlt' : i < (lists.map Prod.fst).length := by rwa [List.length_map]
  have hget : (lists.map Prod.fst)[i] = q := by simp [heq]
  rw [List.map_set]
  exact (congrArg ((lists.map Prod.fst).set i) hget.symm).trans (List.set_getElem_self hlt')

/-- The lists that stay, and the one that is changed. -/
theorem Filed.mem_set (hf : Filed h ks lists calls) {i q : ℕ} {l more : List Datum}
    (hi : lists[i]? = some (q, l)) {l' : ℕ × List Datum} (hl' : l' ∈ lists.set i (q, more)) :
    l' = (q, more) ∨ l' ∈ lists ∧ l'.1 ≠ q := by
  obtain ⟨j, hj⟩ := List.mem_iff_getElem?.mp hl'
  rw [List.getElem?_set] at hj
  split_ifs at hj with hij hlength
  · exact .inl (Option.some_inj.mp hj).symm
  · refine .inr ⟨List.mem_of_getElem? hj, fun heq => hij ?_⟩
    have hi' : (lists.map Prod.fst)[i]? = some q := by rw [List.getElem?_map, hi]; rfl
    have hj' : (lists.map Prod.fst)[j]? = some q := by rw [List.getElem?_map, hj, ← heq]; rfl
    obtain ⟨hilt, hi'⟩ := List.getElem?_eq_some_iff.mp hi'
    obtain ⟨hjlt, hj'⟩ := List.getElem?_eq_some_iff.mp hj'
    exact hf.nodup.getElem_inj_iff.mp (hi'.trans hj'.symm)

theorem filed_pushed (hf : Filed h ks lists calls) {i q : ℕ} {l : List Datum}
    (hi : lists[i]? = some (q, l)) {d : Datum} (hd : d.isNil = false)
    (hsmall : l.length + 1 < 2 ^ 63) :
    Filed (h.update q fun t => t.set (.int (Int64.ofNat (l.length + 1))) d) ks
      (lists.set i (q, l ++ [d])) calls := by
  set f : Table → Table := fun t => t.set (.int (Int64.ofNat (l.length + 1))) d
  have hl := List.mem_of_getElem? hi
  obtain ⟨hlow, hlt⟩ : 29 ≤ q ∧ q < h.tables.size := hf.place _ hl
  have hother (r : ℕ) (hr : r ≠ q) : (h.update q f).table r = h.table r :=
    (Heap.table_update hlt r).trans (if_neg hr)
  have hself : (h.update q f).table q = f (h.table q) :=
    (Heap.table_update hlt q).trans (if_pos rfl)
  have hbelow (r : ℕ) (hr : r < 29) : (h.update q f).table r = h.table r := hother r (by omega)
  constructor
  case wired =>
    exact hf.wired.update (Nat.le_trans (by decide) hlow) hlt fun _ t => set_metatable t _ d
  case keys =>
    rw [hbelow keysPlace (by decide)]
    exact hf.keys
  case slots =>
    rw [hbelow slotsPlace (by decide)]
    exact hf.slots
  case known =>
    rw [hbelow slotsPlace (by decide)]
    exact hf.known
  case unknown =>
    rw [hbelow slotsPlace (by decide)]
    exact hf.unknown
  case emits =>
    have hnames : (lists.set i (q, l ++ [d])).map (fun l => Datum.table l.1) =
        lists.map fun l => .table l.1 := by
      have hfst := congrArg (List.map Datum.table) (map_fst_set hi (l ++ [d]))
      rwa [List.map_map, List.map_map] at hfst
    rw [hbelow emitsPlace (by decide), hnames]
    exact hf.emits
  case length => rw [List.length_set, hf.length]
  case nodup =>
    rw [map_fst_set hi]
    exact hf.nodup
  case place =>
    intro l' hl'
    rw [Heap.size_update]
    rcases hf.mem_set hi hl' with rfl | ⟨hl', -⟩
    · exact ⟨hlow, hlt⟩
    · exact hf.place l' hl'
  case values =>
    intro l' hl'
    rcases hf.mem_set hi hl' with rfl | ⟨hl', hne⟩
    · rw [hself]
      exact (hf.values _ hl).push hd hsmall
    · rw [hother l'.1 hne]
      exact hf.values l' hl'
  case array =>
    intro l' hl'
    rcases hf.mem_set hi hl' with rfl | ⟨hl', hne⟩
    · rw [hself, set_metatable]
      exact hf.array _ hl
    · rw [hother l'.1 hne]
      exact hf.array l' hl'
  case count =>
    rw [hbelow 0 (by decide)]
    exact hf.count

theorem getText_set {t : Table} (hv : t.Valid) (x : String) (d : Datum) (y : String) :
    (t.set (.ofText x) d).getText y = if y = x then d else t.getText y := by
  refine ((Table.setKey_spec hv (.ofText x) d).2 (.ofText y)).trans ?_
  exact if_congr (Table.ofText_inj y x) rfl rfl

theorem filed_counted (hf : Filed h ks lists calls) :
    Filed (h.update 0 fun t => t.set (.ofText emitCountName) (.int (Int64.ofNat (calls + 1)))) ks
      lists (calls + 1) := by
  set f : Table → Table :=
    fun t => t.set (.ofText emitCountName) (.int (Int64.ofNat (calls + 1)))
  have hlt : 0 < h.tables.size := Nat.lt_of_lt_of_le (by decide) hf.wired.tables_le
  have hother (r : ℕ) (hr : r ≠ 0) : (h.update 0 f).table r = h.table r :=
    (Heap.table_update hlt r).trans (if_neg hr)
  have hself : (h.update 0 f).table 0 = f (h.table 0) :=
    (Heap.table_update hlt 0).trans (if_pos rfl)
  have hvalid := hf.wired.globals_valid
  have hkeeps : Keeps h (h.update 0 f) := by
    refine ⟨(Heap.size_update _ _ _).ge, le_rfl, fun _ => ?_, fun g hg => ?_, fun m hm => ?_, ?_,
      fun x _ => ?_, fun _ _ => rfl, fun _ _ => rfl⟩
    · rw [hself]
      exact (Table.setKey_spec hvalid _ _).1
    · have hname : ∀ g ∈ globals, g.1 ≠ emitCountName := by decide
      rw [hself]
      exact (getText_set hvalid _ _ _).trans (if_neg (hname g hg))
    · by_cases hzero : m.1 = 0
      · rw [hzero, hself, set_metatable]
      · rw [hother _ hzero]
    · rw [hother 21 (by decide)]
    · rw [hother arrayType (by decide)]
  have hpart (r : ℕ) (hr : keysPlace ≤ r) : (h.update 0 f).table r = h.table r :=
    hother r (by
      have : 0 < keysPlace := by decide
      omega)
  have hlist (l) (hl : l ∈ lists) : (h.update 0 f).table l.1 = h.table l.1 :=
    hpart l.1 (Nat.le_trans (by decide) (hf.place l hl).1)
  constructor
  case wired => exact hf.wired.keeps hkeeps
  case keys => exact (hpart keysPlace le_rfl).symm ▸ hf.keys
  case slots => exact (hpart slotsPlace (by decide)).symm ▸ hf.slots
  case known => exact (hpart slotsPlace (by decide)).symm ▸ hf.known
  case unknown => exact (hpart slotsPlace (by decide)).symm ▸ hf.unknown
  case emits => exact (hpart emitsPlace (by decide)).symm ▸ hf.emits
  case length => exact hf.length
  case nodup => exact hf.nodup
  case place => exact fun l hl => ⟨(hf.place l hl).1, (hf.place l hl).2.trans_le hkeeps.tables_le⟩
  case values => exact fun l hl => (hlist l hl).symm ▸ hf.values l hl
  case array => exact fun l hl => (hlist l hl).symm ▸ hf.array l hl
  case count =>
    rw [hself]
    exact (getText_set hvalid _ _ _).trans (if_pos rfl)

end Registry

end Docbase.MapReduce
