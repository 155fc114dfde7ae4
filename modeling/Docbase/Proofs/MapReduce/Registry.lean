import Docbase.Proofs.MapReduce.Emission
import Docbase.Proofs.Script.Locals

/-!
The registry in a fresh scope: the tables that it files keys and values in, and what else
`emit` works with.
-/
namespace Docbase.MapReduce

open Docbase.Script

namespace Registry

/-! Where the registry of a fresh scope is. -/

def keysPlace : ℕ := 24
def slotsPlace : ℕ := 25
def emitsPlace : ℕ := 26

/-- The table that stands for NaN among the keys of slots. -/
def nanPlace : ℕ := 28

/-- The metatable of arrays. -/
def arrayType : ℕ := 19

/-- `emit` as a value. -/
def emitPlace : ℕ := 28

/-- A fresh scope with the registry. -/
def fresh : Heap :=
  match Run.script none registry (.table Heap.globals) .fresh with
  | .ok _ h => h
  | .error _ h => h

/-- The globals that `emit` reads, and `emit` itself. -/
def globals : List (String × Datum) :=
  [("null", null), ("Array", .table 20), ("setmetatable", .primitive .setmetatable),
    (keysName, .table keysPlace), (slotsName, .table slotsPlace), (emitsName, .table emitsPlace),
    ("emit", .closure emitPlace)]

def metatables : List (ℕ × Option ℕ) :=
  [(0, none), (20, some 21), (keysPlace, some arrayType), (slotsPlace, none), (emitsPlace, none)]

/-- The cells that `emit` and the constructor of arrays read. -/
def cells : List (ℕ × Datum) := [(0, .table 0), (17, .table arrayType), (23, .table nanPlace)]

/-- The events of the operations that `emit` does on arrays. -/
def events : List String := ["__len", "__index", "__newindex"]

def emitClosure : Closure :=
  ⟨none, ["key", "value"], false, emitBody, [("nan_slot", 23), (Env.globalsName, 0)]⟩

/-- All that `emit` works with, but for what the tables of the registry hold. -/
structure Wired (h : Heap) : Prop where
  tables_le : 29 ≤ h.tables.size
  cells_le : 24 ≤ h.cells.size
  globals_valid : (h.table 0).Valid
  global : ∀ g ∈ globals, (h.table 0).getText g.1 = g.2
  metatable : ∀ m ∈ metatables, (h.table m.1).metatable = m.2
  array : (h.table 21).getText "__call" = .closure 23
  silent : ∀ x ∈ events, (h.table arrayType).getText x = .nil
  cell : ∀ c ∈ cells, h.cell c.1 = c.2
  constructor : (h.closure 23).IsOf .array (some ("ArrayType", 17))
  emit : h.closure emitPlace = emitClosure

/-- Whether a heap has a registry without any keys. -/
def isFresh (h : Heap) : Bool :=
  h.tables.size == 29 && h.cells.size == 24 &&
    (h.table 0).isRecord && decide ((h.table 0).fields.map Prod.fst).Nodup &&
    globals.all (fun g => (h.table 0).getText g.1 == g.2) &&
    metatables.all (fun m => (h.table m.1).metatable == m.2) &&
    (h.table 21).getText "__call" == .closure 23 &&
    events.all (fun x => (h.table arrayType).getText x == .nil) &&
    cells.all (fun c => h.cell c.1 == c.2) &&
    (h.closure 23).isOf .array (some ("ArrayType", 17)) &&
    (h.closure emitPlace).unit.isNone && (h.closure emitPlace).params == emitClosure.params &&
    !(h.closure emitPlace).variadic && Block.same (h.closure emitPlace).body emitBody &&
    (h.closure emitPlace).captured == emitClosure.captured &&
    [keysPlace, slotsPlace, emitsPlace].all (fun p =>
      (h.table p).items.isEmpty && (h.table p).fields.isEmpty && (h.table p).edge == 0) &&
    (h.table 0).getText emitCountName == .int 0

theorem fresh_isFresh : isFresh fresh = true := by decide +kernel

theorem wired_of_isFresh {h : Heap} (hfresh : isFresh h = true) : Wired h := by
  simp only [isFresh, Bool.and_eq_true, beq_iff_eq, List.all_eq_true, decide_eq_true_eq] at hfresh
  obtain ⟨⟨⟨⟨⟨⟨⟨⟨⟨⟨⟨⟨⟨⟨⟨⟨hsize, hcells⟩, hrecord⟩, hnodup⟩, hglobal⟩, hmeta⟩, harray⟩, hsilent⟩,
    hcell⟩, hconstructor⟩, hunit⟩, hparams⟩, hfixed⟩, hbody⟩, hcaptured⟩, -⟩, -⟩ := hfresh
  refine ⟨hsize.ge, hcells.ge, Table.valid_of_isRecord hrecord hnodup, hglobal, hmeta, harray,
    hsilent, hcell, Closure.isOf_spec _ _ _ hconstructor, ?_⟩
  generalize h.closure emitPlace = c at hunit hparams hfixed hbody hcaptured ⊢
  obtain ⟨unit, params, variadic, body, captured⟩ := c
  obtain rfl : unit = none := Option.isNone_iff_eq_none.mp hunit
  obtain rfl : variadic = false := by simpa using hfixed
  obtain rfl : body = emitBody := Block.eq_of_same _ _ hbody
  subst hparams hcaptured
  rfl

/-! Heaps that keep what `emit` works with. -/

/-- Nothing that `emit` works with is changed, but for what tables of the registry hold. -/
structure Keeps (h h' : Heap) : Prop where
  tables_le : h.tables.size ≤ h'.tables.size
  cells_le : h.cells.size ≤ h'.cells.size
  globals_valid : (h.table 0).Valid → (h'.table 0).Valid
  global : ∀ g ∈ globals, (h'.table 0).getText g.1 = (h.table 0).getText g.1
  metatable : ∀ m ∈ metatables, (h'.table m.1).metatable = (h.table m.1).metatable
  array : (h'.table 21).getText "__call" = (h.table 21).getText "__call"
  silent : ∀ x ∈ events, (h'.table arrayType).getText x = (h.table arrayType).getText x
  cell : ∀ c ∈ cells, h'.cell c.1 = h.cell c.1
  closure : ∀ p ∈ [23, emitPlace], h'.closure p = h.closure p

variable {h h' : Heap} {p : ℕ} {f : Table → Table}

theorem Wired.keeps (hw : Wired h) (hk : Keeps h h') : Wired h' where
  tables_le := hw.tables_le.trans hk.tables_le
  cells_le := hw.cells_le.trans hk.cells_le
  globals_valid := hk.globals_valid hw.globals_valid
  global g hg := (hk.global g hg).trans (hw.global g hg)
  metatable m hm := (hk.metatable m hm).trans (hw.metatable m hm)
  array := hk.array.trans hw.array
  silent x hx := (hk.silent x hx).trans (hw.silent x hx)
  cell c hc := (hk.cell c hc).trans (hw.cell c hc)
  constructor := by
    rw [hk.closure 23 (by simp)]
    exact hw.constructor
  emit := (hk.closure emitPlace (by simp)).trans hw.emit

/-- Tables that are not the prelude's change, with their metatables as they are. -/
theorem Keeps.of_tables (hsize : h.tables.size ≤ h'.tables.size) (hcells : h'.cells = h.cells)
    (hclosures : h'.closures = h.closures)
    (hprelude : ∀ q < keysPlace, h'.table q = h.table q)
    (hmeta : ∀ q ∈ [keysPlace, slotsPlace, emitsPlace],
      (h'.table q).metatable = (h.table q).metatable) : Keeps h h' where
  tables_le := hsize
  cells_le := by rw [hcells]
  globals_valid := by rw [hprelude 0 (by decide)]; exact id
  global g _ := by rw [hprelude 0 (by decide)]
  metatable m hm := by
    have hplace : ∀ m ∈ metatables,
        m.1 < keysPlace ∨ m.1 ∈ [keysPlace, slotsPlace, emitsPlace] := by
      decide
    rcases hplace m hm with hlt | hmem
    · rw [hprelude _ hlt]
    · exact hmeta _ hmem
  array := by rw [hprelude 21 (by decide)]
  silent x _ := by rw [hprelude arrayType (by decide)]
  cell c _ := by rw [Heap.cell, Heap.cell, hcells]
  closure q _ := by rw [Heap.closure, Heap.closure, hclosures]

theorem Wired.update (hw : Wired h) (hp : keysPlace ≤ p) (hlt : p < h.tables.size)
    (hmeta : p ∈ [keysPlace, slotsPlace, emitsPlace] → ∀ t, (f t).metatable = t.metatable) :
    Wired (h.update p f) := by
  refine hw.keeps (.of_tables (Heap.size_update h p f).ge rfl rfl (fun q hq => ?_) fun q hq => ?_)
  · rw [Heap.table_update hlt, if_neg (by omega)]
  · rw [Heap.table_update hlt]
    split_ifs with heq
    · rw [hmeta (heq ▸ hq), heq]
    · rfl

theorem Wired.keeps_withCells (hw : Wired h) (ds : List Datum) : Keeps h (h.withCells ds) := by
  refine ⟨le_rfl, by simp [Heap.withCells], id, fun _ _ => rfl, fun _ _ => rfl, rfl,
    fun _ _ => rfl, fun c hc => ?_, fun _ _ => rfl⟩
  have hplace : ∀ c ∈ cells, c.1 < 24 := by decide
  exact Heap.cell_withCells ((hplace c hc).trans_le hw.cells_le) ds

theorem Wired.keeps_push (hw : Wired h) (t : Table) : Keeps h (h.push t) := by
  have htable (q : ℕ) (hq : q < 29) : (h.push t).table q = h.table q :=
    Heap.table_push t (hq.trans_le hw.tables_le)
  refine .of_tables (by simp) rfl rfl (fun q hq => htable q ?_) fun q hq => ?_
  · exact hq.trans (by decide)
  · have hplace : ∀ q ∈ [keysPlace, slotsPlace, emitsPlace], q < 29 := by decide
    rw [htable q (hplace q hq)]

theorem Wired.push (hw : Wired h) (t : Table) : Wired (h.push t) := hw.keeps (hw.keeps_push t)

theorem Wired.unhandled (hw : Wired h) {event : String} (he : event ∈ events)
    (hp : (h.table p).metatable = none ∨ (h.table p).metatable = some arrayType) :
    Operation.Unhandled h p event := by
  intro m hm
  rcases hp with hp | hp
  · rw [hp] at hm
    cases hm
  · rw [hp, Option.some_inj] at hm
    subst hm
    exact hw.silent event he

/-! What the prelude made. -/

/-- The tables of the prelude are the same; the table of the globals may differ. -/
def SamePrelude (h h' : Heap) : Prop := ∀ q, 0 < q → q < keysPlace → h'.table q = h.table q

theorem SamePrelude.trans {h'' : Heap} (hs : SamePrelude h h') (hs' : SamePrelude h' h'') :
    SamePrelude h h'' := fun q hpos hlt => (hs' q hpos hlt).trans (hs q hpos hlt)

theorem samePrelude_update (hp : p = 0 ∨ keysPlace ≤ p) (hlt : p < h.tables.size) :
    SamePrelude h (h.update p f) := by
  intro q hpos hq
  rw [Heap.table_update hlt, if_neg (by omega)]

/-! Calls of the constructor of arrays. -/

/-- What sees the globals of the scope. -/
theorem Wired.sees (hw : Wired h) {env : Env} (hown : env.own.lookup Env.globalsName = none)
    (hcaptured : env.captured.lookup Env.globalsName = some 0) : env.Global h where
  own := hown
  captured := hcaptured
  cell_lt := Nat.lt_of_lt_of_le (by decide) hw.cells_le
  cell := hw.cell (0, .table 0) (by decide)

theorem Wired.evaluate (hw : Wired h) (call : Dispatch) {env : Env} (hg : env.Global h)
    {g : String × Datum} (hmem : g ∈ globals) (hfree : env.cell? g.1 = none) (ds : List Datum) :
    (Expr.ofName g.1).evaluate call env (h.withCells ds) = .ok [g.2] (h.withCells ds) := by
  have hpresent : ∀ g ∈ globals, g.2.isNil = false := by decide
  exact evaluate_free call 0 hg hfree (hw.global g hmem) (hpresent g hmem) ds

/-- An array is made of a table: it gets the metatable of arrays. -/
theorem Wired.makesArray (hw : Wired h) {trace : Trace}
    (htrace : trace.hosted < Trace.hostedLimit) (depth : ℕ) (hfree : (h.table p).metatable = none)
    (ds : List Datum) :
    Call.within (depth + 1) trace (.table 20) [.table p] (h.withCells ds) =
      .ok [.table p] ((h.update p fun t => { t with metatable := some arrayType }).withCells
        (ds ++ [Datum.table 20, .table p])) := by
  obtain ⟨turns, hturns⟩ := within_eq htrace depth (.table 20) [.table p] (h := h.withCells ds)
  have hc := hw.constructor
  set own : List (String × ℕ) :=
    [("items", h.cells.size + (ds ++ [Datum.table 20]).length), ("_", h.cells.size + ds.length)]
  set env : Env := ⟨own, (h.closure 23).captured, [], none, trace, true⟩
  set h₁ : Heap := h.withCells (ds ++ [Datum.table 20, .table p])
  have hg : env.Global h := hw.sees rfl hc.globals
  have hhandler : Call.step (Call.within depth) trace ⟨none, .table 20, [.table p]⟩
      (h.withCells ds) = .ok (.inl ⟨none, .closure 23, [.table 20, .table p]⟩)
        (h.withCells ds) := by
    have hmeta : ((h.withCells ds).table 20).metatable = some 21 :=
      hw.metatable (20, some 21) (by decide)
    have hcall := Operation.metamethod_some hmeta "__call"
    rw [show ((h.withCells ds).table 21).getText "__call" = .closure 23 from hw.array] at hcall
    exact Run.bind_ok hcall
  have hbind : Run.bindAll ["_", "items"] [.table 20, .table p] [] (h.withCells ds) =
      .ok own h₁ := by
    have hfirst := Run.newCell_local h ds (.table 20)
    have hsecond := Run.newCell_local h (ds ++ [Datum.table 20]) (.table p)
    rw [List.append_assoc] at hsecond
    exact (Run.bind_ok hfirst).trans (Run.bind_ok hsecond)
  have hname : (Expr.ofName "setmetatable").evaluate (Call.within depth) env h₁ =
      .ok [.primitive .setmetatable] h₁ := by
    refine hw.evaluate _ hg (g := ("setmetatable", .primitive .setmetatable)) (by decide) ?_ _
    rw [Env.cell?_of_captured rfl]
    exact hc.library "setmetatable" (by simp)
  have hfields : Constructor.array.fields.evaluate (Call.within depth) env h₁ =
      .ok [.table p] h₁ := by
    refine evaluate_or (evaluate_local _ _ 0 (i := ds.length + 1) ?_ ?_) rfl
    · rw [show h.cells.size + (ds.length + 1) = h.cells.size + (ds ++ [Datum.table 20]).length by
        simp]
      rfl
    · simp
  have htype : Constructor.array.metatable.evaluate (Call.within depth) env h₁ =
      .ok [.table arrayType] h₁ := by
    have hcell := evaluate_captured (Call.within depth) env 0 (x := "ArrayType") rfl
      (hc.type ("ArrayType", 17) rfl) (Nat.lt_of_lt_of_le (by decide) hw.cells_le)
      (ds ++ [Datum.table 20, .table p])
    rwa [hw.cell (17, .table arrayType) (by decide)] at hcell
  have hargs : Expr.evaluateAll (Call.within depth)
      [Constructor.array.fields, Constructor.array.metatable] env h₁ =
      .ok [.table p, .table arrayType] h₁ := (Run.bind_ok hfields).trans (Run.bind_ok htype)
  have hbody : Call.step (Call.within depth) trace
      ⟨none, .closure 23, [.table 20, .table p]⟩ (h.withCells ds) =
      .ok (.inl ⟨some .host, .primitive .setmetatable, [.table p, .table arrayType]⟩) h₁ :=
    step_closure none hc.eq hbind (execute_result rfl hname hargs)
  have hset : Library.setmetatable [.table p, .table arrayType] h₁ = .ok [.table p]
      ((h.update p fun t => { t with metatable := some arrayType }).withCells
        (ds ++ [Datum.table 20, .table p])) :=
    Run.bind_ok (Operation.metamethod_none (h := h₁) hfree "__metatable")
  have hlast : Call.step (Call.within depth) trace
      ⟨some .host, .primitive .setmetatable, [.table p, .table arrayType]⟩ h₁ = .ok
        (.inr [.table p]) ((h.update p fun t => { t with metatable := some arrayType }).withCells
          (ds ++ [Datum.table 20, .table p])) := Run.bind_ok (Run.placed_ok _ hset)
  rw [hturns, Run.iterate_next hhandler, Run.iterate_next hbody]
  exact Run.iterate_result hlast _

end Registry

end Docbase.MapReduce
