import Docbase.Proofs.Script.Equality
import Docbase.Proofs.Script.Metatables
import Docbase.Script.Scope

/-!
The comparisons that a fresh scope has: `coerce`, which takes a value for a number, and the two
functions that compare numbers by it, with all that these three work with.
-/
namespace Docbase.Script

open Docbase.Script.Expr (ofName callName)

/-- A comparison of the prelude: its function, the variable around it that holds the function to
compare numbers with, and that function, which sees the comparisons that were made before it. -/
structure Comparison where
  op : BinaryOp
  place : ℕ
  cell : ℕ
  inner : ℕ
  before : List (String × ℕ)

namespace Comparison

def less : Comparison := ⟨.lt, 7, 7, 6, []⟩
def lessEqual : Comparison := ⟨.le, 9, 9, 8, [("less", 8)]⟩
def all : List Comparison := [less, lessEqual]

/-- The event that metatables have the comparison under. -/
def event (c : Comparison) : String := Operation.eventName c.op

/-- `null`, its metatable and those of dates and arrays. -/
def null : Datum := .table 6
def nullType : ℕ := 7
def dateType : ℕ := 12
def arrayType : ℕ := 19

/-- `coerce`, and the variable that holds it. -/
def coercePlace : ℕ := 4
def coerceCell : ℕ := 5

/-- The variables that all functions of the prelude see from there on. -/
def shared : List (String × ℕ) :=
  [("coerce", coerceCell), ("sentinel", 1), (Env.globalsName, Heap.globalsCell)]

/-! The body of `coerce`. -/

def typeIsNumber : Expr := .eq (callName "type" [ofName "v"]) (.string "number")
def isNull : Expr := callName "rawequal" [ofName "v", ofName "null"]
def typeIsNoTable : Expr := .ne (callName "type" [ofName "meta"]) (.string "table")
def isNamed (x : String) : Expr := .eq ((ofName "meta").field "__name") (.string x)
def hasLength (n : Int64) : Expr := .eq (ofName "v").length (.int n)

def handOnItem : Block := [.giveOne (callName "coerce" [(ofName "v").item (.int 1)])]

/-- What is done with an array. -/
def ofArray : Block :=
  [.branch (hasLength 0) [.giveOne (.int 0)] [.when (hasLength 1) handOnItem]]

/-- What is done with a value that has a metatable. -/
def ofNamed : Block :=
  [.when (isNamed "Date") [.giveOne ((ofName "v").field "ms")], .when (isNamed "Array") ofArray,
    .giveOne .nil]

def coerceBody : Block :=
  .when typeIsNumber [.giveOne (ofName "v")] :: .when isNull [.giveOne (.int 0)] ::
    .bind "meta" (callName "getmetatable" [ofName "v"]) ::
    .when typeIsNoTable [.giveOne .nil] :: ofNamed

def coerceClosure : Closure := ⟨none, ["v"], false, coerceBody, shared⟩

/-! The functions of a comparison. -/

def orderedBody : Block :=
  [.declare [⟨"x", false⟩, ⟨"y", false⟩]
      [callName "coerce" [ofName "a"], callName "coerce" [ofName "b"]],
    .when (.or (.isNil (ofName "x")) (.isNil (ofName "y"))) [.giveOne (.boolean false)],
    .giveOne (callName "op" [ofName "x", ofName "y"])]

def closure (c : Comparison) : Closure :=
  ⟨none, ["a", "b"], false, orderedBody, ("op", c.cell) :: ("ordered", 6) :: shared⟩

def innerClosure (c : Comparison) : Closure :=
  ⟨none, ["x", "y"], false, [.giveOne (.operation c.op (ofName "x") (ofName "y"))],
    c.before ++ ("ordered", 6) :: shared⟩

/-! What the comparisons work with. -/

def globals : List (String × Datum) :=
  [("null", null), ("type", .primitive .type), ("rawequal", .primitive .rawequal),
    ("getmetatable", .primitive .getmetatable)]

def cells : List (ℕ × Datum) :=
  (Heap.globalsCell, .table Heap.globals) :: (coerceCell, .closure coercePlace) ::
    all.map fun c => (c.cell, .closure c.inner)

def closures : List (ℕ × Closure) :=
  (coercePlace, coerceClosure) ::
    all.flatMap fun c => [(c.place, c.closure), (c.inner, c.innerClosure)]

/-- All that the comparisons of the prelude work with is as the prelude has made it. -/
structure Wired (h : Heap) : Prop where
  cells_le : 10 ≤ h.cells.size
  measurable : ∀ p, (h.table p).Measurable
  global : ∀ g ∈ globals, (h.table 0).getText g.1 = g.2
  cell : ∀ c ∈ cells, h.cell c.1 = c.2
  closure : ∀ c ∈ closures, h.closure c.1 = c.2
  handler : ∀ m ∈ [nullType, dateType, arrayType], ∀ c ∈ all,
    (h.table m).getText c.event = .closure c.place

def isWired (h : Heap) : Bool :=
  10 ≤ h.cells.size &&
    h.tables.all (fun t => t.items.size < 2 ^ 63 && t.edge ≤ t.items.size) &&
    globals.all (fun g => (h.table 0).getText g.1 == g.2) &&
    cells.all (fun c => h.cell c.1 == c.2) &&
    closures.all (fun c => h.closure c.1 == c.2) &&
    [nullType, dateType, arrayType].all fun m =>
      all.all fun c => (h.table m).getText c.event == .closure c.place

theorem wired_of_isWired {h : Heap} (hwired : isWired h = true) : Wired h := by
  simp only [isWired, Bool.and_eq_true, decide_eq_true_eq, Array.all_eq_true, List.all_eq_true,
    beq_iff_eq] at hwired
  obtain ⟨⟨⟨⟨⟨hcells, hmeasurable⟩, hglobal⟩, hcell⟩, hclosure⟩, hhandler⟩ := hwired
  refine ⟨hcells, fun p => ?_, hglobal, hcell, hclosure, hhandler⟩
  rcases Nat.lt_or_ge p h.tables.size with hp | hp
  · have htable : h.table p = h.tables[p] := by simp [Heap.table, hp]
    rw [htable]
    exact ⟨(hmeasurable p hp).1, (hmeasurable p hp).2⟩
  · have htable : h.table p = .empty := by simp [Heap.table, hp]
    rw [htable]
    exact ⟨by decide, le_rfl⟩

/-- A fresh scope has its comparisons. -/
theorem wired_fresh : Wired Heap.fresh := wired_of_isWired (by decide +kernel)

theorem eq_of_mem_all {c : Comparison} (hc : c ∈ all) : c = less ∨ c = lessEqual := by
  simpa [all] using hc

variable {h h' : Heap} {c : Comparison}

theorem Wired.outerClosure (hw : Wired h) (hc : c ∈ all) : h.closure c.place = c.closure :=
  hw.closure (c.place, c.closure)
    (List.mem_cons_of_mem _ (List.mem_flatMap.mpr ⟨c, hc, List.mem_cons_self⟩))

theorem Wired.innerClosure (hw : Wired h) (hc : c ∈ all) : h.closure c.inner = c.innerClosure :=
  hw.closure (c.inner, c.innerClosure)
    (List.mem_cons_of_mem _ (List.mem_flatMap.mpr ⟨c, hc, by simp⟩))

theorem Wired.asked (hw : Wired h) (ha : h.Asked h') : Wired h' where
  cells_le := hw.cells_le.trans ha.cells_le
  measurable p := (ha.table p).measurable (hw.measurable p)
  global g hg := (ha.getText 0 g.1).trans (hw.global g hg)
  cell c hc := by
    have hlt : ∀ c ∈ cells, c.1 < 10 := by decide
    exact (ha.cell c.1 ((hlt c hc).trans_le hw.cells_le)).trans (hw.cell c hc)
  closure c hc := by
    rw [← hw.closure c hc, Heap.closure, Heap.closure, ha.closures]
  handler m hm c hc := (ha.getText m c.event).trans (hw.handler m hm c hc)

end Comparison

end Docbase.Script
