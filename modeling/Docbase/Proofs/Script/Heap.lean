import Docbase.Script.Evaluate
import Mathlib.Tactic

/-!
What computations leave of the heap. A computation that only makes new tables, cells and
functions, or changes tables of its own, keeps all that was there before.
-/
namespace Docbase.Script

namespace Heap

/-- The function at a place. -/
def closure (h : Heap) (place : ℕ) : Closure := h.closures.getD place default

def cell (h : Heap) (place : ℕ) : Datum := h.cells.getD place .nil

/-- All that is in the first heap is in the second one, but for the tables that may change. -/
structure Grows (changed : ℕ → Prop) (h h' : Heap) : Prop where
  tables_le : h.tables.size ≤ h'.tables.size
  cells_le : h.cells.size ≤ h'.cells.size
  closures_le : h.closures.size ≤ h'.closures.size
  table : ∀ p, p < h.tables.size → ¬changed p → h'.table p = h.table p
  cell : ∀ c, c < h.cells.size → h'.cell c = h.cell c
  closure : ∀ c, c < h.closures.size → h'.closure c = h.closure c

/-- No table changes. -/
abbrev Keeps : Heap → Heap → Prop := Grows fun _ => False

variable {changed : ℕ → Prop} {h h' h'' : Heap}

theorem Grows.refl (h : Heap) : Grows changed h h :=
  ⟨le_rfl, le_rfl, le_rfl, fun _ _ _ => rfl, fun _ _ => rfl, fun _ _ => rfl⟩

theorem Grows.trans (hab : Grows changed h h') (hbc : Grows changed h' h'') :
    Grows changed h h'' where
  tables_le := hab.tables_le.trans hbc.tables_le
  cells_le := hab.cells_le.trans hbc.cells_le
  closures_le := hab.closures_le.trans hbc.closures_le
  table p hp hc := (hbc.table p (hp.trans_le hab.tables_le) hc).trans (hab.table p hp hc)
  cell c hc := (hbc.cell c (hc.trans_le hab.cells_le)).trans (hab.cell c hc)
  closure c hc := (hbc.closure c (hc.trans_le hab.closures_le)).trans (hab.closure c hc)

/-- Tables that are not there yet may change as well. -/
theorem Grows.weaken {more : ℕ → Prop} (hab : Grows changed h h')
    (himp : ∀ p, p < h.tables.size → changed p → more p) : Grows more h h' :=
  { hab with table := fun p hp hc => hab.table p hp fun hchanged => hc (himp p hp hchanged) }

theorem Keeps.grows (hab : Keeps h h') : Grows changed h h' := hab.weaken fun _ _ => False.elim

end Heap

/-! Single steps. -/

namespace Run

open Heap

variable {h h' : Heap}

theorem bind_ok {ε σ α β : Type} {x : EStateM ε σ α} {f : α → EStateM ε σ β} {a : α} {s s' : σ}
    (hx : x s = .ok a s') : (x >>= f) s = f a s' := by
  change EStateM.bind x f s = _
  rw [EStateM.bind, hx]

theorem bind_error {ε σ α β : Type} {x : EStateM ε σ α} {f : α → EStateM ε σ β} {e : ε} {s s' : σ}
    (hx : x s = .error e s') : (x >>= f) s = .error e s' := by
  change EStateM.bind x f s = _
  rw [EStateM.bind, hx]

theorem bind_congr {ε σ α β : Type} {x y : EStateM ε σ α} {f : α → EStateM ε σ β} {s s' : σ}
    (hx : x s = y s') : (x >>= f) s = (y >>= f) s' := by
  change EStateM.bind x f s = EStateM.bind y f s'
  rw [EStateM.bind, EStateM.bind, hx]

theorem placed_ok {α : Type} {x : Run α} {a : α} (f : Frame) (hx : x h = .ok a h') :
    placed f x h = .ok a h' := by
  rw [placed, hx]

theorem table_push (h : Heap) (t : Table) (p : ℕ) (hp : p < h.tables.size) :
    Heap.table { h with tables := h.tables.push t } p = h.table p := by
  simp [Heap.table, Array.getElem?_push, hp.ne]

theorem allocate_keeps (t : Table) (h : Heap) :
    ∃ h', allocate t h = .ok h.tables.size h' ∧ Keeps h h' ∧
      h'.tables.size = h.tables.size + 1 ∧ h'.table h.tables.size = t := by
  refine ⟨_, rfl, ⟨by simp, le_rfl, le_rfl, fun p hp _ => table_push h t p hp, fun _ _ => rfl,
    fun _ _ => rfl⟩, by simp, by simp [Heap.table]⟩

theorem modifyTable_grows (place : ℕ) (f : Table → Table) (h : Heap)
    (hplace : place < h.tables.size) :
    ∃ h', modifyTable place f h = .ok () h' ∧ Grows (· = place) h h' ∧
      h'.tables.size = h.tables.size ∧ h'.table place = f (h.table place) := by
  refine ⟨_, rfl, ⟨by simp, le_rfl, le_rfl, fun p hp hc => ?_, fun _ _ => rfl, fun _ _ => rfl⟩,
    by simp, ?_⟩
  · simp [Heap.table, Array.getElem?_modify, Ne.symm hc]
  · simp [Heap.table, Array.getElem_modify, hplace]

theorem newCell_keeps (d : Datum) (h : Heap) :
    ∃ h', newCell d h = .ok h.cells.size h' ∧ Keeps h h' ∧
      h'.cells.size = h.cells.size + 1 ∧ h'.cell h.cells.size = d ∧ h'.tables = h.tables := by
  refine ⟨_, rfl, ⟨le_rfl, by simp, le_rfl, fun _ _ _ => rfl, fun c hc => ?_, fun _ _ => rfl⟩,
    by simp, by simp [Heap.cell], rfl⟩
  simp [Heap.cell, Array.getElem?_push, hc.ne]

/-- What a text names in a table. -/
theorem rawGet_text (place : ℕ) (x : String) (h : Heap) :
    rawGet place (.ofText x) h = .ok ((h.table place).getText x) h := rfl

/-- The result of a loop whose second turn ends it. -/
theorem iterate_result {σ α : Type} {step : σ → Run (σ ⊕ α)} {s : σ} {a : α}
    (hstep : step s h = .ok (.inr a) h') (turns : ℕ) :
    iterate step (turns + 1) s h = .ok a h' := by
  rw [iterate, bind_ok hstep]
  rfl

theorem iterate_next {σ α : Type} {step : σ → Run (σ ⊕ α)} {s s' : σ}
    (hstep : step s h = .ok (.inl s') h') (turns : ℕ) :
    iterate step (turns + 1) s h = iterate step turns s' h' := by
  rw [iterate, bind_ok hstep]

end Run

end Docbase.Script
