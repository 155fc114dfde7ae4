import Docbase.Proofs.Script.Border
import Docbase.Proofs.Script.Locals

/-!
What metatables tell of values as long as no function is called: the handlers of events, the
metatable that scripts see, and the fields that tables in the place of `__index` give. All of it
stays the same while tables are only asked for their length.
-/
namespace Docbase.Script

namespace Heap

/-- The place of the metatable of a value. -/
def metatable? (h : Heap) : Datum → Option ℕ
  | .table place => (h.table place).metatable
  | .text _ => some textMetatable
  | _ => none

/-- What the metatable of a value holds for an event. -/
def handler (h : Heap) (d : Datum) (event : String) : Datum :=
  match h.metatable? d with
  | some m => (h.table m).getText event
  | none => .nil

/-- The metatable of a value as scripts see it. -/
def shownMetatable (h : Heap) (d : Datum) : Datum :=
  match h.metatable? d with
  | some m =>
    let shield := (h.table m).getText "__metatable"
    if shield.isNil then .table m else shield
  | none => .nil

/-- A field of a table, also as a chain of tables in the place of `__index` gives it; none where
the chain comes to anything else, or is too long. -/
def fieldFrom (h : Heap) (x : String) : ℕ → ℕ → Option Datum
  | 0, _ => none
  | fuel + 1, place =>
    let own := (h.table place).getText x
    if own.isNil then
      match h.handler (.table place) "__index" with
      | .nil => some .nil
      | .table next => h.fieldFrom x fuel next
      | _ => none
    else some own

def field? (h : Heap) (x : String) (place : ℕ) : Option Datum :=
  h.fieldFrom x Operation.chainLimit place

/-- The name that the metatable of a value gives it; nil if it gives none. -/
def tag? (h : Heap) (d : Datum) : Option Datum :=
  match h.shownMetatable d with
  | .table m => h.field? "__name" m
  | _ => some .nil

end Heap

/-! Operations that look at metatables. -/

namespace Operation

variable {h : Heap} {p : ℕ}

theorem metatable?_eq (d : Datum) (h : Heap) : metatable? d h = .ok (h.metatable? d) h := by
  cases d <;> rfl

theorem metamethod_eq (d : Datum) (event : String) (h : Heap) :
    metamethod d event h = .ok (h.handler d event) h := by
  refine (Run.bind_ok (metatable?_eq d h)).trans ?_
  rw [Heap.handler]
  cases h.metatable? d <;> rfl

theorem unhandled_of_handler {event : String} (hhandler : h.handler (.table p) event = .nil) :
    Unhandled h p event := by
  intro m hm
  rwa [Heap.handler, Heap.metatable?, hm] at hhandler

theorem binaryHandler_eq (event : String) (a b : Datum) (h : Heap) :
    binaryHandler event a b h =
      .ok (if (h.handler a event).isNil then h.handler b event else h.handler a event) h := by
  refine (Run.bind_ok (metamethod_eq a event h)).trans ?_
  split_ifs
  · exact metamethod_eq b event h
  · rfl

theorem compared?_eq {call : Callee} {event : String} {a b f : Datum} {ds : List Datum} {h' : Heap}
    (hhandler : binaryHandler event a b h = .ok f h) (hf : f.isNil = false)
    (hcall : call f [a, b] h = .ok ds h') :
    compared? call event a b h = .ok (some (first ds).isTrue) h' := by
  refine (Run.bind_ok hhandler).trans ?_
  rw [hf]
  exact Run.bind_ok hcall

theorem indexFrom_eq (call : Callee) {x : String} {fuel : ℕ} {d : Datum}
    (hfield : h.fieldFrom x fuel p = some d) :
    indexFrom call (.ofText x) fuel (.table p) h = .ok d h := by
  induction fuel generalizing p with
  | zero => cases hfield
  | succ fuel ih =>
    rw [Heap.fieldFrom] at hfield
    refine (Run.bind_ok (Run.rawGet_text p x h)).trans ?_
    dsimp only
    cases hown : ((h.table p).getText x).isNil with
    | false =>
      rw [hown] at hfield
      obtain rfl := Option.some_inj.mp hfield
      rfl
    | true =>
      rw [hown, if_pos rfl] at hfield
      refine (Run.bind_ok (metamethod_eq (.table p) "__index" h)).trans ?_
      cases hhandler : h.handler (.table p) "__index" with
      | nil =>
        rw [hhandler] at hfield
        obtain rfl := Option.some_inj.mp hfield
        rfl
      | table next =>
        rw [hhandler] at hfield
        exact ih hfield
      | _ =>
        rw [hhandler] at hfield
        cases hfield

theorem index_field (call : Callee) {x : String} {d : Datum} (hfield : h.field? x p = some d) :
    index call (.table p) (.ofText x) h = .ok d h := indexFrom_eq call hfield

theorem equals_ofText (call : Callee) (d : Datum) (s : String) (h : Heap) :
    equals call d (.ofText s) h = .ok (decide (d = .ofText s)) h := by
  have hequal : d.rawEqual (.ofText s) = decide (d = .ofText s) := by
    cases d <;> rfl
  unfold equals
  rw [hequal]
  by_cases heq : d = .ofText s
  · simp only [heq, decide_true, if_true]
    rfl
  · simp only [heq, decide_false]
    cases d <;> rfl

theorem equals_int (call : Callee) (m n : Int64) (h : Heap) :
    equals call (.int m) (.int n) h = .ok (m == n) h := by
  unfold equals
  rw [show (Datum.int m).rawEqual (.int n) = (m == n) from rfl]
  cases m == n <;> rfl

end Operation

/-- The library function tells what scripts see. -/
theorem getmetatable_eq (d : Datum) (h : Heap) :
    Library.getmetatable [d] h = .ok [h.shownMetatable d] h := by
  refine (Run.bind_ok (Operation.metatable?_eq d h)).trans ?_
  rw [Heap.shownMetatable]
  cases h.metatable? d <;> rfl

theorem rawEqual_table (d : Datum) (p : ℕ) :
    d.rawEqual (.table p) = decide (d = .table p) := by
  cases d <;> rfl

/-! Heaps whose tables were asked for their length. -/

namespace Heap

/-- All that was there is there, and the same but for where searches for a border start. -/
structure Asked (h h' : Heap) : Prop where
  closures : h'.closures = h.closures
  cells_le : h.cells.size ≤ h'.cells.size
  cell : ∀ c < h.cells.size, h'.cell c = h.cell c
  table : ∀ p, (h.table p).Asked (h'.table p)

variable {h h' h'' : Heap} {p : ℕ}

theorem Asked.trans (ha : Asked h h') (hb : Asked h' h'') : Asked h h'' where
  closures := hb.closures.trans ha.closures
  cells_le := ha.cells_le.trans hb.cells_le
  cell c hc := (hb.cell c (hc.trans_le ha.cells_le)).trans (ha.cell c hc)
  table p := (ha.table p).trans (hb.table p)

theorem asked_withCells (h : Heap) (ds : List Datum) : Asked h (h.withCells ds) :=
  ⟨rfl, by simp [withCells], fun _ hc => cell_withCells hc ds, fun _ => .refl _⟩

theorem asked_update {f : Table → Table} (hf : (h.table p).Asked (f (h.table p))) :
    Asked h (h.update p f) := by
  refine ⟨rfl, le_rfl, fun _ _ => rfl, fun q => ?_⟩
  rcases Nat.lt_or_ge p h.tables.size with hp | hp
  · rw [table_update hp]
    split_ifs with hq
    · exact hq ▸ hf
    · exact .refl _
  · have hsame : (h.update p f).table q = h.table q := by
      simp only [update, table, Array.getD_eq_getD_getElem?, Array.getElem?_modify]
      split_ifs with hq
      · rw [Array.getElem?_eq_none (hq ▸ hp)]
        rfl
      · rfl
    rw [hsame]
    exact .refl _

theorem Asked.getText (ha : Asked h h') (p : ℕ) (x : String) :
    (h'.table p).getText x = (h.table p).getText x := (ha.table p).moved.getKey _

theorem Asked.metatable? (ha : Asked h h') (d : Datum) : h'.metatable? d = h.metatable? d := by
  cases d with
  | table p => exact (ha.table p).moved.metatable
  | _ => rfl

theorem Asked.handler (ha : Asked h h') (d : Datum) (event : String) :
    h'.handler d event = h.handler d event := by
  simp only [Heap.handler, ha.metatable?, ha.getText]

theorem Asked.shownMetatable (ha : Asked h h') (d : Datum) :
    h'.shownMetatable d = h.shownMetatable d := by
  simp only [Heap.shownMetatable, ha.metatable?, ha.getText]

theorem Asked.field? (ha : Asked h h') (x : String) (p : ℕ) : h'.field? x p = h.field? x p := by
  have hfrom (fuel : ℕ) (p : ℕ) : h'.fieldFrom x fuel p = h.fieldFrom x fuel p := by
    induction fuel generalizing p with
    | zero => rfl
    | succ fuel ih => simp only [fieldFrom, ha.getText, ha.handler, ih]
  exact hfrom _ p

theorem Asked.tag? (ha : Asked h h') (d : Datum) : h'.tag? d = h.tag? d := by
  simp only [Heap.tag?, ha.shownMetatable, ha.field?]

end Heap

end Docbase.Script
