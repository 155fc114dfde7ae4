import Docbase.Script.Table
import Docbase.Script.Trace

/-!
The heap of a script scope, and computations on it: each ends with a result or with a fault,
and leaves the heap as it is then.
-/
namespace Docbase.Script

/-- A function of a script. It sees the variables around it, each in its cell; functions of
no unit have no position. -/
structure Closure where
  unit : Option Bytes
  params : List String
  variadic : Bool
  body : Block
  captured : List (String × Nat)
  deriving Inhabited

structure Heap where
  tables : Array Table
  cells : Array Datum
  closures : Array Closure
  threads : Nat

namespace Heap

/-- The place of the table of globals. -/
def globals : Nat := 0

/-- The place of the metatable that all texts share. -/
def textMetatable : Nat := 1

/-- The cell of the variable that holds the globals, for all units that never assign to it. -/
def globalsCell : Nat := 0

def table (h : Heap) (place : Nat) : Table := h.tables.getD place .empty

end Heap

/-- What a computation fails with: a value that was raised, or a failure of which it is not
yet told where it happened. -/
inductive Fault where
  | raised (d : Datum)
  | failed (message : String)

def Fault.datum : Fault → Datum
  | .raised d => d
  | .failed message => .ofText message

/-- A computation ends with a result or a fault; the heap as it is then goes on. -/
abbrev Run := EStateM Fault Heap

namespace Run

def raise (error : Datum) : Run α := throw (.raised error)

def fail (message : String) : Run α := throw (.failed message)

/-- Tells of failures where they happened. -/
def placed (f : Frame) (x : Run α) : Run α := fun h =>
  match x h with
  | .error (.failed message) h =>
    .error (.raised (.text (f.position ++ Utf8.encode message))) h
  | result => result

/-- Catches what is raised. -/
def attempt (x : Run α) : Run (Except Datum α) := fun h =>
  match x h with
  | .ok a h => .ok (.ok a) h
  | .error fault h => .ok (.error fault.datum) h

def readTable (place : Nat) : Run Table := fun h => .ok (h.table place) h

def modifyTable (place : Nat) (f : Table → Table) : Run Unit := fun h =>
  .ok () { h with tables := h.tables.modify place f }

/-- The place of a new table. -/
def allocate (t : Table) : Run Nat := fun h =>
  .ok h.tables.size { h with tables := h.tables.push t }

def newTable (t : Table) : Run Datum := do return .table (← allocate t)

def readCell (cell : Nat) : Run Datum := fun h => .ok (h.cells.getD cell .nil) h

def writeCell (cell : Nat) (d : Datum) : Run Unit := fun h =>
  .ok () { h with cells := h.cells.setIfInBounds cell d }

def newCell (d : Datum) : Run Nat := fun h =>
  .ok h.cells.size { h with cells := h.cells.push d }

def readClosure (place : Nat) : Run Closure := fun h => .ok (h.closures.getD place default) h

def newClosure (c : Closure) : Run Datum := fun h =>
  .ok (.closure h.closures.size) { h with closures := h.closures.push c }

def newThread : Run Datum := fun h => .ok (.thread h.threads) { h with threads := h.threads + 1 }

/-- The value of a key without regard to metatables. -/
def rawGet (place : Nat) (key : Datum) : Run Datum := fun h =>
  let key := key.normalizeKey
  let value := (h.table place).getKey key
  match key with
  | .int _ => .ok value { h with tables := h.tables.modify place fun t => t.touch key }
  | _ => .ok value h

/-- A border of a table. -/
def findBorder (place : Nat) : Run Nat := fun h =>
  let (border, edge) := (h.table place).findBorder
  .ok border { h with tables := h.tables.modify place fun t => { t with edge := edge } }

def rawSet (place : Nat) (key value : Datum) : Run Unit :=
  if key.isNil then fail "table index is nil"
  else if !key.isKey then fail "table index is NaN"
  else modifyTable place fun t => t.set key value

/-- Fresh cells for variables, the last one innermost. -/
def bindAll : List String → List Datum → List (String × Nat) → Run (List (String × Nat))
  | [], _, cells => pure cells
  | x :: xs, ds, cells => do
    let cell ← newCell (ds.headD .nil)
    bindAll xs ds.tail ((x, cell) :: cells)

end Run

/-- A way to call a function with arguments. -/
abbrev Callee := Datum → List Datum → Run (List Datum)

/-- A way to call functions on behalf of those that are running. -/
abbrev Dispatch := Trace → Callee

end Docbase.Script
