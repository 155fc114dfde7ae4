import Docbase.Script.Scope

/-!
The scripts around the functions of a job. Keys are told apart as keys of a table, so texts,
numbers and booleans group by value and tables each stand for themselves.
-/
namespace Docbase.MapReduce

open Docbase.Script
open Docbase.Script.Expr (callName ofName)

/-- The globals that hold the functions of a job. -/
def mapName : String := "__mr_map"
def reduceName : String := "__mr_reduce"
def finalizeName : String := "__mr_finalize"

/-- The keys in the order in which they were first emitted. -/
def keysName : String := "__mr_keys"

/-- The slots of the keys, and the values of each slot. -/
def slotsName : String := "__mr_slots"
def emitsName : String := "__mr_emits"

/-- One result for each key. -/
def reducedName : String := "__mr_reduced"

def emitCountName : String := "__mr_emit_count"

def emptyArray : Expr := callName "Array" [.tableOf []]
def plusOne (e : Expr) : Expr := .operation .add e (.int 1)
def nullIfNil (x : String) : Stmt := .when (.isNil (ofName x)) [.set x (ofName "null")]

/-- A key that is not known gets the next slot, with no values yet. -/
def newSlot : Block :=
  [.set "slot" (plusOne (ofName keysName).length),
    .setIndex (ofName keysName) (ofName "slot") (ofName "key"),
    .setIndex (ofName slotsName) (ofName "slot_key") (ofName "slot"),
    .setIndex (ofName emitsName) (ofName "slot") emptyArray]

/-- What `emit` does: every NaN has the same slot. -/
def emitBody : Block :=
  [nullIfNil "key", nullIfNil "value",
    .bind "slot_key" (ofName "key"),
    .when ((ofName "key").ne (ofName "key")) [.set "slot_key" (ofName "nan_slot")],
    .bind "slot" ((ofName slotsName).item (ofName "slot_key")),
    .when (.isNil (ofName "slot")) newSlot,
    .bind "values" ((ofName emitsName).item (ofName "slot")),
    .setIndex (ofName "values") (plusOne (ofName "values").length) (ofName "value"),
    .set emitCountName (plusOne (ofName emitCountName))]

/-- `emit(key, value)` files a value under its key. Nil counts as `null`. -/
def emit : Stmt := .define "emit" ["key", "value"] emitBody

/-- The registry of keys and values, with `emit`. -/
def registry : Block :=
  [.set keysName emptyArray, .set slotsName (.tableOf []), .set emitsName (.tableOf []),
    .set reducedName emptyArray, .set emitCountName (.int 0), .bind "nan_slot" (.tableOf []), emit]

/-- Calls a function with the key and something else for each slot, and keeps what it gives
as the slot's result. -/
private def forEachSlot (local_ f other : String) : Block :=
  [.numericFor 0 "slot" (.int 1) (ofName keysName).length none
    [.bind local_ (callName f
        [(ofName keysName).item (ofName "slot"), (ofName other).item (ofName "slot")]),
      nullIfNil local_,
      .setIndex (ofName reducedName) (ofName "slot") (ofName local_)]]

/-- Reduces the values of each key, in the order of the keys. -/
def reduceUnit : Block := forEachSlot "reduced" reduceName emitsName

/-- Passes each result through the final function. -/
def finalizeUnit : Block := forEachSlot "finalized" finalizeName reducedName

/-- The statement that maps one document. -/
def mapCall (d : Document) : String :=
  "__with_document(" ++ Literal.document d ++ ", " ++ mapName ++ ")\n"

end Docbase.MapReduce
