import Docbase.MapReduce.Batch
import Docbase.MapReduce.Output
import Docbase.MapReduce.Registry
import Docbase.Settings
import Docbase.Unicode.Later

/-!
Jobs. The map function is called for each document and emits values under keys; the reduce
function makes one result of the values of each key, which a final function may change. All
scripts of a job run in one scope of their own.
-/
namespace Docbase.MapReduce

structure Job where
  map : String
  reduce : String
  finalize : Option String := none
  /-- Where the results go; by default they are given back. -/
  out : Value := .document [("inline", .int32 1)]
  query : Document := []
  sort : Document := []
  /-- How many documents are mapped at most; 0 is no limit. -/
  limit : Nat := 0
  /-- Globals that are there before the map function runs. -/
  scope : Document := []

/-- Whether there is nothing but blanks. -/
def isBlankText (s : String) : Bool := s.toList.all Unicode.isWhiteSpace

namespace Job

def validate (job : Job) : Except JobError Unit :=
  if isBlankText job.map then .error .mapMissing
  else if isBlankText job.reduce then .error .reduceMissing
  else if (job.finalize.map isBlankText).getD false then .error .finalizeEmpty
  else .ok ()

end Job

structure Counts where
  /-- Documents that were mapped. -/
  input : Nat
  /-- Calls of `emit` by the map function. -/
  emit : Nat
  /-- Keys that were reduced. -/
  reduce : Nat
  /-- Results that were written. -/
  output : Nat
  deriving DecidableEq, Repr

structure Outcome where
  results : Results
  counts : Counts

namespace Outcome

def inline? (o : Outcome) : Option (List Document) :=
  match o.results with
  | .inline docs => some docs
  | .collection .. => none

private def count (n : Nat) : Value := .int64 (Int64.ofInt (min n Int64.maxValue.toInt))

/-- The document that tells of success; the time is in milliseconds. -/
def toDocument (o : Outcome) (time : Nat) : Document :=
  let results : String × Value :=
    match o.results with
    | .inline docs => ("results", .array (docs.map .document))
    | .collection name db =>
      ("result", .document [("collection", .string name), ("db", .string db)])
  let counts : Document :=
    [("input", count o.counts.input), ("emit", count o.counts.emit),
      ("reduce", count o.counts.reduce), ("output", count o.counts.output)]
  [results, ("counts", .document counts), ("timeMillis", count time),
    ("ok", .double (.ofInt 1))]

end Outcome

/-! The scripts of a job. -/

/-- Steps in the scope of a job, whose errors tell the unit. -/
abbrev JobM := EStateM ScriptError Scope

/-- A step as a unit with a name and the text it is known by. -/
def inUnit (name script : String) (x : ScopeM α) : JobM α := fun s =>
  match x s with
  | .ok a s => .ok a s
  | .error failure s => .error ⟨name, script, failure⟩ s

/-- Sets a global for each entry. -/
def setGlobals : List (String × Value) → JobM Unit
  | [] => return
  | (x, v) :: rest => do
    inUnit x (Scope.assignment x v) (Scope.setGlobal x v)
    setGlobals rest

def globalArray (x : String) : JobM (List Value) :=
  inUnit x "" do
    match ← Scope.global x with
    | .array items => return items
    | found => throw (.notArray found)

def execAll (job : Job) : List String → JobM Unit
  | [] => return
  | unit :: rest => do
    inUnit "map" job.map (Scope.exec "map" unit)
    execAll job rest

/-- Makes the registry and maps the documents; the result are the keys. -/
def mapPhase (batchSize : Nat) (job : Job) (docs : List Document) : JobM (List Value) := do
  inUnit "emit" "" (Scope.execBlock none registry)
  setGlobals job.scope
  inUnit "map" job.map (Scope.bind mapName "map" job.map)
  execAll job (Batch.units batchSize (docs.map mapCall))
  globalArray keysName

def reducePhase (job : Job) : JobM Unit := do
  inUnit "reduce" job.reduce (Scope.bind reduceName "reduce" job.reduce)
  inUnit "reduce" job.reduce (Scope.execBlock none reduceUnit)

def finalizePhase (job : Job) : JobM Unit := do
  match job.finalize with
  | none => return
  | some finalize =>
    inUnit "finalize" finalize (Scope.bind finalizeName "finalize" finalize)
    inUnit "finalize" finalize (Scope.execBlock none finalizeUnit)

/-- How often the registry says that `emit` was called. -/
def emitCount : JobM Nat :=
  inUnit emitCountName "" do
    match ← Scope.global emitCountName with
    | .int32 n => return n.toInt.toNat
    | .int64 n => return n.toInt.toNat
    | _ => return 0

def resultOf (key value : Value) : Document := [("_id", key), ("value", value)]

/-- All phases: one result for each key, and how often `emit` was called. -/
def phases (batchSize : Nat) (job : Job) (docs : List Document) : JobM (List Document × Nat) := do
  let keys ← mapPhase batchSize job docs
  reducePhase job
  finalizePhase job
  let values ← globalArray reducedName
  let emitted ← emitCount
  return (List.zipWith resultOf keys values, emitted)

/-- Runs the phases in a fresh scope. -/
def Job.evaluate (batchSize : Nat) (job : Job) (docs : List Document) :
    Except ScriptError (List Document × Nat) :=
  match phases batchSize job docs .fresh with
  | .ok result _ => .ok result
  | .error e _ => .error e

end Docbase.MapReduce
