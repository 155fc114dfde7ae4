import Docbase.Script.Library.Argument

/-!
The functions on numbers.
-/
namespace Docbase.Script.Library.Numeric

def abs (args : List Datum) : Run (List Datum) := do
  match argument args 1 with
  | .int n => return [.int (if n < 0 then -n else n)]
  | _ => return [.double ((← number args 1).toDouble.abs)]

/-- An integer as it is; any other number, and a text that spells one, as a double. -/
def unrounded (args : List Datum) : Run Number := do
  match argument args 1 with
  | .int n => return .int n
  | _ => return .double (← number args 1).toDouble

def floor (args : List Datum) : Run (List Datum) := do
  return [.ofNumber (← unrounded args).floor]

def ceil (args : List Datum) : Run (List Datum) := do
  return [.ofNumber (← unrounded args).ceil]

/-- The argument that no other one comes after, the first if there are several. -/
def extreme (call : Callee) (swapped : Bool) (args : List Datum) :
    Run (List Datum) := do
  let _ ← number args 1
  let mut best := argument args 1
  for i in List.range (args.length - 1) do
    let _ ← number args (i + 2)
    let candidate := argument args (i + 2)
    let better ←
      if swapped then Operation.less call candidate best else Operation.less call best candidate
    if better then best := candidate
  return [best]

def max (call : Callee) (args : List Datum) : Run (List Datum) := extreme call false args

def min (call : Callee) (args : List Datum) : Run (List Datum) := extreme call true args

def type (args : List Datum) : Run (List Datum) := do
  match ← any args 1 with
  | .int _ => return [.ofText "integer"]
  | .double _ => return [.ofText "float"]
  | _ => return [.nil]

/-- The integer that a number equals, or nil. -/
def toInteger (args : List Datum) : Run (List Datum) := do
  match (← any args 1).toNumber?.bind Number.toInt? with
  | some n => return [.int n]
  | none => return [.nil]

end Docbase.Script.Library.Numeric
