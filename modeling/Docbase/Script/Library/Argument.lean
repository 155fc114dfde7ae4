import Docbase.Script.Operation

/-!
Arguments of library functions. Positions count from 1. A number stands for a text and a text
that spells a number stands for the number.
-/
namespace Docbase.Script.Library

/-- The argument at a position; nil if there is none. -/
def argument (args : List Datum) (position : Nat) : Datum := args.getD (position - 1) .nil

def badArgument (position : Nat) (reason : String) : Run α :=
  Run.fail ("bad argument #" ++ toString position ++ " (" ++ reason ++ ")")

def wrongType (args : List Datum) (position : Nat) (expected : String) : Run α :=
  let got :=
    if args.length < position then "no value" else (argument args position).typeName
  badArgument position (expected ++ " expected, got " ++ got)

/-- Any value, also nil, as long as it is given. -/
def any (args : List Datum) (position : Nat) : Run Datum :=
  if args.length < position then badArgument position "value expected"
  else return argument args position

def table (args : List Datum) (position : Nat) : Run Nat :=
  match argument args position with
  | .table place => return place
  | _ => wrongType args position "table"

def function (args : List Datum) (position : Nat) : Run Datum :=
  let f := argument args position
  if f.isFunction then return f else wrongType args position "function"

def number (args : List Datum) (position : Nat) : Run Number :=
  match (argument args position).toNumber? with
  | some n => return n
  | none => wrongType args position "number"

def integer (args : List Datum) (position : Nat) : Run Int := do
  match (← number args position).toInt? with
  | some n => return n.toInt
  | none => badArgument position "number has no integer representation"

/-- An integer with a value to take where none is given. -/
def integerOr (args : List Datum) (position : Nat) (otherwise : Int) : Run Int :=
  if (argument args position).isNil then return otherwise else integer args position

def text (args : List Datum) (position : Nat) : Run Bytes :=
  match (argument args position).toText? with
  | some s => return s
  | none => wrongType args position "string"

def textOr (args : List Datum) (position : Nat) (otherwise : Bytes) : Run Bytes :=
  if (argument args position).isNil then return otherwise else text args position

def int (n : Int) : Datum := .int (Int64.ofInt n)

end Docbase.Script.Library
