import Docbase.Script.Numeral
import Docbase.Script.Syntax

/-!
What script variables hold. Tables and functions written in a script are places in a heap;
functions of the host library are constants. Two numbers are the same if they are equal as
numbers, and tables and functions only if they are the same place.
-/
namespace Docbase.Script

/-- Functions of the host library. -/
inductive Primitive where
  | assert | error | getmetatable | ipairs | ipairsStep | next | pairs | pcall | print
  | rawequal | rawget | rawlen | rawset | select | setmetatable | tonumber | tostring | type
  | stringByte | stringChar | stringFormat | stringLen | stringLower | stringRep
  | stringReverse | stringSub | stringUpper
  | tableConcat | tableInsert | tablePack | tableRemove | tableSort | tableUnpack
  | mathAbs | mathCeil | mathFloor | mathMax | mathMin | mathToInteger | mathType
  | coroutineCreate
  deriving DecidableEq, Repr

inductive Datum where
  | nil
  | boolean (b : Bool)
  | int (n : Int64)
  | double (x : Binary64)
  | text (s : Bytes)
  | table (place : Nat)
  | closure (place : Nat)
  | primitive (p : Primitive)
  | thread (place : Nat)
  deriving DecidableEq, Repr, Inhabited

namespace Datum

def ofText (s : String) : Datum := .text (Utf8.encode s)

def ofNumber : Number → Datum
  | .int n => .int n
  | .double x => .double x

/-- Everything but nil and false counts as true. -/
def isTrue : Datum → Bool
  | .nil | .boolean false => false
  | _ => true

def isNil : Datum → Bool
  | .nil => true
  | _ => false

def isFunction : Datum → Bool
  | .closure _ | .primitive _ => true
  | _ => false

def number? : Datum → Option Number
  | .int n => some (.int n)
  | .double x => some (.double x)
  | _ => none

/-- A number, or a text that spells one. -/
def toNumber? : Datum → Option Number
  | .text s => Numeral.ofText? (Utf8.decodeChars s)
  | d => d.number?

/-- A text, or a number written out. -/
def toText? : Datum → Option Bytes
  | .text s => some s
  | d => d.number?.map fun n => Utf8.encode n.text

/-- The name of the type as scripts see it. -/
def typeName : Datum → String
  | .nil => "nil"
  | .boolean _ => "boolean"
  | .int _ | .double _ => "number"
  | .text _ => "string"
  | .table _ => "table"
  | .closure _ | .primitive _ => "function"
  | .thread _ => "thread"

/-- The name of the type in messages, which tells the kinds of numbers apart. -/
def kindName : Datum → String
  | .int _ => "integer"
  | d => d.typeName

/-- Equality of numbers as numbers and of everything else as it is. -/
def rawEqual (a b : Datum) : Bool :=
  match a, b with
  | .int m, .int n => m == n
  | .double x, .double y => x.compare? y == some .eq
  | .int n, .double x | .double x, .int n =>
    !x.isNaN && Binary64.compareInt n.toInt x == .eq
  | a, b => a == b

/-- As a key of a table, a double without fraction is the integer it equals. -/
def normalizeKey : Datum → Datum
  | .double x =>
    match Number.intOfDouble? x with
    | some n => .int n
    | none => .double x
  | d => d

/-- Nil and NaN are no keys. -/
def isKey : Datum → Bool
  | .nil => false
  | .double x => !x.isNaN
  | _ => true

end Datum

end Docbase.Script
