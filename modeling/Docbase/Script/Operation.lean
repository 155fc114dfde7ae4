import Docbase.Script.Arithmetic
import Docbase.Script.Heap

/-!
What operators and field accesses do to any two values. Where the built-in meaning does not
apply, the metatables of the operands may give one: a function stored there under the name of
the event.
-/
namespace Docbase.Script

namespace Operation

def metatable? (d : Datum) : Run (Option Nat) :=
  match d with
  | .table place => do return (← Run.readTable place).metatable
  | .text _ => return some Heap.textMetatable
  | _ => return none

/-- What the metatable of a value holds for an event. -/
def metamethod (d : Datum) (event : String) : Run Datum := do
  match ← metatable? d with
  | some place => Run.rawGet place (.ofText event)
  | none => return .nil

def first (ds : List Datum) : Datum := ds.headD .nil

/-- How many metatables an access may pass through. -/
def chainLimit : Nat := 2000

def indexFrom (call : Callee) (key : Datum) : Nat → Datum → Run Datum
  | 0, _ => Run.fail "'__index' chain too long; possibly a loop"
  | fuel + 1, object => do
    let found ←
      match object with
      | .table place => Run.rawGet place key
      | _ => pure .nil
    if !found.isNil then return found
    let handler ← metamethod object "__index"
    match object, handler with
    | .table _, .nil => return .nil
    | _, .nil => Run.fail ("attempt to index a " ++ object.typeName ++ " value")
    | _, handler =>
      if handler.isFunction then return first (← call handler [object, key])
      else indexFrom call key fuel handler

/-- The value of a key; keys that are absent are looked up through `__index`. -/
def index (call : Callee) (object key : Datum) : Run Datum := indexFrom call key chainLimit object

def setIndexFrom (call : Callee) (key value : Datum) : Nat → Datum → Run Unit
  | 0, _ => Run.fail "'__newindex' chain too long; possibly a loop"
  | fuel + 1, object => do
    let handler ← metamethod object "__newindex"
    match object with
    | .table place => do
      if handler.isNil then Run.rawSet place key value
      else if !(← Run.rawGet place key).isNil then Run.rawSet place key value
      else if handler.isFunction then let _ ← call handler [object, key, value]
      else setIndexFrom call key value fuel handler
    | _ =>
      if handler.isNil then Run.fail ("attempt to index a " ++ object.typeName ++ " value")
      else if handler.isFunction then let _ ← call handler [object, key, value]
      else setIndexFrom call key value fuel handler

/-- Stores under a key; keys that are absent may be stored through `__newindex`. -/
def setIndex (call : Callee) (object key value : Datum) : Run Unit :=
  setIndexFrom call key value chainLimit object

/-- The handler of the first operand that has one. -/
def binaryHandler (event : String) (a b : Datum) : Run Datum := do
  let handler ← metamethod a event
  if handler.isNil then metamethod b event else return handler

def eventName : BinaryOp → String
  | .add => "__add"
  | .sub => "__sub"
  | .mul => "__mul"
  | .div => "__div"
  | .floorDiv => "__idiv"
  | .mod => "__mod"
  | .pow => "__pow"
  | .concat => "__concat"
  | .eq | .ne => "__eq"
  | .lt | .gt => "__lt"
  | .le | .ge => "__le"
  | .bitAnd => "__band"
  | .bitOr => "__bor"
  | .bitXor => "__bxor"
  | .shiftLeft => "__shl"
  | .shiftRight => "__shr"

/-- Arithmetic on numbers and on texts that spell numbers. -/
def arithmetic (call : Callee) (op : BinaryOp) (a b : Datum) : Run Datum :=
  let onHandler (message : String) : Run Datum := do
    let handler ← binaryHandler (eventName op) a b
    if handler.isNil then Run.fail message else return first (← call handler [a, b])
  match a.toNumber?, b.toNumber? with
  | some x, some y =>
    match Number.apply op x y with
    | .ok r => return .ofNumber r
    | .error fault => onHandler fault.message
  | x, _ =>
    let culprit := if x.isNone then a else b
    if Number.isBitwise op then
      onHandler ("attempt to perform bitwise operation on a " ++ culprit.typeName ++ " value")
    else onHandler ("attempt to perform arithmetic on a " ++ culprit.typeName ++ " value")

def concat (call : Callee) (a b : Datum) : Run Datum :=
  match a.toText?, b.toText? with
  | some s, some t => return .text (s ++ t)
  | s, _ => do
    let handler ← binaryHandler "__concat" a b
    if handler.isNil then
      let culprit := if s.isNone then a else b
      Run.fail ("attempt to concatenate a " ++ culprit.typeName ++ " value")
    else return first (← call handler [a, b])

/-- Equality; two different tables may be equal by `__eq`. -/
def equals (call : Callee) (a b : Datum) : Run Bool :=
  if a.rawEqual b then return true
  else
    match a, b with
    | .table _, .table _ => do
      let handler ← binaryHandler "__eq" a b
      if handler.isNil then return false else return (first (← call handler [a, b])).isTrue
    | _, _ => return false

/-- The order of byte strings by their first difference. -/
def bytesLess : Bytes → Bytes → Bool
  | _, [] => false
  | [], _ :: _ => true
  | a :: as, b :: bs => a < b || (a == b && bytesLess as bs)

/-- What the handler of an event says of two values, if there is one. -/
def compared? (call : Callee) (event : String) (a b : Datum) : Run (Option Bool) := do
  let handler ← binaryHandler event a b
  if handler.isNil then return none
  else return some (first (← call handler [a, b])).isTrue

def failCompare (a b : Datum) : Run Bool :=
  if a.typeName = b.typeName then
    Run.fail ("attempt to compare two " ++ a.typeName ++ " values")
  else Run.fail ("attempt to compare " ++ a.typeName ++ " with " ++ b.typeName)

def less (call : Callee) (a b : Datum) : Run Bool :=
  match a.number?, b.number? with
  | some x, some y => return x.isLess y
  | _, _ =>
    match a, b with
    | .text s, .text t => return bytesLess s t
    | a, b => do
      match ← compared? call "__lt" a b with
      | some result => return result
      | none => failCompare a b

/-- Without a handler of its own, `a ≤ b` is taken for the contrary of `b < a`. -/
def lessOrEqual (call : Callee) (a b : Datum) : Run Bool :=
  match a.number?, b.number? with
  | some x, some y => return x.isLessOrEqual y
  | _, _ =>
    match a, b with
    | .text s, .text t => return !bytesLess t s
    | a, b => do
      match ← compared? call "__le" a b with
      | some result => return result
      | none =>
        match ← compared? call "__lt" b a with
        | some result => return !result
        | none => failCompare a b

def binary (call : Callee) (op : BinaryOp) (a b : Datum) : Run Datum :=
  match op with
  | .concat => concat call a b
  | .eq => return .boolean (← equals call a b)
  | .ne => return .boolean !(← equals call a b)
  | .lt => return .boolean (← less call a b)
  | .le => return .boolean (← lessOrEqual call a b)
  | .gt => return .boolean (← less call b a)
  | .ge => return .boolean (← lessOrEqual call b a)
  | op => arithmetic call op a b

/-- The size of a text, or a border of a table. -/
def length (call : Callee) (d : Datum) : Run Datum := do
  match d with
  | .text s => return .int (Int64.ofNat s.length)
  | d =>
    let handler ← metamethod d "__len"
    if !handler.isNil then return first (← call handler [d])
    match d with
    | .table place => return .int (Int64.ofNat (← Run.findBorder place))
    | d => Run.fail ("attempt to get length of a " ++ d.typeName ++ " value")

def unary (call : Callee) (op : UnaryOp) (d : Datum) : Run Datum :=
  match op with
  | .not => return .boolean !d.isTrue
  | .length => length call d
  | .negate =>
    match d.toNumber? with
    | some x => return .ofNumber x.negate
    | none => do
      let handler ← metamethod d "__unm"
      if handler.isNil then
        Run.fail ("attempt to perform arithmetic on a " ++ d.typeName ++ " value")
      else return first (← call handler [d, d])
  | .bitNot =>
    match d.toNumber?.bind Number.toInt? with
    | some n => return .int (n.toUInt64 ^^^ 0xFFFFFFFFFFFFFFFF).toInt64
    | none => do
      let handler ← metamethod d "__bnot"
      if handler.isNil then
        Run.fail ("attempt to perform bitwise operation on a " ++ d.typeName ++ " value")
      else return first (← call handler [d, d])

/-- A value as a text that says what it is. -/
def describe (call : Callee) (d : Datum) : Run Bytes := do
  let handler ← metamethod d "__tostring"
  if !handler.isNil then
    match (first (← call handler [d])).toText? with
    | some s => return s
    | none => Run.fail "'__tostring' must return a string"
  let placed (kind : String) (place : Nat) : Bytes :=
    Utf8.encode (kind ++ ": 0x" ++ Hex.ofNat (0x10000 + 32 * place))
  match d with
  | .nil => return Utf8.encode "nil"
  | .boolean b => return Utf8.encode (if b then "true" else "false")
  | .int n => return Utf8.encode (Number.int n).text
  | .double x => return Utf8.encode (Number.double x).text
  | .text s => return s
  | .table place => do
    match ← metamethod d "__name" with
    | .text s => return s ++ placed "" place
    | _ => return placed "table" place
  | .closure place => return placed "function" place
  | .primitive _ => return placed "function: builtin" 0
  | .thread place => return placed "thread" place

end Operation

end Docbase.Script
