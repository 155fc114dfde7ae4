import Docbase.Script.Library.Argument

/-!
The functions that are globals of their own.
-/
namespace Docbase.Script.Library

/-- Raises a value. A text is told with the position of the function at a level, where 1 is
the function that raises it; at level 0 it stays as it is. -/
def raiseAt (trace : Trace) (level : Int) (d : Datum) : Run α :=
  match d with
  | .text s => Run.raise (.text (if 0 < level then (trace.frame level.toNat).position ++ s else s))
  | d => Run.raise d

def assert (trace : Trace) (args : List Datum) : Run (List Datum) := do
  let condition ← any args 1
  if condition.isTrue then return args
  else if 2 ≤ args.length then raiseAt trace 1 (argument args 2)
  else raiseAt trace 1 (.ofText "assertion failed!")

/-- Raises a value; the second argument tells at which level, as a 32-bit integer. -/
def error (trace : Trace) (args : List Datum) : Run (List Datum) := do
  let level ← integerOr args 2 1
  raiseAt trace (Int32.ofInt level).toInt (argument args 1)

def getmetatable (args : List Datum) : Run (List Datum) := do
  match ← Operation.metatable? (← any args 1) with
  | none => return [.nil]
  | some place =>
    let shield ← Run.rawGet place (.ofText "__metatable")
    return [if shield.isNil then .table place else shield]

def setmetatable (args : List Datum) : Run (List Datum) := do
  let place ← table args 1
  let change (metatable : Option Nat) : Run (List Datum) := do
    if !(← Operation.metamethod (.table place) "__metatable").isNil then
      Run.fail "cannot change a protected metatable"
    else
      Run.modifyTable place fun t => { t with metatable }
      return [.table place]
  match argument args 2 with
  | .table metatable => change (some metatable)
  | .nil => if args.length < 2 then wrongType args 2 "nil or table" else change none
  | _ => wrongType args 2 "nil or table"

def next (args : List Datum) : Run (List Datum) := do
  let place ← table args 1
  match (← Run.readTable place).next (argument args 2) with
  | none => Run.fail "invalid key to 'next'"
  | some none => return [.nil]
  | some (some (key, value)) => return [key, value]

def pairs (call : Callee) (args : List Datum) : Run (List Datum) := do
  let object ← any args 1
  let handler ← Operation.metamethod object "__pairs"
  if handler.isNil then return [.primitive .next, object, .nil]
  else
    let found ← call handler [object]
    return [argument found 1, argument found 2, argument found 3]

def ipairs (args : List Datum) : Run (List Datum) := do
  return [.primitive .ipairsStep, ← any args 1, int 0]

def ipairsStep (call : Callee) (args : List Datum) : Run (List Datum) := do
  let position := int ((← integer args 2) + 1)
  let value ← Operation.index call (argument args 1) position
  return if value.isNil then [.nil] else [position, value]

/-- Calls a function and tells whether it raised, with its results or what it raised. -/
def pcall (call : Callee) (args : List Datum) : Run (List Datum) := do
  if args.isEmpty then Run.raise (.ofText "not enough arguments to pcall")
  match ← Run.attempt (call (argument args 1) args.tail) with
  | .ok results => return .boolean true :: results
  | .error e => return [.boolean false, e]

def rawequal (args : List Datum) : Run (List Datum) := do
  return [.boolean ((← any args 1).rawEqual (← any args 2))]

def rawget (args : List Datum) : Run (List Datum) := do
  let place ← table args 1
  return [← Run.rawGet place (← any args 2)]

def rawset (args : List Datum) : Run (List Datum) := do
  let place ← table args 1
  Run.rawSet place (← any args 2) (← any args 3)
  return [.table place]

def rawlen (args : List Datum) : Run (List Datum) := do
  match argument args 1 with
  | .table place => return [int (← Run.findBorder place)]
  | .text s => return [int s.length]
  | _ => wrongType args 1 "table or string"

/-- A text that starts with `#`. -/
def isCountMark : Datum → Bool
  | .text (35 :: _) => true
  | _ => false

/-- The arguments from a position on, counted from the end if it is negative, or how many
there are for `#`. -/
def select (args : List Datum) : Run (List Datum) := do
  let rest := args.tail
  if isCountMark (argument args 1) then return [int rest.length]
  let n ← integer args 1
  if 0 < n then return rest.drop (n.toNat - 1)
  else if n < 0 ∧ -n ≤ rest.length then return rest.drop (rest.length - (-n).toNat)
  else badArgument 1 "index out of range"

/-- The value of a letter or digit as a digit of a base up to 36. -/
def digitOfBase? (base : Nat) (c : Char) : Option Nat :=
  let digit :=
    if c.isDigit then some (c.toNat - '0'.toNat)
    else if c.isAlpha then some (c.toLower.toNat - 'a'.toNat + 10)
    else none
  digit.filter (· < base)

/-- An integer written in a base; it wraps around at 64 bits. -/
def integerOfBase? (base : Nat) (cs : List Char) : Option Int :=
  let (negative, digits) :=
    match Numeral.trim cs with
    | '-' :: rest => (true, rest)
    | '+' :: rest => (false, rest)
    | rest => (false, rest)
  if digits.isEmpty then none
  else
    let step (n : Nat) (c : Char) : Option Nat := do return base * n + (← digitOfBase? base c)
    (digits.foldlM step 0).map fun n => Numeral.negateIf negative n

def tonumber (args : List Datum) : Run (List Datum) := do
  if (argument args 2).isNil then
    return [((← any args 1).toNumber?.map Datum.ofNumber).getD .nil]
  let base ← integer args 2
  match argument args 1 with
  | .text s =>
    if 2 ≤ base ∧ base ≤ 36 then
      return [((integerOfBase? base.toNat (Utf8.decodeChars s)).map int).getD .nil]
    else badArgument 2 "base out of range"
  | _ => wrongType args 1 "string"

def tostring (call : Callee) (args : List Datum) : Run (List Datum) := do
  return [.text (← Operation.describe call (← any args 1))]

def type (args : List Datum) : Run (List Datum) := do
  return [.ofText (← any args 1).typeName]

end Docbase.Script.Library
