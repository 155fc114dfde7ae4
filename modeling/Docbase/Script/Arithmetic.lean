import Docbase.Binary64.Arithmetic
import Docbase.Script.Datum

/-!
Arithmetic on numbers. Integers wrap around at 64 bits; `/` and `^` always give doubles, and
`//` and `%` round toward the lower integer. A mixed operation is one on doubles.
-/
namespace Docbase.Script

namespace Number

/-- Why an operation on two numbers has no result. -/
inductive Fault where
  | divisionByZero
  | moduloByZero
  | notInteger
  | unsupported

def Fault.message : Fault → String
  | .divisionByZero => "attempt to perform 'n//0'"
  | .moduloByZero => "attempt to perform 'n%%0'"
  | .notInteger => "number has no integer representation"
  | .unsupported => "attempt to perform arithmetic"

private def onNumbers (ints : Int → Int → Int) (doubles : Binary64 → Binary64 → Binary64) :
    Number → Number → Number
  | .int m, .int n => .int (Int64.ofInt (ints m.toInt n.toInt))
  | a, b => .double (doubles a.toDouble b.toDouble)

private def onBits (f : UInt64 → UInt64 → UInt64) (a b : Number) : Except Fault Number :=
  match a.toInt?, b.toInt? with
  | some m, some n => .ok (.int (f m.toUInt64 n.toUInt64).toInt64)
  | _, _ => .error .notInteger

/-- Bits shifted out are lost; a negative distance shifts the other way. -/
def shiftLeft (x : UInt64) (distance : Int) : UInt64 :=
  if 64 ≤ distance ∨ distance ≤ -64 then 0
  else if 0 ≤ distance then x <<< UInt64.ofNat distance.toNat
  else x >>> UInt64.ofNat (-distance).toNat

def isBitwise : BinaryOp → Bool
  | .bitAnd | .bitOr | .bitXor | .shiftLeft | .shiftRight => true
  | _ => false

def apply (op : BinaryOp) (a b : Number) : Except Fault Number :=
  match op with
  | .add => .ok (onNumbers (· + ·) Binary64.add a b)
  | .sub => .ok (onNumbers (· - ·) Binary64.sub a b)
  | .mul => .ok (onNumbers (· * ·) Binary64.mul a b)
  | .div => .ok (.double (Binary64.div a.toDouble b.toDouble))
  | .pow => .ok (.double (Binary64.pow a.toDouble b.toDouble))
  | .floorDiv =>
    match a, b with
    | .int _, .int 0 => .error .divisionByZero
    | a, b => .ok (onNumbers Int.fdiv Binary64.floorDiv a b)
  | .mod =>
    match a, b with
    | .int _, .int 0 => .error .moduloByZero
    | a, b => .ok (onNumbers Int.fmod Binary64.mod a b)
  | .bitAnd => onBits (· &&& ·) a b
  | .bitOr => onBits (· ||| ·) a b
  | .bitXor => onBits (· ^^^ ·) a b
  | .shiftLeft => onBits (fun x y => shiftLeft x y.toInt64.toInt) a b
  | .shiftRight => onBits (fun x y => shiftLeft x (-y.toInt64.toInt)) a b
  | _ => .error .unsupported

def negate : Number → Number
  | .int n => .int (-n)
  | .double x => .double (x.negate)

/-- The order of numbers by their exact values; none with a NaN. -/
def compare? : Number → Number → Option Ordering
  | .int m, .int n => some (compare m.toInt n.toInt)
  | .double x, .double y => x.compare? y
  | .int m, .double y => if y.isNaN then none else some (Binary64.compareInt m.toInt y)
  | .double x, .int n => if x.isNaN then none else some (Binary64.compareInt n.toInt x).swap

def isLess (a b : Number) : Bool := compare? a b == some .lt

def isLessOrEqual (a b : Number) : Bool :=
  match compare? a b with
  | some .lt | some .eq => true
  | _ => false

/-- An integer, if the double has one within 64 bits. -/
def ofDouble (x : Binary64) : Number :=
  match intOfDouble? x with
  | some n => .int n
  | none => .double x

def floor : Number → Number
  | .int n => .int n
  | .double x => ofDouble (Binary64.floor x)

def ceil : Number → Number
  | .int n => .int n
  | .double x => ofDouble (Binary64.ceil x)

end Number

end Docbase.Script
