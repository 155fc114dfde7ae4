import Docbase.Script.Arithmetic

/-!
The values a numeric loop runs through. Integers from an integer step by an integer never
wrap around; their number is known before the first turn. All other loops run on doubles.
-/
namespace Docbase.Script

inductive Progression where
  | empty
  /-- Integers, with how many there are. -/
  | ints (n step : Int64) (left : Nat)
  /-- Doubles; the first one is given in any case. -/
  | doubles (x limit step : Binary64)

namespace Progression

/-- The integer limit of a loop on integers, with fractions cut off against the direction;
none if the loop has no turns. -/
def intLimit? (ascending : Bool) (limit : Number) : Option Int :=
  match limit with
  | .int n => some n.toInt
  | .double x =>
    let lowest := Int64.minValue.toInt
    let highest := Int64.maxValue.toInt
    let rounded := if ascending then Binary64.floor x else Binary64.ceil x
    match Number.intOfDouble? rounded with
    | some n => some n.toInt
    | none =>
      if Number.isLess (.int 0) (.double x) then if ascending then some highest else none
      else if ascending then none else some lowest

def ofInts (start step : Int64) (limit : Number) : Progression :=
  let ascending := decide (0 < step)
  match intLimit? ascending limit with
  | none => .empty
  | some last =>
    let distance := if ascending then last - start.toInt else start.toInt - last
    if distance < 0 then .empty
    else .ints start step (distance.toNat / step.toInt.natAbs + 1)

def ofDoubles (start limit step : Binary64) : Progression :=
  let isOver :=
    if Number.isLess (.int 0) (.double step) then Number.isLess (.double limit) (.double start)
    else Number.isLess (.double start) (.double limit)
  if isOver then .empty else .doubles start limit step

/-- The progression of a loop, or why there is none. -/
def ofBounds (start limit step : Datum) : Except String Progression :=
  match start, step with
  | .int n, .int d =>
    if d = 0 then .error "'for' step is zero"
    else
      match limit.toNumber? with
      | some l => .ok (ofInts n d l)
      | none => .error "'for' limit must be a number"
  | start, step =>
    match limit.toNumber?, step.toNumber?, start.toNumber? with
    | none, _, _ => .error "'for' limit must be a number"
    | _, none, _ => .error "'for' step must be a number"
    | _, _, none => .error "'for' initial value must be a number"
    | some l, some d, some s =>
      if d.toDouble.isZero then .error "'for' step is zero"
      else .ok (ofDoubles s.toDouble l.toDouble d.toDouble)

/-- The next value and what comes after it. -/
def next? : Progression → Option (Datum × Progression)
  | .empty | .ints _ _ 0 => none
  | .ints n step (left + 1) => some (.int n, .ints (n + step) step left)
  | .doubles x limit step =>
    let y := Binary64.add x step
    let within :=
      if Number.isLess (.int 0) (.double step) then
        Number.isLessOrEqual (.double y) (.double limit)
      else Number.isLessOrEqual (.double limit) (.double y)
    some (.double x, if within then .doubles y limit step else .empty)

end Progression

end Docbase.Script
