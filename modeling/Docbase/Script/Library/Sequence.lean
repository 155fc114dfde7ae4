import Docbase.Script.Library.Argument

/-!
The functions on the sequence 1, 2, 3, … of a table, which read and write it as scripts do.
-/
namespace Docbase.Script.Library.Sequence

variable (call : Callee)

def get (object : Datum) (position : Int) : Run Datum := Operation.index call object (int position)

def put (object : Datum) (position : Int) (value : Datum) : Run Unit :=
  Operation.setIndex call object (int position) value

/-- The length of the sequence that is the first argument. -/
def length (args : List Datum) : Run Int := do
  let place ← table args 1
  match ← Operation.length call (.table place) with
  | .int n => return n.toInt
  | _ => Run.fail "object length is not an integer"

/-- What a computation gives at a number of positions in turn, added in reverse to `out`. -/
def collect (f : Int → Run α) : Nat → Int → List α → Run (List α)
  | 0, _, out => return out.reverse
  | count + 1, position, out => do collect f count (position + 1) ((← f position) :: out)

def concat (args : List Datum) : Run (List Datum) := do
  let n ← length call args
  let object := argument args 1
  let separator ← textOr args 2 []
  let first ← integerOr args 3 1
  let last ← integerOr args 4 n
  let piece (position : Int) : Run Bytes := do
    match (← get call object position).toText? with
    | some s => return s
    | none => Run.fail "invalid value in table for 'concat'"
  let pieces ← collect piece (last + 1 - first).toNat first []
  return [.text (List.intercalate separator pieces)]

/-- Moves the values at `position`, `position + 1`, … up by one, the last one first. -/
def moveUp (object : Datum) (position : Int) : Nat → Run Unit
  | 0 => return
  | count + 1 => do
    put call object (position + count + 1) (← get call object (position + count))
    moveUp object position count

/-- Moves the values after `position` down by one, the first one first. -/
def moveDown (object : Datum) (position : Int) : Nat → Run Unit
  | 0 => return
  | count + 1 => do
    put call object position (← get call object (position + 1))
    moveDown object (position + 1) count

def insert (args : List Datum) : Run (List Datum) := do
  let free := (← length call args) + 1
  let object := argument args 1
  match args with
  | [_, value] =>
    put call object free value
    return []
  | [_, _, value] =>
    let position ← integer args 2
    if 1 ≤ position ∧ position ≤ free then
      moveUp call object position (free - position).toNat
      put call object position value
      return []
    else badArgument 2 "position out of bounds"
  | _ => Run.fail "wrong number of arguments to 'insert'"

def remove (args : List Datum) : Run (List Datum) := do
  let n ← length call args
  let object := argument args 1
  let position ← integerOr args 2 n
  if position ≠ n ∧ ¬(1 ≤ position ∧ position ≤ n + 1) then
    badArgument 2 "position out of bounds"
  else
    let removed ← get call object position
    moveDown call object position (n - position).toNat
    put call object (max position n) .nil
    return [removed]

/-- The most values a table is taken apart into. -/
def unpackLimit : Int := 1000000

def unpack (args : List Datum) : Run (List Datum) := do
  let object := argument args 1
  let first ← integerOr args 2 1
  let last ←
    if (argument args 3).isNil then do
      match ← Operation.length call object with
      | .int n => pure n.toInt
      | _ => Run.fail "object length is not an integer"
    else integer args 3
  if unpackLimit ≤ last - first then Run.fail "too many results to unpack"
  else collect (get call object) (last + 1 - first).toNat first []

def pack (args : List Datum) : Run (List Datum) := do
  return [← Run.newTable ((Table.ofItems args 1).setText "n" (int args.length))]

/-! Sorting. The values are sorted in place by parting them around the middle one of three, so
the order of values that are neither less nor greater is settled by the procedure. -/

/-- Whether one value comes before another by the given function, or by `<`. -/
def precedes (order a b : Datum) : Run Bool := do
  if order.isNil then Operation.less call a b
  else return (Operation.first (← call order [a, b])).isTrue

/-- Writes two values to two places. -/
def putBoth (object : Datum) (i j : Int) (atI atJ : Datum) : Run Unit := do
  put call object i atI
  put call object j atJ

/-- Puts two places in order. -/
def orderPair (object order : Datum) (low high : Int) : Run Bool := do
  let a ← get call object low
  let b ← get call object high
  if ← precedes call order b a then
    putBoth call object low high b a
    return true
  else return false

/-- The first position after `i` whose value does not come before the pivot, with the value. -/
def seekUp (object order pivot : Datum) (high : Int) : Nat → Int → Run (Int × Datum)
  | 0, _ => Run.fail "invalid order function for sorting"
  | fuel + 1, i => do
    let value ← get call object (i + 1)
    if ← precedes call order value pivot then
      if i + 1 = high - 1 then Run.fail "invalid order function for sorting"
      else seekUp object order pivot high fuel (i + 1)
    else return (i + 1, value)

/-- The first position before `j` whose value the pivot does not come before, with the value. -/
def seekDown (object order pivot : Datum) (i : Int) : Nat → Int → Run (Int × Datum)
  | 0, _ => Run.fail "invalid order function for sorting"
  | fuel + 1, j => do
    let value ← get call object (j - 1)
    if ← precedes call order pivot value then
      if j - 1 < i then Run.fail "invalid order function for sorting"
      else seekDown object order pivot i fuel (j - 1)
    else return (j - 1, value)

/-- Parts the places between `low` and `high` around the pivot, which stands before `high`;
the result is the pivot's place. -/
def part (object order pivot : Datum) (high : Int) : Nat → Int → Int → Run Int
  | 0, i, _ => return i
  | fuel + 1, i, j => do
    let (i, atI) ← seekUp call object order pivot high (fuel + 2) i
    let (j, atJ) ← seekDown call object order pivot i (fuel + 2) j
    if j < i then
      let last ← get call object (high - 1)
      putBoth call object (high - 1) i atI last
      return i
    else
      putBoth call object i j atJ atI
      part object order pivot high fuel i j

def sortBetween (object order : Datum) : Nat → Int → Int → Run Unit
  | 0, _, _ => return
  | fuel + 1, low, high => do
    if high ≤ low then return
    let _ ← orderPair call object order low high
    if high - low = 1 then return
    let middle := (low + high) / 2
    if !(← orderPair call object order low middle) then
      let _ ← orderPair call object order middle high
    if high - low = 2 then return
    let pivot ← get call object middle
    let beside ← get call object (high - 1)
    putBoth call object middle (high - 1) beside pivot
    let place ← part call object order pivot high (high - low).toNat low (high - 1)
    if place - low < high - place then
      sortBetween object order fuel low (place - 1)
      sortBetween object order fuel (place + 1) high
    else
      sortBetween object order fuel (place + 1) high
      sortBetween object order fuel low (place - 1)

def sort (args : List Datum) : Run (List Datum) := do
  let n ← length call args
  if 1 < n then
    let order ← if (argument args 2).isNil then pure .nil else function args 2
    if pow2 31 - 1 ≤ n then badArgument 1 "array too big"
    else sortBetween call (argument args 1) order n.toNat 1 n
  return []

end Docbase.Script.Library.Sequence
