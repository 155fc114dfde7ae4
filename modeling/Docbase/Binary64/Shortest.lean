import Docbase.Binary64.Basic

/-!
The shortest decimal that reads back as a given double. The reals that round to a double
form an interval around it; for 1, 2, … 17 digits the two neighbours of the double on the
grid of that many digits are tried, and the first grid with a neighbour inside the interval
wins. Of two neighbours inside, the nearer is taken, and at equal distance the larger.
-/
namespace Docbase

/-- The number `digits * 10 ^ exponent`. -/
structure Decimal where
  digits : Nat
  exponent : Int
  deriving DecidableEq, Repr

namespace Decimal

def digitCountFrom : Nat → Nat → Nat
  | 0, _ => 0
  | fuel + 1, n => if n = 0 then 0 else 1 + digitCountFrom fuel (n / 10)

/-- How many decimal digits a number has; zero has none. -/
def digitCount (n : Nat) : Nat := digitCountFrom n n

/-- Moves trailing zeros of the digits into the exponent. -/
def trimFrom : Nat → Decimal → Decimal
  | 0, d => d
  | fuel + 1, d =>
    if d.digits % 10 = 0 then trimFrom fuel ⟨d.digits / 10, d.exponent + 1⟩ else d

def trim (d : Decimal) : Decimal := if d.digits = 0 then ⟨0, 0⟩ else trimFrom 40 d

/-- The place of the decimal point counted from the first digit. -/
def point (d : Decimal) : Int := d.exponent + digitCount d.digits

end Decimal

/-- An interval of positive reals with rational ends and a value inside it, all three over
one denominator. -/
structure RoundingInterval where
  lower : Nat
  value : Nat
  upper : Nat
  denominator : Nat
  closed : Bool

namespace RoundingInterval

/-- The reals that round to a finite double other than zero, without its sign. The gap
below a power of two is half the gap above it. -/
def ofBinary64 (x : Binary64) : RoundingInterval :=
  let m := x.significand
  let below := if m = pow2 52 ∧ -1074 < x.exponent then 1 else 2
  let p := x.exponent - 2
  let scale := if 0 ≤ p then pow2 p.toNat else 1
  { lower := (4 * m - below) * scale
    value := 4 * m * scale
    upper := (4 * m + 2) * scale
    denominator := if 0 ≤ p then 1 else pow2 (-p).toNat
    closed := m % 2 == 0 }

/-- Whether `n * 10 ^ s` lies in the interval. -/
def contains (r : RoundingInterval) (n : Nat) (s : Int) : Bool :=
  let here := if 0 ≤ s then n * pow10 s.toNat * r.denominator else n * r.denominator
  let scale := if 0 ≤ s then 1 else pow10 (-s).toNat
  if r.closed then decide (r.lower * scale ≤ here) && decide (here ≤ r.upper * scale)
  else decide (r.lower * scale < here) && decide (here < r.upper * scale)

/-- The power of ten just above the value: `10 ^ (point - 1) ≤ value < 10 ^ point`. -/
def point (r : RoundingInterval) : Int :=
  if r.denominator ≤ r.value then Decimal.digitCount (r.value / r.denominator)
  else 1 - (Decimal.digitCount ((r.denominator - 1) / r.value) : Int)

/-- The whole number of grid steps `10 ^ s` below the value, and twice what is left over,
both measured in the second component's unit. -/
def floorOn (r : RoundingInterval) (s : Int) : Nat × Nat × Nat :=
  let num := if 0 ≤ s then r.value else r.value * pow10 (-s).toNat
  let den := if 0 ≤ s then r.denominator * pow10 s.toNat else r.denominator
  (num / den, 2 * (num % den), den)

/-- The neighbour of the value on the grid of steps `10 ^ s` that lies in the interval. -/
def neighbour? (r : RoundingInterval) (s : Int) : Option Nat :=
  let (n, twiceRest, step) := r.floorOn s
  match r.contains n s, r.contains (n + 1) s with
  | true, true => some (if twiceRest < step then n else n + 1)
  | true, false => some n
  | false, true => some (n + 1)
  | false, false => none

/-- Tries the grids of `count`, `count + 1`, … digits, `fuel` grids at most. -/
def shortestFrom (r : RoundingInterval) : Nat → Nat → Decimal
  | 0, count => ⟨(r.floorOn (r.point - count)).1, r.point - count⟩
  | fuel + 1, count =>
    match r.neighbour? (r.point - count) with
    | some n => ⟨n, r.point - count⟩
    | none => shortestFrom r fuel (count + 1)

end RoundingInterval

/-- The shortest decimal that reads back as the magnitude of a finite double. -/
def Binary64.shortest (x : Binary64) : Decimal :=
  if x.significand = 0 then ⟨0, 0⟩
  else ((RoundingInterval.ofBinary64 x).shortestFrom 17 1).trim

end Docbase
