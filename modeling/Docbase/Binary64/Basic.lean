import Docbase.Binary64.Power

/-!
A double is kept as its 64 bits. Everything the rest of the library asks of a double
(its sign, its exact value `significand * 2 ^ exponent`, its place in the order, the
nearest double to a ratio of integers) is computed in integers from those bits, so it
can be reasoned about; NaN payloads and the sign of zero are kept as they are.
-/
namespace Docbase

structure Binary64 where
  bits : UInt64
  deriving DecidableEq, Hashable, Repr, Inhabited

namespace Binary64

def word (x : Binary64) : Nat := x.bits.toNat

/-- The bits without the sign. -/
def magnitude (x : Binary64) : Nat := x.word % pow2 63

def isNegative (x : Binary64) : Bool := decide (pow2 63 ≤ x.word)

/-- The bits of infinity; larger magnitudes are not numbers. -/
def infinityWord : Nat := 2047 * pow2 52

def isNaN (x : Binary64) : Bool := decide (infinityWord < x.magnitude)

def isInfinite (x : Binary64) : Bool := x.magnitude == infinityWord

def isFinite (x : Binary64) : Bool := decide (x.magnitude < infinityWord)

def isZero (x : Binary64) : Bool := x.magnitude == 0

def ofMagnitude (negative : Bool) (magnitude : Nat) : Binary64 :=
  ⟨UInt64.ofNat (magnitude % pow2 63 + if negative then pow2 63 else 0)⟩

def zero : Binary64 := ofMagnitude false 0
def infinity : Binary64 := ofMagnitude false infinityWord
def negInfinity : Binary64 := ofMagnitude true infinityWord

/-- The NaN that stands for all of them where payloads do not count. -/
def nan : Binary64 := ofMagnitude false (infinityWord + pow2 51)

/-- The integer that a finite double scales by `2 ^ exponent`, without its sign. -/
def significand (x : Binary64) : Nat :=
  if x.magnitude < pow2 52 then x.magnitude else pow2 52 + x.magnitude % pow2 52

def exponent (x : Binary64) : Int := (max (x.magnitude / pow2 52) 1 : Nat) - 1075

/-- A finite double is `signedSignificand * 2 ^ exponent`. -/
def signedSignificand (x : Binary64) : Int :=
  if x.isNegative then -(x.significand : Int) else x.significand

/-- Doubles other than NaN are ordered by this integer; both zeros have rank 0. -/
def rank (x : Binary64) : Int := if x.isNegative then -(x.magnitude : Int) else x.magnitude

/-- The whole part of a finite double, rounded toward zero. -/
def truncate (x : Binary64) : Int :=
  let whole : Nat :=
    if x.exponent < 0 then x.significand / pow2 (-x.exponent).toNat
    else x.significand * pow2 x.exponent.toNat
  if x.isNegative then -(whole : Int) else whole

/-- A finite double without a fractional part. -/
def isWhole (x : Binary64) : Bool :=
  x.isFinite && (decide (0 ≤ x.exponent) || x.significand % pow2 (-x.exponent).toNat == 0)

/-- Compares an integer with the exact value of a double that is not NaN. -/
def compareInt (i : Int) (x : Binary64) : Ordering :=
  if x.isInfinite then
    if x.isNegative then .gt else .lt
  else if x.exponent < 0 then
    compare (i * pow2 (-x.exponent).toNat) x.signedSignificand
  else
    compare i (x.signedSignificand * pow2 x.exponent.toNat)

/-- The binary logarithm of `num / den`, rounded down. -/
def ratioLog2 (num den : Nat) : Int :=
  let guess : Int := (num.log2 : Int) - den.log2
  let reaches : Bool :=
    if 0 ≤ guess then decide (den * pow2 guess.toNat ≤ num)
    else decide (den ≤ num * pow2 (-guess).toNat)
  if reaches then guess else guess - 1

/-- The bits of the double nearest to `num / den`, a tie going to the even neighbour and
everything past the largest finite double going to infinity. -/
def nearestMagnitude (num den : Nat) : Nat :=
  if num = 0 then 0
  else
    let e : Int := max (-1074) (ratioLog2 num den - 52)
    let scaledNum := if 0 ≤ e then num else num * pow2 (-e).toNat
    let scaledDen := if 0 ≤ e then den * pow2 e.toNat else den
    let quotient := scaledNum / scaledDen
    let twice := 2 * (scaledNum % scaledDen)
    let up : Bool := decide (scaledDen < twice) || (twice == scaledDen && quotient % 2 == 1)
    min infinityWord ((e + 1074).toNat * pow2 52 + quotient + if up then 1 else 0)

def ofRatio (negative : Bool) (num den : Nat) : Binary64 :=
  ofMagnitude negative (nearestMagnitude num den)

def ofInt (i : Int) : Binary64 := ofRatio (decide (i < 0)) i.natAbs 1

/-- Exponents beyond these give zero or infinity whatever the digits are. -/
def decimalLimit : Int := 400

/-- The double nearest to `digits * 10 ^ exponent`. -/
def ofDecimal (negative : Bool) (digits : Nat) (exponent : Int) : Binary64 :=
  let size : Int := digits.log2
  if digits = 0 then ofMagnitude negative 0
  else if decimalLimit < exponent then ofMagnitude negative infinityWord
  else if exponent < -decimalLimit - size then ofMagnitude negative 0
  else if 0 ≤ exponent then ofRatio negative (digits * pow10 exponent.toNat) 1
  else ofRatio negative digits (pow10 (-exponent).toNat)

/-- The double nearest to `digits * 2 ^ exponent`. -/
def ofBinary (negative : Bool) (digits : Nat) (exponent : Int) : Binary64 :=
  let size : Int := digits.log2
  if digits = 0 then ofMagnitude negative 0
  else if 2000 < exponent then ofMagnitude negative infinityWord
  else if exponent < -2000 - size then ofMagnitude negative 0
  else if 0 ≤ exponent then ofRatio negative (digits * pow2 exponent.toNat) 1
  else ofRatio negative digits (pow2 (-exponent).toNat)

/-- The order in which equal ranks are equal and NaN takes no part. -/
def compare? (x y : Binary64) : Option Ordering :=
  if x.isNaN || y.isNaN then none else some (compare x.rank y.rank)

/-- The order on all doubles: NaN is equal to itself and below everything else. -/
def totalCompare (x y : Binary64) : Ordering :=
  match x.isNaN, y.isNaN with
  | true, true => .eq
  | true, false => .lt
  | false, true => .gt
  | false, false => compare x.rank y.rank

end Binary64

end Docbase
