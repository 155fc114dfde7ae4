import Docbase.Binary64.Basic

/-!
Arithmetic on doubles. Sums, products and quotients are computed exactly and rounded once. An
operation on a NaN gives that NaN; one that has no value, such as zero by zero, gives the
invalid result, which is a NaN with a sign.
-/
namespace Docbase.Binary64

/-- The result of an operation without a value. -/
def invalid : Binary64 := ofMagnitude true (infinityWord + pow2 51)

def negate (a : Binary64) : Binary64 := ofMagnitude (!a.isNegative) a.magnitude

def abs (a : Binary64) : Binary64 := ofMagnitude false a.magnitude

/-- The first operand that is NaN, or else the result. -/
def orNaN (a b result : Binary64) : Binary64 :=
  if a.isNaN then a else if b.isNaN then b else result

/-- The exact value of a finite double as a multiple of `2 ^ e`, where `e` is at most its
exponent. -/
def scaled (a : Binary64) (e : Int) : Int := a.signedSignificand * pow2 (a.exponent - e).toNat

/-- The sum; a sum of zero is negative only if both operands are. -/
def add (a b : Binary64) : Binary64 :=
  orNaN a b <|
    if a.isInfinite then
      if b.isInfinite && a.isNegative != b.isNegative then invalid else a
    else if b.isInfinite then b
    else
      let e := min a.exponent b.exponent
      let sum := a.scaled e + b.scaled e
      if sum = 0 then ofMagnitude (a.isNegative && b.isNegative) 0
      else ofBinary (decide (sum < 0)) sum.natAbs e

def sub (a b : Binary64) : Binary64 := orNaN a b (add a b.negate)

def mul (a b : Binary64) : Binary64 :=
  let negative := a.isNegative != b.isNegative
  orNaN a b <|
    if a.isInfinite || b.isInfinite then
      if a.isZero || b.isZero then invalid else ofMagnitude negative infinityWord
    else ofBinary negative (a.significand * b.significand) (a.exponent + b.exponent)

def div (a b : Binary64) : Binary64 :=
  let negative := a.isNegative != b.isNegative
  orNaN a b <|
    if a.isInfinite then if b.isInfinite then invalid else ofMagnitude negative infinityWord
    else if b.isInfinite then ofMagnitude negative 0
    else if b.isZero then if a.isZero then invalid else ofMagnitude negative infinityWord
    else
      let e := a.exponent - b.exponent
      if 0 ≤ e then ofRatio negative (a.significand * pow2 e.toNat) b.significand
      else ofRatio negative a.significand (b.significand * pow2 (-e).toNat)

/-- The greatest whole number that is not above. -/
def floor (a : Binary64) : Binary64 :=
  if !a.isFinite || a.isWhole then a
  else if a.isNegative then ofRatio true (a.truncate.natAbs + 1) 1
  else ofRatio false a.truncate.natAbs 1

/-- The least whole number that is not below. -/
def ceil (a : Binary64) : Binary64 :=
  if !a.isFinite || a.isWhole then a
  else if a.isNegative then ofRatio true a.truncate.natAbs 1
  else ofRatio false (a.truncate.natAbs + 1) 1

def floorDiv (a b : Binary64) : Binary64 := floor (div a b)

/-- What is left of `a` after whole multiples of `b`, with the sign of `a`. -/
def remainder (a b : Binary64) : Binary64 :=
  orNaN a b <|
    if a.isInfinite || b.isZero then invalid
    else if b.isInfinite || a.isZero then a
    else
      let e := min a.exponent b.exponent
      ofBinary a.isNegative ((a.scaled e).natAbs % (b.scaled e).natAbs) e

/-- The remainder with the sign of `b`. -/
def mod (a b : Binary64) : Binary64 :=
  let r := remainder a b
  if r.isNaN || r.isZero then r
  else if r.isNegative != b.isNegative then add r b
  else r

/-- The power, as the host computes it; a square is a product. -/
def pow (a b : Binary64) : Binary64 :=
  if b = ofInt 2 then mul a a
  else
    let r : Binary64 := ⟨(Float.pow (Float.ofBits a.bits) (Float.ofBits b.bits)).toBits⟩
    if r.isNaN then orNaN a b invalid else r

end Docbase.Binary64
