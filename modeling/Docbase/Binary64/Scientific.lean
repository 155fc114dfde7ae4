import Docbase.Binary64.Text

/-!
Doubles in scientific notation, and the integer that a double is taken for. The integer is read
from the notation: the digits without the point, and as many zeros as the exponent has places
that the digits after the point do not fill. Counts of 32 bits and integers of 128 bits bound
each step of the reading, so it may end without an integer.
-/
namespace Docbase

namespace Decimal

/-- The first digit with a point and the others behind it, if there are any, and the exponent. -/
def scientific (d : Decimal) : String :=
  mantissa (digitText d.digits) ++ "e" ++ toString (d.point - 1)

/-- What is before the first occurrence of a character, and what is after it. -/
def splitOnce? (mark : Char) : List Char → Option (List Char × List Char)
  | [] => none
  | c :: rest =>
    if c = mark then some ([], rest)
    else (splitOnce? mark rest).map fun (before, after) => (c :: before, after)

/-- A number that stays below a limit. -/
def below? (limit n : Nat) : Option Nat := if n < limit then some n else none

/-- A number written in digits, if it stays below a limit. -/
def natural? (limit : Nat) (cs : List Char) : Option Nat :=
  if cs.isEmpty || !cs.all Char.isDigit then none else below? limit (Nat.ofDigitChars 10 cs 0)

/-- A difference that is not negative. -/
def minus? (m n : Nat) : Option Nat := if n ≤ m then some (m - n) else none

/-- One more than the largest count. -/
def countLimit : Nat := pow2 32

/-- One more than the largest integer. -/
def integerLimit : Nat := pow2 127

/-- The integer of a number in scientific notation. -/
def integerOf? (text : String) : Option Int := do
  let (mantissa, exponent) ← splitOnce? 'e' text.toList
  let exponent ← natural? countLimit exponent
  let digits := mantissa.filter Char.isDigit
  let places ← below? countLimit (← minus? digits.length 1)
  let zeros ← minus? exponent places
  let n ← natural? integerLimit digits
  let power ← below? integerLimit (pow10 zeros)
  let magnitude ← below? integerLimit (n * power)
  return if mantissa.head? = some '-' then -(magnitude : Int) else magnitude

end Decimal

namespace Binary64

def scientific (x : Binary64) : String :=
  if x.isNaN then "NaN"
  else if x.isInfinite then signText x ++ "inf"
  else if x.isZero then signText x ++ "0e0"
  else signText x ++ x.shortest.scientific

/-- The integer that the shortest decimal spells, for doubles whose decimal is an integer. -/
def shortestInt? (x : Binary64) : Option Int := Decimal.integerOf? x.scientific

end Binary64

end Docbase
