import Docbase.Binary64.Shortest

/-!
Doubles as text. `plain` never uses an exponent and writes whole numbers without a point;
`literal` always shows that it is a double, by a point or an exponent; `significant` rounds
to a number of significant digits and drops trailing zeros. The first two read back as the
same double.
-/
namespace Docbase

namespace Decimal

def digitText (n : Nat) : List Char := Nat.toDigits 10 n

/-- Digits with the point after the first `point` of them, padded with zeros. A whole number
gets `fraction` appended. -/
def positional (digits : List Char) (point : Int) (fraction : String) : String :=
  if point ≤ 0 then
    "0." ++ String.ofList (List.replicate (-point).toNat '0' ++ digits)
  else
    let whole := digits.take point.toNat
    let rest := digits.drop point.toNat
    let padding := List.replicate (point.toNat - digits.length) '0'
    if rest.isEmpty then String.ofList (whole ++ padding) ++ fraction
    else String.ofList whole ++ "." ++ String.ofList rest

/-- Digits with the point after the first of them, without an exponent. -/
def mantissa : List Char → String
  | [] => ""
  | [c] => String.singleton c
  | c :: rest => String.singleton c ++ "." ++ String.ofList rest

end Decimal

namespace Binary64

def signText (x : Binary64) : String := if x.isNegative then "-" else ""

def plain (x : Binary64) : String :=
  if x.isNaN then "NaN"
  else if x.isInfinite then signText x ++ "inf"
  else if x.isZero then signText x ++ "0"
  else
    let d := x.shortest
    signText x ++ Decimal.positional (Decimal.digitText d.digits) d.point ""

/-- Exponents below -4 and from 16 on are written out: `1e16`, `1.5e-7`. -/
def literal (x : Binary64) : String :=
  if x.isNaN then "NaN"
  else if x.isInfinite then signText x ++ "inf"
  else if x.isZero then signText x ++ "0.0"
  else
    let d := x.shortest
    let digits := Decimal.digitText d.digits
    if d.point ≤ -4 ∨ 16 < d.point then
      signText x ++ Decimal.mantissa digits ++ "e" ++ toString (d.point - 1)
    else signText x ++ Decimal.positional digits d.point ".0"

/-- The quotient rounded to the nearest integer, a tie going to the even one. -/
def roundQuotient (num den : Nat) : Nat :=
  let q := num / den
  let twice := 2 * (num % den)
  if den < twice ∨ (twice = den ∧ q % 2 = 1) then q + 1 else q

/-- The exact magnitude of a finite double as a ratio. -/
def ratio (x : Binary64) : Nat × Nat :=
  if 0 ≤ x.exponent then (x.significand * pow2 x.exponent.toNat, 1)
  else (x.significand, pow2 (-x.exponent).toNat)

/-- The magnitude of a finite double other than zero rounded to `count` significant
digits. -/
def roundDigits (x : Binary64) (count : Nat) : Decimal :=
  let (num, den) := x.ratio
  let point : Int :=
    if den ≤ num then Decimal.digitCount (num / den)
    else 1 - (Decimal.digitCount ((den - 1) / num) : Int)
  let s := point - count
  let digits :=
    if 0 ≤ s then roundQuotient num (den * pow10 s.toNat)
    else roundQuotient (num * pow10 (-s).toNat) den
  Decimal.trim ⟨digits, s⟩

/-- Rounded to `count` significant digits; a point or an exponent of at least two digits,
whichever an exponent between -5 and `count` calls for. -/
def significant (count : Nat) (x : Binary64) : String :=
  if x.isNaN then signText x ++ "nan"
  else if x.isInfinite then signText x ++ "inf"
  else if x.isZero then signText x ++ "0"
  else
    let d := x.roundDigits count
    let digits := Decimal.digitText d.digits
    let e := d.point - 1
    if e < -4 ∨ (count : Int) ≤ e then
      let size := toString e.natAbs
      signText x ++ Decimal.mantissa digits ++ (if e < 0 then "e-" else "e+") ++
        (if size.length < 2 then "0" ++ size else size)
    else signText x ++ Decimal.positional digits d.point ""

end Binary64

end Docbase
