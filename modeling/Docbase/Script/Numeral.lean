import Docbase.Binary64.Text
import Docbase.Text.Hex

/-!
Numerals: decimal or hexadecimal, integers or doubles. A decimal integer too large for 64
bits is a double; a hexadecimal one wraps around. The same rules read numbers out of texts,
where blanks around the numeral and a sign are allowed.
-/
namespace Docbase.Script

/-- A number is a 64-bit integer or a double. -/
inductive Number where
  | int (n : Int64)
  | double (x : Binary64)
  deriving DecidableEq, Repr

namespace Numeral

def isBlank (c : Char) : Bool :=
  c == ' ' || c == '\t' || c == '\n' || c == '\r' || c == '\x0b' || c == '\x0c'

def trim (cs : List Char) : List Char :=
  ((cs.dropWhile isBlank).reverse.dropWhile isBlank).reverse

def decimalValue (cs : List Char) : Nat :=
  cs.foldl (fun n c => 10 * n + (c.toNat - '0'.toNat)) 0

def isHexDigit (c : Char) : Bool := (Hex.digitValue? c).isSome

def hexValue (cs : List Char) : Nat :=
  cs.foldl (fun n c => 16 * n + (Hex.digitValue? c).getD 0) 0

/-- An optional sign and what follows it. -/
def sign : List Char → Bool × List Char
  | '-' :: rest => (true, rest)
  | '+' :: rest => (false, rest)
  | cs => (false, cs)

/-- The digits after `0x`. -/
def hexBody? : List Char → Option (List Char)
  | '0' :: 'x' :: rest | '0' :: 'X' :: rest => some rest
  | _ => none

def negateIf (negative : Bool) (n : Int) : Int := if negative then -n else n

/-- An integer with an optional sign. -/
def int? (cs : List Char) : Option Int64 :=
  let (negative, body) := sign cs
  match hexBody? body with
  | some digits =>
    if digits.isEmpty || !digits.all isHexDigit then none
    else some (Int64.ofInt (negateIf negative (hexValue digits)))
  | none =>
    if body.isEmpty || !body.all Char.isDigit then none
    else
      let n := decimalValue body
      let limit := if negative then pow2 63 else pow2 63 - 1
      if n ≤ limit then some (Int64.ofInt (negateIf negative n)) else none

/-- An exponent with its mark, at the end of a numeral; none is the exponent 0. -/
def exponent? (mark : Char) : List Char → Option Int
  | [] => some 0
  | c :: rest =>
    if c.toLower = mark then
      let (negative, digits) := sign rest
      if digits.isEmpty || !digits.all Char.isDigit then none
      else some (negateIf negative (decimalValue digits))
    else none

/-- Digits with an optional point among them, as the digits, how many follow the point, and
the rest. -/
def mantissa (isDigit : Char → Bool) (cs : List Char) : List Char × Nat × List Char :=
  let whole := cs.takeWhile isDigit
  match cs.dropWhile isDigit with
  | '.' :: rest =>
    let fraction := rest.takeWhile isDigit
    (whole ++ fraction, fraction.length, rest.dropWhile isDigit)
  | rest => (whole, 0, rest)

def double? (cs : List Char) : Option Binary64 :=
  let (negative, body) := sign cs
  match hexBody? body with
  | some body =>
    let (digits, places, rest) := mantissa isHexDigit body
    if digits.isEmpty then none
    else (exponent? 'p' rest).map fun e =>
      Binary64.ofBinary negative (hexValue digits) (e - 4 * places)
  | none =>
    let (digits, places, rest) := mantissa Char.isDigit body
    if digits.isEmpty then none
    else (exponent? 'e' rest).map fun e =>
      Binary64.ofDecimal negative (decimalValue digits) (e - places)

/-- A numeral with an optional sign. -/
def signed? (cs : List Char) : Option Number :=
  match int? cs with
  | some n => some (.int n)
  | none => (double? cs).map .double

/-- A number out of a text, with blanks around it allowed. -/
def ofText? (cs : List Char) : Option Number := signed? (trim cs)

/-- A numeral in a script has no sign. -/
def literal? (cs : List Char) : Option Number :=
  match cs with
  | '-' :: _ | '+' :: _ => none
  | cs => signed? cs

end Numeral

namespace Number

/-- Doubles are written with 14 significant digits, and so that they are not taken for
integers. -/
def text : Number → String
  | .int n => toString n.toInt
  | .double x =>
    let shown := x.significant 14
    if shown.toList.all fun c => c.isDigit || c == '-' then shown ++ ".0" else shown

/-- The number as a double. -/
def toDouble : Number → Binary64
  | .int n => .ofInt n.toInt
  | .double x => x

/-- The integer that a double without fraction is, within 64 bits. -/
def intOfDouble? (x : Binary64) : Option Int64 :=
  if x.isWhole then
    let n := x.truncate
    if Int64.minValue.toInt ≤ n ∧ n ≤ Int64.maxValue.toInt then some (Int64.ofInt n) else none
  else none

def toInt? : Number → Option Int64
  | .int n => some n
  | .double x => intOfDouble? x

end Number

end Docbase.Script
