import Docbase.Script.Library.Argument

/-!
The functions on texts. Positions count from 1, or from the end if they are negative.
-/
namespace Docbase.Script.Library.Text

/-- Where a piece begins: positions before the text are its first one. -/
def start (position : Int) (length : Nat) : Nat :=
  if 0 < position then position.toNat
  else if position = 0 ∨ position < -length then 1
  else (length + position + 1).toNat

/-- Where a piece ends: positions after the text are its last one. -/
def stop (position : Int) (length : Nat) : Nat :=
  if length < position then length
  else if 0 ≤ position then position.toNat
  else if position < -length then 0
  else (length + position + 1).toNat

/-- The bytes from a first to a last position. -/
def piece (s : Bytes) (first last : Nat) : Bytes := (s.take last).drop (first - 1)

def sub (args : List Datum) : Run (List Datum) := do
  let s ← text args 1
  let first := start (← integer args 2) s.length
  let last := stop (← integerOr args 3 (-1)) s.length
  return [.text (piece s first last)]

def byte (args : List Datum) : Run (List Datum) := do
  let s ← text args 1
  let position ← integerOr args 2 1
  let first := start position s.length
  let last := stop (← integerOr args 3 position) s.length
  return (piece s first last).map fun b => int b.toNat

def char (args : List Datum) : Run (List Datum) := do
  let bytes ← (List.range args.length).mapM fun i => do
    let n ← integer args (i + 1)
    if 0 ≤ n ∧ n < 256 then return UInt8.ofNat n.toNat
    else badArgument (i + 1) "value out of range"
  return [.text bytes]

def len (args : List Datum) : Run (List Datum) := do
  return [int (← text args 1).length]

def reverse (args : List Datum) : Run (List Datum) := do
  return [.text (← text args 1).reverse]

def lowerByte (b : UInt8) : UInt8 := if 65 ≤ b ∧ b ≤ 90 then b + 32 else b

def upperByte (b : UInt8) : UInt8 := if 97 ≤ b ∧ b ≤ 122 then b - 32 else b

def lower (args : List Datum) : Run (List Datum) := do
  return [.text ((← text args 1).map lowerByte)]

def upper (args : List Datum) : Run (List Datum) := do
  return [.text ((← text args 1).map upperByte)]

/-- The longest text that is built. -/
def sizeLimit : Nat := pow2 28

/-- A text a number of times, with a separator between. -/
def rep (args : List Datum) : Run (List Datum) := do
  let s ← text args 1
  let n := (← integer args 2).toNat
  let separator ← textOr args 3 []
  if sizeLimit < (s.length + separator.length) * n then Run.fail "resulting string too large"
  else if s.length + separator.length = 0 then return [.text []]
  else return [.text (List.intercalate separator (List.replicate n s))]

/-- How a value is written into a format. -/
structure Directive where
  flags : List Char
  width : Nat
  precision : Option Nat

def Directive.isPlain (d : Directive) : Bool :=
  d.flags.isEmpty && d.width == 0 && d.precision.isNone

def Directive.left (d : Directive) : Bool := d.flags.contains '-'

/-- Up to two digits as a number. -/
def shortNumber (cs : List Char) : Nat × List Char :=
  let digits := (cs.take 2).takeWhile Char.isDigit
  (Numeral.decimalValue digits, cs.drop digits.length)

/-- Flags, width and precision, and what follows them. -/
def directive (cs : List Char) : Directive × List Char :=
  let isFlag (c : Char) : Bool := "-+#0 ".toList.contains c
  let flags := cs.takeWhile isFlag
  let (width, rest) := shortNumber (cs.dropWhile isFlag)
  match rest with
  | '.' :: rest =>
    let (precision, rest) := shortNumber rest
    (⟨flags, width, some precision⟩, rest)
  | rest => (⟨flags, width, none⟩, rest)

def pad (d : Directive) (s : Bytes) : Bytes :=
  let blanks := List.replicate (d.width - s.length) (32 : UInt8)
  if d.left then s ++ blanks else blanks ++ s

/-- An integer with its sign, filled up with zeros to the precision, or else to the width if
the flag `0` is set. -/
def formatInteger (d : Directive) (n : Int) : Bytes :=
  let sign :=
    if n < 0 then "-" else if d.flags.contains '+' then "+"
    else if d.flags.contains ' ' then " " else ""
  let digits := if n = 0 ∧ d.precision = some 0 then "" else toString n.natAbs
  let least :=
    match d.precision with
    | some p => p
    | none => if d.flags.contains '0' && !d.left then d.width - sign.length else 0
  let zeros := String.ofList (List.replicate (least - digits.length) '0')
  pad d (Utf8.encode (sign ++ zeros ++ digits))

def formatText (d : Directive) (s : Bytes) : Bytes :=
  pad d (match d.precision with
    | some p => s.take p
    | none => s)

/-- Replaces the directives of a format, given as its characters one per byte, by arguments
from a position on. -/
def formatFrom (call : Callee) (args : List Datum) :
    Nat → List Char → Nat → Bytes → Run Bytes
  | 0, _, _, out => return out.reverse
  | _ + 1, [], _, out => return out.reverse
  | fuel + 1, '%' :: '%' :: rest, position, out =>
    formatFrom call args fuel rest position (37 :: out)
  | fuel + 1, '%' :: rest, position, out => do
    let (d, rest) := directive rest
    let value ← any args position
    match rest with
    | 'd' :: rest | 'i' :: rest =>
      if d.flags.contains '#' then Run.fail "invalid conversion to 'format'"
      let shown := formatInteger d (← integer args position)
      formatFrom call args fuel rest (position + 1) (shown.reverse ++ out)
    | 's' :: rest =>
      let s ← Operation.describe call value
      if d.flags.any (· != '-') then Run.fail "invalid conversion to 'format'"
      if !d.isPlain && s.contains 0 then badArgument position "string contains zeros"
      let shown := if d.precision.isNone && 100 ≤ s.length then s else formatText d s
      formatFrom call args fuel rest (position + 1) (shown.reverse ++ out)
    | _ => Run.fail "invalid conversion to 'format'"
  | fuel + 1, c :: rest, position, out =>
    formatFrom call args fuel rest position (UInt8.ofNat c.toNat :: out)

def format (call : Callee) (args : List Datum) : Run (List Datum) := do
  let chars := (← text args 1).map fun b => Char.ofNat b.toNat
  return [.text (← formatFrom call args (chars.length + 1) chars 2 [])]

end Docbase.Script.Library.Text
