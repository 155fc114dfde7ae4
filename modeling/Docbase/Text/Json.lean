import Docbase.Text.Hex

/-!
Reading JSON text strictly: one value with nothing but blanks around it. Numbers are kept as
they are written. Half of a surrogate pair is no character, so a text that holds one cannot be
told; it is kept as `none`, for a reader that has no use for it may pass over it.
-/
namespace Docbase

inductive Json where
  | null
  | boolean (b : Bool)
  | number (text : String)
  | string (s : Option String)
  | array (items : List Json)
  | object (fields : List (Option String × Json))

namespace Json

def isBlank (c : Char) : Bool := c == ' ' || c == '\t' || c == '\n' || c == '\r'

def skip (cs : List Char) : List Char := cs.dropWhile isBlank

/-- A word that stands for itself. -/
def word? (word : List Char) (cs : List Char) : Option (List Char) :=
  if word.isPrefixOf cs then some (cs.drop word.length) else none

/-- One digit or more. -/
def digits? (cs : List Char) : Option (List Char × List Char) :=
  let digits := cs.takeWhile Char.isDigit
  if digits.isEmpty then none else some (digits, cs.dropWhile Char.isDigit)

/-- A whole number without sign and without needless zeros. -/
def whole? : List Char → Option (List Char × List Char)
  | '0' :: rest => if (rest.head?.map Char.isDigit).getD false then none else some (['0'], rest)
  | cs => digits? cs

def fraction? : List Char → Option (List Char × List Char)
  | '.' :: rest => do
    let (digits, rest) ← digits? rest
    return ('.' :: digits, rest)
  | cs => some ([], cs)

def exponent? : List Char → Option (List Char × List Char)
  | c :: rest =>
    if c = 'e' ∨ c = 'E' then
      match rest with
      | '+' :: rest => do
        let (digits, rest) ← digits? rest
        return (c :: '+' :: digits, rest)
      | '-' :: rest => do
        let (digits, rest) ← digits? rest
        return (c :: '-' :: digits, rest)
      | rest => do
        let (digits, rest) ← digits? rest
        return (c :: digits, rest)
    else some ([], c :: rest)
  | [] => some ([], [])

def number? (cs : List Char) : Option (Json × List Char) := do
  let (sign, rest) :=
    match cs with
    | '-' :: rest => (['-'], rest)
    | cs => ([], cs)
  let (whole, rest) ← whole? rest
  let (fraction, rest) ← fraction? rest
  let (exponent, rest) ← exponent? rest
  return (.number (String.ofList (sign ++ whole ++ fraction ++ exponent)), rest)

/-- Four hexadecimal digits. -/
def unit? : List Char → Option (Nat × List Char)
  | a :: b :: c :: d :: rest => do
    let a ← Hex.digitValue? a
    let b ← Hex.digitValue? b
    let c ← Hex.digitValue? c
    let d ← Hex.digitValue? d
    return (4096 * a + 256 * b + 16 * c + d, rest)
  | _ => none

/-- The character of an escape other than `\u`. -/
def escape? (c : Char) : Option Char :=
  match c with
  | '"' => some '"'
  | '\\' => some '\\'
  | '/' => some '/'
  | 'b' => some '\x08'
  | 'f' => some '\x0c'
  | 'n' => some '\n'
  | 'r' => some '\r'
  | 't' => some '\t'
  | _ => none

/-- What follows an opening quote, up to the closing one. The characters so far come last
first, or not at all after half of a pair. -/
def text? : Nat → Option (List Char) → List Char → Option (Option String × List Char)
  | 0, _, _ => none
  | _ + 1, _, [] => none
  | _ + 1, out, '"' :: rest => some (out.map fun cs => String.ofList cs.reverse, rest)
  | fuel + 1, out, '\\' :: 'u' :: rest => do
    let (unit, rest) ← unit? rest
    if 0xD800 ≤ unit ∧ unit < 0xDC00 then
      match rest with
      | '\\' :: 'u' :: after => do
        let (low, after) ← unit? after
        if 0xDC00 ≤ low ∧ low < 0xE000 then
          let code := 0x10000 + 0x400 * (unit - 0xD800) + (low - 0xDC00)
          text? fuel (out.map (Char.ofNat code :: ·)) after
        else text? fuel none rest
      | rest => text? fuel none rest
    else if 0xDC00 ≤ unit ∧ unit < 0xE000 then text? fuel none rest
    else text? fuel (out.map (Char.ofNat unit :: ·)) rest
  | fuel + 1, out, '\\' :: c :: rest => do
    let c ← escape? c
    text? fuel (out.map (c :: ·)) rest
  | fuel + 1, out, c :: rest =>
    if c < ' ' ∨ c = '\\' then none else text? fuel (out.map (c :: ·)) rest

mutual

def value? : Nat → List Char → Option (Json × List Char)
  | 0, _ => none
  | fuel + 1, cs =>
    match skip cs with
    | 'n' :: rest => do return (.null, ← word? "ull".toList rest)
    | 't' :: rest => do return (.boolean true, ← word? "rue".toList rest)
    | 'f' :: rest => do return (.boolean false, ← word? "alse".toList rest)
    | '"' :: rest => do
      let (s, rest) ← text? (rest.length + 1) (some []) rest
      return (.string s, rest)
    | '[' :: rest =>
      match skip rest with
      | ']' :: rest => some (.array [], rest)
      | rest => do
        let (items, rest) ← items? fuel rest
        return (.array items, rest)
    | '\x7b' :: rest =>
      match skip rest with
      | '\x7d' :: rest => some (.object [], rest)
      | rest => do
        let (fields, rest) ← fields? fuel rest
        return (.object fields, rest)
    | rest => number? rest

/-- Items with commas between, and the closing bracket. -/
def items? : Nat → List Char → Option (List Json × List Char)
  | 0, _ => none
  | fuel + 1, cs => do
    let (item, rest) ← value? fuel cs
    match skip rest with
    | ',' :: rest => do
      let (items, rest) ← items? fuel rest
      return (item :: items, rest)
    | ']' :: rest => some ([item], rest)
    | _ => none

/-- Fields with commas between, and the closing brace. -/
def fields? : Nat → List Char → Option (List (Option String × Json) × List Char)
  | 0, _ => none
  | fuel + 1, cs =>
    match skip cs with
    | '"' :: rest => do
      let (key, rest) ← text? (rest.length + 1) (some []) rest
      match skip rest with
      | ':' :: rest => do
        let (value, rest) ← value? fuel rest
        match skip rest with
        | ',' :: rest => do
          let (fields, rest) ← fields? fuel rest
          return ((key, value) :: fields, rest)
        | '\x7d' :: rest => some ([(key, value)], rest)
        | _ => none
      | _ => none
    | _ => none

end

/-- The value that a whole text is. -/
def parse? (text : String) : Option Json := do
  let cs := text.toList
  let (value, rest) ← value? (2 * cs.length + 2) cs
  if (skip rest).isEmpty then some value else none

end Json

end Docbase
