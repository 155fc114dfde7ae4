import Docbase.Unicode.Derived

/-!
Sets of characters as sets of byte strings: each set is a list of sequences of byte ranges, in
ascending order, such that a text is the UTF-8 form of a member if and only if its bytes lie in
the ranges of one sequence, one by one.
-/
namespace Docbase.Pattern

/-- Bytes from the first to the second, ends included. -/
abbrev ByteRange := Nat × Nat

namespace ByteSequence

/-- The bytes of the UTF-8 form of a code point. -/
def encode (code : Nat) : List Nat :=
  if code < 0x80 then [code]
  else if code < 0x800 then [0xC0 + code / 0x40, 0x80 + code % 0x40]
  else if code < 0x10000 then
    [0xE0 + code / 0x1000, 0x80 + code / 0x40 % 0x40, 0x80 + code % 0x40]
  else
    [0xF0 + code / 0x40000, 0x80 + code / 0x1000 % 0x40, 0x80 + code / 0x40 % 0x40,
      0x80 + code % 0x40]

/-- Where a range has to be cut at the borders of blocks of some size, if its ends lie in
different blocks. -/
private def blockCut? (block low high : Nat) : Option Nat :=
  if low / block = high / block then none
  else if low % block ≠ 0 then some (low / block * block + block - 1)
  else if high % block ≠ block - 1 then some (high / block * block - 1)
  else none

/-- The last code point of the first part, for a range that is no single sequence: parts have
one length in bytes, and all continuations of what differs. -/
private def cut? (low high : Nat) : Option Nat :=
  [0x7F, 0x7FF, 0xFFFF].find? (fun last => low ≤ last && last < high) <|>
    if high ≤ 0x7F then none
    else
      blockCut? 0x40 low high <|> blockCut? 0x1000 low high <|> blockCut? 0x40000 low high

/-- The sequences of a range without surrogates. -/
def ofRange (low high : Nat) : List (List ByteRange) :=
  match cut? low high with
  | some last =>
    if _h : low ≤ last ∧ last < high then ofRange low last ++ ofRange (last + 1) high
    else [(encode low).zip (encode high)]
  | none => [(encode low).zip (encode high)]
termination_by high + 1 - low

def ofSet (s : Unicode.CharSet) : List (List ByteRange) :=
  (s.diff Unicode.surrogates).ranges.flatMap fun r => ofRange r.1 r.2

end ByteSequence

end Docbase.Pattern
