import Docbase.Unicode.Named

/-!
The sets of characters that patterns have names for: classes in brackets, digits, blanks and the
characters of words, in ASCII or in all of Unicode.
-/
namespace Docbase.Pattern.CharClass

open Unicode (CharSet)

/-- The classes that a pattern names inside brackets, such as `[:alpha:]`. -/
def posix? (name : String) : Option CharSet :=
  match name with
  | "alnum" => some (.ofText "30-39 41-5A 61-7A")
  | "alpha" => some (.ofText "41-5A 61-7A")
  | "ascii" => some (.ofText "0-7F")
  | "blank" => some (.ofText "9 20")
  | "cntrl" => some (.ofText "0-1F 7F")
  | "digit" => some (.ofText "30-39")
  | "graph" => some (.ofText "21-7E")
  | "lower" => some (.ofText "61-7A")
  | "print" => some (.ofText "20-7E")
  | "punct" => some (.ofText "21-2F 3A-40 5B-60 7B-7E")
  | "space" => some (.ofText "9-D 20")
  | "upper" => some (.ofText "41-5A")
  | "word" => some (.ofText "30-39 41-5A 5F 61-7A")
  | "xdigit" => some (.ofText "30-39 41-46 61-66")
  | _ => none

private def asciiWord : CharSet := .ofText "30-39 41-5A 5F 61-7A"

private def unicodeWord : CharSet := Unicode.wordCharacters

def word (unicode : Bool) : CharSet := if unicode then unicodeWord else asciiWord

def digit (unicode : Bool) : CharSet :=
  if unicode then Unicode.decimalDigits else .ofText "30-39"

def space (unicode : Bool) : CharSet :=
  if unicode then Unicode.whiteSpace else .ofText "9-D 20"

private def capitals : CharSet := .range 0x41 0x5A

private def smalls : CharSet := .range 0x61 0x7A

private def shifted (s : CharSet) (up : Bool) : CharSet :=
  .ofRanges (s.ranges.map fun r => if up then (r.1 + 32, r.2 + 32) else (r.1 - 32, r.2 - 32))

/-- The members of a set and what differs from one in case only. -/
def folded (unicode : Bool) (s : CharSet) : CharSet :=
  if unicode then s.folded
  else .unionAll [s, shifted (s.inter capitals) true, shifted (s.inter smalls) false]

end Docbase.Pattern.CharClass
