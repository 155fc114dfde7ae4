import Docbase.Pattern.CharClass
import Docbase.Pattern.Syntax

/-!
Whether a text holds a match of a pattern. A set of places in the text is carried through the
pattern: each part maps the places where it may start to the places where it may end, so the
work is bounded by the size of the pattern times that of the text for every repetition.
-/
namespace Docbase.Pattern

/-- For each place before, between and after the characters whether it is in the set. -/
abbrev Places := Array Bool

namespace Places

def all (text : Array Char) : Places := Array.replicate (text.size + 1) true

def union (a b : Places) : Places := Array.zipWith (· || ·) a b

def isEmpty (a : Places) : Bool := !a.any id

end Places

private def charBefore (text : Array Char) (i : Nat) : Option Char :=
  if i = 0 then none else text[i - 1]?

private def isWord (unicode : Bool) : Option Char → Bool
  | some c => (CharClass.word unicode).contains c.toNat
  | none => false

namespace Assertion

/-- Whether the condition holds between two characters; `none` is the end of the text. -/
def holds (a : Assertion) (before after : Option Char) : Bool :=
  match a with
  | .textStart => before.isNone
  | .textEnd => after.isNone
  | .lineStart false => before.isNone || before == some '\n'
  | .lineEnd false => after.isNone || after == some '\n'
  | .lineStart true =>
    before.isNone || before == some '\n' || (before == some '\r' && after != some '\n')
  | .lineEnd true =>
    after.isNone || after == some '\r' || (after == some '\n' && before != some '\r')
  | .wordBoundary u => isWord u before != isWord u after
  | .noWordBoundary u => isWord u before == isWord u after
  | .wordStart u => !isWord u before && isWord u after
  | .wordEnd u => isWord u before && !isWord u after
  | .halfStart u => !isWord u before
  | .halfEnd u => !isWord u after

end Assertion

/-- One character of a class further. -/
def stepChars (text : Array Char) (set : Unicode.CharSet) (starts : Places) : Places :=
  Array.ofFn fun i : Fin (text.size + 1) =>
    if i.val = 0 then false
    else
      starts.getD (i.val - 1) false &&
        match text[i.val - 1]? with
        | some ch => set.contains ch.toNat
        | none => false

/-- One given character further. -/
def stepChar (text : Array Char) (c : Char) (starts : Places) : Places :=
  Array.ofFn fun i : Fin (text.size + 1) =>
    if i.val = 0 then false
    else starts.getD (i.val - 1) false && text[i.val - 1]? == some c

def stepAssertion (text : Array Char) (a : Assertion) (starts : Places) : Places :=
  Array.ofFn fun i : Fin (text.size + 1) =>
    starts.getD i.val false && a.holds (charBefore text i.val) (text[i.val]?)

/-- Applies a step exactly that many times, stopping early when no place is left. -/
def exactly (step : Places → Places) : Nat → Places → Places
  | 0, s => s
  | n + 1, s => if s.isEmpty then s else exactly step n (step s)

/-- Applies a step at most that many times, stopping early when nothing is added. -/
def upTo (step : Places → Places) : Nat → Places → Places
  | 0, s => s
  | n + 1, s =>
    let t := s.union (step s)
    if t == s then s else upTo step n t

mutual

/-- The places where a match may end, given where it may start. -/
def advance (text : Array Char) : Pattern → Places → Places
  | .empty, s => s
  | .literal cs, s => cs.foldl (fun s c => stepChar text c s) s
  | .chars set, s => stepChars text set s
  | .assertion a, s => stepAssertion text a s
  | .capture _ p, s => advance text p s
  | .concat parts, s => advanceAll text parts s
  | .choice options, s => advanceAny text options s
  | .repeated p least most, s =>
    let required := exactly (advance text p) least s
    match most with
    | none => upTo (advance text p) (text.size + 1) required
    | some m => upTo (advance text p) (m - least) required

/-- One part after another. -/
def advanceAll (text : Array Char) : List Pattern → Places → Places
  | [], s => s
  | p :: rest, s => advanceAll text rest (advance text p s)

/-- The places that one of the alternatives leads to. -/
def advanceAny (text : Array Char) : List Pattern → Places → Places
  | [], s => Array.replicate s.size false
  | p :: rest, s => (advance text p s).union (advanceAny text rest s)

end

/-- Whether some part of the text matches. -/
def isMatch (p : Pattern) (text : String) : Bool :=
  let chars := text.toList.toArray
  !(advance chars p (Places.all chars)).isEmpty

end Docbase.Pattern
