import Docbase.Unicode.CharSet

/-!
Patterns as trees. Only whether a text holds a match counts, so groups do not capture and
greed is not kept; that there is a numbered group is kept, as it takes part in the size of the
automaton.
-/
namespace Docbase

namespace Pattern

/-- Conditions on a place in the text. -/
inductive Assertion where
  | textStart
  | textEnd
  | lineStart (withReturn : Bool)
  | lineEnd (withReturn : Bool)
  | wordBoundary (unicode : Bool)
  | noWordBoundary (unicode : Bool)
  | wordStart (unicode : Bool)
  | wordEnd (unicode : Bool)
  | halfStart (unicode : Bool)
  | halfEnd (unicode : Bool)
  deriving DecidableEq, Repr

end Pattern

inductive Pattern where
  | empty
  | literal (text : List Char)
  | chars (set : Unicode.CharSet)
  | assertion (a : Pattern.Assertion)
  | capture (number : Nat) (p : Pattern)
  | concat (parts : List Pattern)
  | choice (options : List Pattern)
  | repeated (p : Pattern) (least : Nat) (most : Option Nat)
  deriving BEq, Inhabited

namespace Pattern

/-- How many bytes the UTF-8 form of a code point takes. -/
def codeWidth (code : Nat) : Nat :=
  if code < 0x80 then 1 else if code < 0x800 then 2 else if code < 0x10000 then 3 else 4

def charWidth (c : Char) : Nat := codeWidth c.toNat

mutual

/-- The least number of bytes in a match; `none` if nothing matches. -/
def minWidth : Pattern → Option Nat
  | .empty | .assertion _ => some 0
  | .literal text => some (text.map charWidth).sum
  | .chars set => set.changes.head?.map codeWidth
  | .capture _ p => minWidth p
  | .concat parts => minWidths parts
  | .choice options => leastWidth options
  | .repeated p least _ => (minWidth p).map (· * least)

def minWidths : List Pattern → Option Nat
  | [] => some 0
  | p :: rest => (minWidth p).bind fun m => (minWidths rest).map (m + ·)

def leastWidth : List Pattern → Option Nat
  | [] => none
  | [p] => minWidth p
  | p :: rest => (minWidth p).bind fun m => (leastWidth rest).map (min m)

end

mutual

/-- The greatest number of bytes in a match; `none` if there is no bound or no match. -/
def maxWidth : Pattern → Option Nat
  | .empty | .assertion _ => some 0
  | .literal text => some (text.map charWidth).sum
  | .chars set => set.changes.getLast?.map fun stop => codeWidth (stop - 1)
  | .capture _ p => maxWidth p
  | .concat parts => maxWidths parts
  | .choice options => greatestWidth options
  | .repeated p _ most => most.bind fun n => (maxWidth p).map (· * n)

def maxWidths : List Pattern → Option Nat
  | [] => some 0
  | p :: rest => (maxWidth p).bind fun m => (maxWidths rest).map (m + ·)

def greatestWidth : List Pattern → Option Nat
  | [] => none
  | [p] => maxWidth p
  | p :: rest => (maxWidth p).bind fun m => (greatestWidth rest).map (max m)

end

/-- Takes part in no text, as a condition does. -/
def isBare (p : Pattern) : Bool := p.maxWidth == some 0

mutual

/-- Every match starts with a condition, which is put to a place without text before it. -/
def startsWith (a : Assertion) : Pattern → Bool
  | .assertion b => a = b
  | .capture _ p => startsWith a p
  | .concat parts => someStart a parts
  | .choice options => everyStart a options
  | .repeated p least _ => decide (0 < least) && startsWith a p
  | .empty | .literal _ | .chars _ => false

def someStart (a : Assertion) : List Pattern → Bool
  | [] => false
  | p :: rest => startsWith a p || (p.isBare && someStart a rest)

def everyStart (a : Assertion) : List Pattern → Bool
  | [] => true
  | p :: rest => startsWith a p && everyStart a rest

end

mutual

/-- Every match ends with a condition. -/
def endsWith (a : Assertion) : Pattern → Bool
  | .assertion b => a = b
  | .capture _ p => endsWith a p
  | .concat parts => someEnd a parts
  | .choice options => everyEnd a options
  | .repeated p least _ => decide (0 < least) && endsWith a p
  | .empty | .literal _ | .chars _ => false

def someEnd (a : Assertion) : List Pattern → Bool
  | [] => false
  | p :: rest => (rest.all isBare && endsWith a p) || someEnd a rest

def everyEnd (a : Assertion) : List Pattern → Bool
  | [] => true
  | p :: rest => endsWith a p && everyEnd a rest

end

/-! Constructors that keep patterns in simple form. -/

def fail : Pattern := .chars .empty

/-- A set with one member is that character. -/
def ofSet (set : Unicode.CharSet) : Pattern :=
  match set.onlyMember? with
  | some code => .literal [Char.ofNat code]
  | none => .chars set

/-- The parts of a sequence, none for what matches only the empty text. -/
def parts : Pattern → List Pattern
  | .empty => []
  | .concat ps => ps
  | p => [p]

/-- Neighbouring texts become one. -/
def joinLiterals : List Pattern → List Pattern
  | [] => []
  | p :: rest =>
    match p, joinLiterals rest with
    | .literal a, .literal b :: rest => .literal (a ++ b) :: rest
    | p, rest => p :: rest

def sequence (ps : List Pattern) : Pattern :=
  match joinLiterals (ps.flatMap parts) with
  | [] => .empty
  | [p] => p
  | ps => .concat ps

def options : Pattern → List Pattern
  | .choice ps => ps
  | p => [p]

private def singleChar? : Pattern → Option Nat
  | .literal [c] => some c.toNat
  | _ => none

private def set? : Pattern → Option Unicode.CharSet
  | .chars set => some set
  | _ => none

private def concat? : Pattern → Option (List Pattern)
  | .concat ps => some ps
  | _ => none

private def commonPrefix : List Pattern → List Pattern → List Pattern
  | a :: as, b :: bs => if a == b then a :: commonPrefix as bs else []
  | _, _ => []

/-- The parts that all sequences start with. -/
private def sharedStart : List (List Pattern) → List Pattern
  | [] => []
  | [ps] => ps
  | ps :: rest => commonPrefix ps (sharedStart rest)

/-- Alternatives. Single characters and sets become one set, and parts that all alternatives
start with are taken out in front. The number bounds how often that is done. -/
private def alternativesWithin : Nat → List Pattern → Pattern
  | 0, ps => .choice ps
  | fuel + 1, ps =>
    match ps.flatMap options with
    | [] => fail
    | [p] => p
    | ps =>
      match ps.mapM singleChar? with
      | some codes => ofSet (.unionAll (codes.map .single))
      | none =>
        match ps.mapM set? with
        | some sets => ofSet (.unionAll sets)
        | none =>
          match ps.mapM concat? with
          | none => .choice ps
          | some lists =>
            let shared := sharedStart lists
            if shared.isEmpty then .choice ps
            else
              sequence (shared ++
                [alternativesWithin fuel (lists.map fun l => sequence (l.drop shared.length))])

mutual

private def partCount : Pattern → Nat
  | .empty | .literal _ | .chars _ | .assertion _ => 1
  | .capture _ p | .repeated p _ _ => partCount p + 1
  | .concat ps | .choice ps => partCounts ps + 1

private def partCounts : List Pattern → Nat
  | [] => 0
  | p :: rest => partCount p + partCounts rest

end

def alternatives (ps : List Pattern) : Pattern := alternativesWithin (partCounts ps + 2) ps

/-- What takes part in no text is repeated once at most. -/
def repeating (p : Pattern) (least : Nat) (most : Option Nat) : Pattern :=
  let (least, most) :=
    if p.isBare then (min least 1, some (min (most.getD 1) 1)) else (least, most)
  if least = 0 ∧ most = some 0 then .empty
  else if least = 1 ∧ most = some 1 then p
  else .repeated p least most

end Pattern

end Docbase
