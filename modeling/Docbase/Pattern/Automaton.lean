import Docbase.Pattern.ByteSequence
import Docbase.Pattern.Syntax
import Std.Data.HashMap

/-!
How large the automaton for a pattern is. Automata read bytes; a pattern is refused if its
automaton, or the one that reads backwards, takes too much memory. A state takes 32 bytes, a
transition of a state with several 8, and a branch to another state 4. Only sizes are computed
here, along the way in which the automaton would be built.
-/
namespace Docbase.Pattern

namespace Automaton

/-- What has been built: the number of states, which is the number of the next one, and the
memory for transitions and branches. -/
structure Size where
  states : Nat
  extra : Nat
  deriving DecidableEq, Repr

/-- How a part of an automaton is left: a branching state gets a further branch when it is
joined to what follows. -/
inductive Exit where
  | plain
  | branching
  deriving DecidableEq, Repr

namespace Size

def zero : Size := ⟨0, 0⟩

def memory (s : Size) : Nat := 32 * s.states + s.extra

/-- Ten mebibytes. -/
def limit : Nat := 10485760

def tooLarge (s : Size) : Bool := limit < s.memory

/-- A new state. -/
def add (s : Size) : Size := ⟨s.states + 1, s.extra⟩

def addStates (s : Size) (n : Nat) : Size := ⟨s.states + n, s.extra⟩

/-- A new state with transitions. -/
def addTransitions (s : Size) (n : Nat) : Size := ⟨s.states + 1, s.extra + 8 * n⟩

def addBranches (s : Size) (n : Nat) : Size := ⟨s.states, s.extra + 4 * n⟩

def join (s : Size) : Exit → Size
  | .plain => s
  | .branching => s.addBranches 1

end Size

/-! Sets of characters. States for the ends of byte sequences are shared. Those built so far are
found through a table with a fixed number of slots, in which a later state replaces an earlier
one of the same slot. -/

/-- A transition: the ends of a byte range and the state it leads to. -/
abbrev Transition := Nat × Nat × Nat

/-- The slot of some numbers in a table. -/
def slot (count : Nat) (numbers : List Nat) : Nat :=
  (numbers.foldl (fun (h : UInt64) n => (h ^^^ n.toUInt64) * 1099511628211)
    14695981039346656037).toNat % count

/-- States by slot, each with what it was built from. -/
abbrev Shared := Std.HashMap Nat (List Nat × Nat)

def Shared.find? (table : Shared) (place : Nat) (numbers : List Nat) : Option Nat :=
  match table[place]? with
  | some (held, state) => if held = numbers then some state else none
  | none => none

/-- A state whose transitions are still being collected: those finished, the last first, and
the byte range of the one that the current sequence follows. -/
structure OpenState where
  done : List Transition
  last : Option ByteRange

/-- The transition in progress leads to a state. -/
def OpenState.close (o : OpenState) (next : Nat) : OpenState :=
  match o.last with
  | some (low, high) => ⟨(low, high, next) :: o.done, none⟩
  | none => o

/-- The part of a set that has been built. The open states stand on the way of the current
sequence, the deepest first. -/
structure SetBuilding where
  size : Size
  shared : Shared
  way : List OpenState

namespace SetBuilding

private def numbersOf (ts : List Transition) : List Nat := ts.flatMap fun t => [t.1, t.2.1, t.2.2]

/-- The state with some transitions, built unless it is at hand. -/
def build (b : SetBuilding) (ts : List Transition) : SetBuilding × Nat :=
  let numbers := numbersOf ts
  let place := slot 10000 numbers
  match b.shared.find? place numbers with
  | some state => (b, state)
  | none =>
    (⟨b.size.addTransitions ts.length, b.shared.insert place (numbers, b.size.states), b.way⟩,
      b.size.states)

/-- Builds the states of the way below a depth; the last of them leads to `next`. -/
def closeBelow (b : SetBuilding) (depth : Nat) : List OpenState → Nat → SetBuilding
  | [], _ => b
  | o :: rest, next =>
    if rest.length ≤ depth then ⟨b.size, b.shared, o.close next :: rest⟩
    else
      let (b, state) := b.build (o.close next).done.reverse
      closeBelow b depth rest state

private def sharedLength : List ByteRange → List OpenState → Nat
  | r :: rs, o :: os => if o.last = some r then sharedLength rs os + 1 else 0
  | _, _ => 0

/-- Adds a sequence that comes after all sequences so far. -/
def addSequence (target : Nat) (b : SetBuilding) (ranges : List ByteRange) : SetBuilding :=
  let depth := sharedLength ranges b.way.reverse
  let b := closeBelow b depth b.way target
  match b.way, ranges.drop depth with
  | o :: rest, r :: more =>
    ⟨b.size, b.shared,
      (more.map fun r => ⟨[], some r⟩).reverse ++ ⟨o.done, some r⟩ :: rest⟩
  | _, _ => b

def finish (target : Nat) (b : SetBuilding) : Size :=
  let b := closeBelow b 0 b.way target
  match b.way with
  | o :: _ => (b.build o.done.reverse).1.size
  | [] => b.size

end SetBuilding

/-- A set read forwards: states for common starts and common ends are shared. -/
def addSet (sequences : List (List ByteRange)) (s : Size) : Size :=
  let target := s.states
  let fresh : SetBuilding := ⟨s.add, ∅, [⟨[], none⟩]⟩
  (sequences.foldl (SetBuilding.addSequence target) fresh).finish target

/-- A set read backwards: a branch to the end of every sequence; common starts are shared. -/
def addSetBackward (sequences : List (List ByteRange)) (s : Size) : Size :=
  let target := s.states + 1
  let step := fun (state : Size × Shared × Nat) (r : ByteRange) =>
    let (s, shared, next) := state
    let numbers := [next, r.1, r.2]
    let place := slot 1000 numbers
    match shared.find? place numbers with
    | some known => (s, shared, known)
    | none => (s.add, shared.insert place (numbers, s.states), s.states)
  (sequences.foldl (fun (state : Size × Shared) ranges =>
    let (s, shared, _) := ranges.foldl step (state.1, state.2, target)
    (s.addBranches 1, shared)) (s.addStates 2, (∅ : Shared))).1

def addChars (backward : Bool) (set : Unicode.CharSet) (s : Size) : Size :=
  if set.isAscii then s.add.addTransitions set.ranges.length
  else if backward then addSetBackward (ByteSequence.ofSet set) s
  else addSet (ByteSequence.ofSet set) s

/-! Alternatives that are all texts share their common starts. -/

/-- The words without their first bytes, for each first byte. -/
def tailsByHead (words : List (List Nat)) : List (List (List Nat)) :=
  let heads := (words.filterMap List.head?).eraseDups
  heads.map fun h => words.filterMap fun w =>
    match w with
    | b :: rest => if b = h then some rest else none
    | [] => none

/-- Cuts a list of words at the empty ones. -/
def cutAtEmpty : List (List Nat) → List (List (List Nat))
  | [] => [[]]
  | [] :: rest => [] :: cutAtEmpty rest
  | w :: rest =>
    match cutAtEmpty rest with
    | first :: others => (w :: first) :: others
    | [] => [[w]]

/-- Of several empty words at the start one counts. -/
def dropRepeatedEmpty : List (List Nat) → List (List Nat)
  | [] :: [] :: rest => dropRepeatedEmpty ([] :: rest)
  | words => words

/-- A tree of words of bounded length. Words that come after the end of another one are put in
a branch of their own. -/
def addWords : Nat → List (List Nat) → Size → Size
  | 0, _, s => s
  | depth + 1, words, s =>
    let chunks := cutAtEmpty (dropRepeatedEmpty words)
    let s := chunks.foldl (fun s chunk =>
      let tails := tailsByHead chunk
      let s := tails.foldl (fun s ts => if ts.all List.isEmpty then s else addWords depth ts s) s
      match tails.length with
      | 0 => s
      | 1 => s.add
      | n => s.addTransitions n) s
    s.add.addBranches ((chunks.filter (!·.isEmpty)).length + (chunks.length - 1))

private def literal? : Pattern → Option (List Char)
  | .literal cs => some cs
  | _ => none

private def wordOf (backward : Bool) (cs : List Char) : List Nat :=
  let bytes := cs.flatMap fun c => ByteSequence.encode c.toNat
  if backward then bytes.reverse else bytes

/-! Repetitions stop once the automaton is too large. -/

/-- A part some times more. -/
def addTimes (part : Size → Size × Exit) : Nat → Size × Exit → Size × Exit
  | 0, r => r
  | n + 1, (s, e) =>
    if s.tooLarge then (s, e)
    else
      let (s, next) := part s
      addTimes part n (s.join e, next)

def addExactly (part : Size → Size × Exit) : Nat → Size → Size × Exit
  | 0, s => (s.add, .plain)
  | n + 1, s => addTimes part n (part s)

/-- A part that may be left out, some times in a row. -/
def addOptional (part : Size → Size × Exit) (n : Nat) (r : Size × Exit) : Size × Exit :=
  let (s, e) := addTimes (fun s =>
    let (s, e) := part s.add
    (s.addBranches 2, e)) n (r.1.add, r.2)
  (s.join e, .plain)

def addRepeated (part : Size → Size × Exit) (consumes : Bool) (least : Nat) :
    Option Nat → Size → Size × Exit
  | none, s =>
    if least = 0 then
      if consumes then
        let (s, e) := part s.add
        ((s.addBranches 1).join e, .branching)
      else
        let (s, e) := part s
        (((s.addStates 3).addBranches 4).join e, .plain)
    else
      let (s, e) := addExactly part least s
      ((s.add.addBranches 1).join e, .branching)
  | some most, s =>
    if least = 0 ∧ most = 1 then
      let (s, e) := part s.add
      ((s.add.addBranches 2).join e, .plain)
    else
      let r := addExactly part least s
      if least = most then r else addOptional part (most - least) r

mutual

/-- The size with a further pattern. -/
def addPattern (backward : Bool) : Pattern → Size → Size × Exit
  | .empty, s | .assertion _, s => (s.add, .plain)
  | .literal cs, s => (s.addStates (cs.map charWidth).sum, .plain)
  | .chars set, s => (addChars backward set s, .plain)
  | .capture _ p, s =>
    if backward then addPattern backward p s
    else
      let (s, e) := addPattern backward p s.add
      (s.add.join e, .plain)
  | .concat parts, s =>
    if backward then addBackward parts s
    else addForward parts none s
  | .choice options, s =>
    match options.mapM literal? with
    | some texts =>
      let words := texts.map (wordOf backward)
      (addWords ((words.map List.length).sum + 1) words s.add, .plain)
    | none => (addOptions backward options 0 s, .plain)
  | .repeated p least most, s =>
    addRepeated (addPattern backward p) (p.minWidth.any (0 < ·)) least most s

def addForward : List Pattern → Option Exit → Size → Size × Exit
  | [], e, s => (s, e.getD .plain)
  | p :: rest, e, s =>
    let (s, next) := addPattern false p s
    addForward rest (some next) (match e with | some e => s.join e | none => s)

/-- The last part comes first. -/
def addBackward : List Pattern → Size → Size × Exit
  | [], s => (s, .plain)
  | p :: rest, s =>
    let (s, e) := addBackward rest s
    let (s, next) := addPattern true p s
    (s.join e, next)

/-- The states before and after the alternatives are built when two of them are. -/
def addOptions (backward : Bool) : List Pattern → Nat → Size → Size
  | [], _, s => s
  | p :: rest, i, s =>
    let (s, e) := addPattern backward p s
    let s := (s.addBranches 1).join e
    addOptions backward rest (i + 1) (if i = 1 then s.addStates 2 else s)

end

/-- The size of the automaton for a whole pattern. It may skip bytes at its start, unless the
pattern holds at one end of the text only, and has a state for the match. -/
def sizeFor (backward : Bool) (p : Pattern) : Size :=
  let fixed := if backward then p.endsWith .textEnd else p.startsWith .textStart
  let start : Size := if fixed then ⟨1, 0⟩ else ⟨3, 12⟩
  let s :=
    if backward then
      let (s, e) := addPattern true p start
      s.add.join e
    else (addPattern false (.capture 0 p) start).1.add
  s.join (if fixed then .plain else .branching)

end Automaton

/-- Both automata for the pattern are small enough. -/
def fits (p : Pattern) : Bool :=
  !(Automaton.sizeFor false p).tooLarge && !(Automaton.sizeFor true p).tooLarge

end Docbase.Pattern
