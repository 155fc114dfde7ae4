import Docbase.Binary64.Power
import Docbase.Pattern.Automaton
import Docbase.Pattern.CharClass
import Docbase.Unicode.Later

/-!
Reading patterns. Flags hold from where they are set to the end of the group around them.
With the blank flag, white space and comments from `#` to the end of the line are skipped
everywhere, also inside brackets. Patterns may not be nested too deep, nor may their automata be
too large. A text that is no pattern gives `none`.
-/
namespace Docbase.Pattern

open Unicode (CharSet)

structure Flags where
  ignoreCase : Bool
  multiLine : Bool
  dotAll : Bool
  extended : Bool
  unicode : Bool
  withReturn : Bool
  deriving DecidableEq, Repr

namespace Parser

def skipComment : List Char → List Char
  | [] => []
  | c :: rest => if c = '\n' then rest else skipComment rest

private def skipBlankFrom : Nat → List Char → List Char
  | 0, cs => cs
  | _ + 1, [] => []
  | fuel + 1, c :: rest =>
    if Unicode.isWhiteSpace c then skipBlankFrom fuel rest
    else if c = '#' then skipBlankFrom fuel (skipComment rest)
    else c :: rest

def skipBlank (f : Flags) (cs : List Char) : List Char :=
  if f.extended then skipBlankFrom (cs.length + 1) cs else cs

/-- What a backslash and the characters after it stand for. -/
inductive Escape where
  /-- A character; `byte` tells that it was written as two hexadecimal digits. -/
  | char (c : Char) (byte : Bool)
  | cls (s : CharSet)
  | assertion (a : Assertion)

def isMeta (c : Char) : Bool := "\\.+*?()|[]\x7b\x7d^$#&-~".toList.contains c

def isEscapable (c : Char) : Bool :=
  isMeta c ||
    (decide (c.toNat < 0x80) && !c.isAlphanum && c != '<' && c != '>')

private def char? (code : Nat) : Option Char :=
  if code < 0xD800 ∨ (0xDFFF < code ∧ code ≤ Unicode.lastCode) then some (Char.ofNat code)
  else none

private def hexValue (digits : List Char) : Nat :=
  digits.foldl (fun n c => 16 * n + (Hex.digitValue? c).getD 0) 0

private def isHex (c : Char) : Bool := (Hex.digitValue? c).isSome

/-- The digits of an escape with a fixed number of them. -/
def hexDigits (f : Flags) : Nat → List Char → Option (List Char × List Char)
  | 0, cs => some ([], cs)
  | n + 1, c :: rest =>
    if isHex c then do
      let (digits, rest) ← hexDigits f n (skipBlank f rest)
      return (c :: digits, rest)
    else none
  | _ + 1, [] => none

/-- The digits of an escape in braces. -/
def hexUntilBrace (f : Flags) : Nat → List Char → Option (List Char × List Char)
  | 0, _ => none
  | _ + 1, [] => none
  | fuel + 1, c :: rest =>
    if c = '\x7d' then some ([], skipBlank f rest)
    else if isHex c then do
      let (digits, rest) ← hexUntilBrace f fuel (skipBlank f rest)
      return (c :: digits, rest)
    else none

def hexEscape (f : Flags) (kind : Char) (cs : List Char) : Option (Escape × List Char) :=
  match skipBlank f cs with
  | [] => none
  | '\x7b' :: rest => do
    let (digits, rest) ← hexUntilBrace f (rest.length + 1) (skipBlank f rest)
    if digits.isEmpty then none
    else return (.char (← char? (hexValue digits)) false, rest)
  | cs => do
    let count := if kind = 'x' then 2 else if kind = 'u' then 4 else 8
    let (digits, rest) ← hexDigits f count cs
    return (.char (← char? (hexValue digits)) (kind == 'x'), rest)

/-- The name of a set in braces, everything up to the closing brace. -/
def nameUntilBrace (f : Flags) : Nat → List Char → Option (List Char × List Char)
  | 0, _ => none
  | _ + 1, [] => none
  | fuel + 1, c :: rest =>
    if c = '\x7d' then some ([], rest)
    else do
      let (name, rest) ← nameUntilBrace f fuel (skipBlank f rest)
      return (c :: name, rest)

/-- Cuts a name at the first place where a separator starts. -/
def cutAt (separator : List Char) : List Char → Option (List Char × List Char)
  | [] => none
  | c :: rest =>
    if separator.isPrefixOf (c :: rest) then some ([], (c :: rest).drop separator.length)
    else (cutAt separator rest).map fun (a, b) => (c :: a, b)

/-- The set that a name means and whether the name asks for its complement. -/
def namedSet (name : List Char) : Option (CharSet × Bool) :=
  let valued (property value : List Char) : Option CharSet :=
    Unicode.valued? (Unicode.normalizeName property) (Unicode.normalizeName value)
  match cutAt ['!', '='] name with
  | some (p, v) => (valued p v).map fun s => (s, true)
  | none =>
    match cutAt [':'] name <|> cutAt ['='] name with
    | some (p, v) => (valued p v).map fun s => (s, false)
    | none => (Unicode.named? (Unicode.normalizeName name)).map fun s => (s, false)

def foldIf (f : Flags) (s : CharSet) : CharSet :=
  if f.ignoreCase then CharClass.folded f.unicode s else s

/-- Without the Unicode flag sets hold bytes, and a complement would hold bytes that are no
characters. -/
def negateIf (f : Flags) (negated : Bool) (s : CharSet) : Option CharSet :=
  if !negated then some s else if f.unicode then some s.complement else none

def setEscape (f : Flags) (negated : Bool) (cs : List Char) : Option (Escape × List Char) := do
  let cs := skipBlank f cs
  let (name, rest) ←
    match cs with
    | [] => none
    | '\x7b' :: rest => nameUntilBrace f (rest.length + 1) (skipBlank f rest)
    | c :: rest => if c = '\\' then none else some ([c], skipBlank f rest)
  let (set, complement) ← namedSet name
  if f.unicode then
    return (.cls (← negateIf f (negated != complement) (foldIf f set)), rest)
  else none

def isBoundaryLetter (c : Char) : Bool := c.isAlpha || c == '-'

/-- The name of a special boundary in braces. -/
def boundaryName (f : Flags) : Nat → List Char → Option (List Char × List Char)
  | 0, _ => none
  | _ + 1, [] => none
  | fuel + 1, c :: rest =>
    if c = '\x7d' then some ([], rest)
    else if isBoundaryLetter c then do
      let (name, rest) ← boundaryName f fuel (skipBlank f rest)
      return (c :: name, rest)
    else none

/-- After `\b`: a boundary named in braces, unless the brace starts a repetition. -/
def boundaryEscape (f : Flags) (cs : List Char) : Option (Escape × List Char) :=
  match cs with
  | '\x7b' :: rest =>
    match skipBlank f rest with
    | [] => none
    | c :: rest =>
      if isBoundaryLetter c then do
        let (name, rest) ← boundaryName f (rest.length + 2) (c :: rest)
        let a ←
          match String.ofList name with
          | "start" => some (Assertion.wordStart f.unicode)
          | "end" => some (.wordEnd f.unicode)
          | "start-half" => some (.halfStart f.unicode)
          | "end-half" => some (.halfEnd f.unicode)
          | _ => none
        return (.assertion a, rest)
      else some (.assertion (.wordBoundary f.unicode), cs)
  | cs => some (.assertion (.wordBoundary f.unicode), cs)

/-- What follows a backslash. -/
def escape (f : Flags) : List Char → Option (Escape × List Char)
  | [] => none
  | c :: rest =>
    if c.isDigit then none
    else if c = 'x' ∨ c = 'u' ∨ c = 'U' then hexEscape f c rest
    else if c = 'p' then setEscape f false rest
    else if c = 'P' then setEscape f true rest
    else if isEscapable c then some (.char c false, rest)
    else
      match c with
      | 'd' => some (.cls (CharClass.digit f.unicode), rest)
      | 'D' => (negateIf f true (CharClass.digit f.unicode)).map fun s => (.cls s, rest)
      | 's' => some (.cls (CharClass.space f.unicode), rest)
      | 'S' => (negateIf f true (CharClass.space f.unicode)).map fun s => (.cls s, rest)
      | 'w' => some (.cls (CharClass.word f.unicode), rest)
      | 'W' => (negateIf f true (CharClass.word f.unicode)).map fun s => (.cls s, rest)
      | 'a' => some (.char '\x07' false, rest)
      | 'f' => some (.char '\x0c' false, rest)
      | 't' => some (.char '\t' false, rest)
      | 'n' => some (.char '\n' false, rest)
      | 'r' => some (.char '\r' false, rest)
      | 'v' => some (.char '\x0b' false, rest)
      | 'A' => some (.assertion .textStart, rest)
      | 'z' => some (.assertion .textEnd, rest)
      | 'b' => boundaryEscape f rest
      | 'B' => some (.assertion (.noWordBoundary f.unicode), rest)
      | '<' => some (.assertion (.wordStart f.unicode), rest)
      | '>' => some (.assertion (.wordEnd f.unicode), rest)
      | _ => none

/-! Classes in brackets. -/

/-- A member of a bracketed class before it is known whether it starts a range. -/
inductive Member where
  | char (c : Char) (byte : Bool)
  | cls (s : CharSet)

def member (f : Flags) : List Char → Option (Member × List Char)
  | [] => none
  | '\\' :: rest =>
    match escape f rest with
    | some (.char c byte, rest) => some (.char c byte, rest)
    | some (.cls s, rest) => some (.cls s, rest)
    | some (.assertion _, _) | none => none
  | c :: rest => some (.char c false, rest)

/-- Without the Unicode flag a class holds ASCII only. -/
def memberCode (f : Flags) : Member → Option Nat
  | .char c _ => if f.unicode || decide (c.toNat < 0x80) then some c.toNat else none
  | .cls _ => none

/-- The first character after blanks, where a comment is taken to end with its first character
that is not blank. -/
def peekBlank (f : Flags) (cs : List Char) : Option Char :=
  if !f.extended then cs.head?
  else
    match cs.dropWhile Unicode.isWhiteSpace with
    | '#' :: rest => rest.find? (!Unicode.isWhiteSpace ·)
    | rest => rest.head?

/-- A character, a set, or a range. A hyphen before `]` or another hyphen is no range. -/
def rangeOrMember (f : Flags) (cs : List Char) : Option (CharSet × List Char) := do
  let (first, rest) ← member f cs
  let rest := skipBlank f rest
  let alone : Option (CharSet × List Char) :=
    match first with
    | .cls s => some (s, rest)
    | .char .. => (memberCode f first).map fun code => (.single code, rest)
  match rest with
  | [] => none
  | '-' :: tail =>
    let next := peekBlank f tail
    if next = some ']' ∨ next = some '-' then alone
    else
      match skipBlank f tail with
      | [] => none
      | tail =>
        let (last, rest) ← member f tail
        let low ← memberCode f first
        let high ← memberCode f last
        if low ≤ high then return (.range low high, rest) else none
  | _ => alone

private def cutName : List Char → List Char × List Char
  | [] => ([], [])
  | c :: rest =>
    if c = ':' then ([], c :: rest)
    else
      let (name, rest) := cutName rest
      (c :: name, rest)

/-- A class named inside brackets, after its own opening bracket: the class, whether its
complement is meant, and the rest. -/
def posixClass? : List Char → Option (CharSet × Bool × List Char)
  | ':' :: rest =>
    let (negated, rest) :=
      match rest with
      | '^' :: rest => (true, rest)
      | rest => (false, rest)
    match cutName rest with
    | (name, ':' :: ']' :: rest) =>
      (CharClass.posix? (String.ofList name)).map fun s => (s, negated, rest)
    | _ => none
  | _ => none

inductive SetOperator where
  | inter | diff | symDiff

def SetOperator.apply : SetOperator → CharSet → CharSet → CharSet
  | .inter => .inter
  | .diff => .diff
  | .symDiff => .symDiff

/-- A set and how deep its text is nested. -/
structure Nested where
  set : CharSet
  depth : Nat

/-- The class built so far: the operand to the left of the last operator, and the union of the
members that follow it with their number and their greatest depth. -/
structure Building where
  left : Option (Nested × SetOperator)
  members : CharSet
  count : Nat
  depth : Nat

namespace Building

def start : Building := ⟨none, .empty, 0, 0⟩

def push (b : Building) (s : Nested) : Building :=
  ⟨b.left, b.members.union s.set, b.count + 1, max b.depth s.depth⟩

/-- Several members are one level deeper than one. -/
def right (b : Building) : Nested := ⟨b.members, if b.count ≤ 1 then b.depth else b.depth + 1⟩

def close (f : Flags) (b : Building) : Nested :=
  match b.left with
  | none => b.right
  | some (left, op) =>
    ⟨op.apply (foldIf f left.set) (foldIf f b.right.set), max left.depth b.right.depth + 1⟩

def operate (f : Flags) (b : Building) (op : SetOperator) : Building :=
  ⟨some (b.close f, op), .empty, 0, 0⟩

end Building

/-- Hyphens at the start of a class, and a bracket that comes first, are characters. -/
def leadingMembers (f : Flags) : Nat → Building → List Char → Option (Building × List Char)
  | 0, _, _ => none
  | fuel + 1, b, cs =>
    match skipBlank f cs with
    | [] => none
    | '-' :: rest => leadingMembers f fuel (b.push ⟨.single '-'.toNat, 0⟩) rest
    | ']' :: rest =>
      if b.count = 0 then
        match skipBlank f rest with
        | [] => none
        | rest => some (b.push ⟨.single ']'.toNat, 0⟩, rest)
      else some (b, ']' :: rest)
    | cs => some (b, cs)

mutual

/-- After the opening bracket of a class. -/
def bracket (f : Flags) : Nat → List Char → Option (Nested × List Char)
  | 0, _ => none
  | fuel + 1, cs => do
    let (negated, cs) ←
      match skipBlank f cs with
      | [] => none
      | '^' :: rest => some (true, rest)
      | cs => some (false, cs)
    let (b, cs) ← leadingMembers f (cs.length + 1) .start cs
    let (s, rest) ← bracketItems f fuel b cs
    return (⟨← negateIf f negated (foldIf f s.set), s.depth + 1⟩, rest)

/-- The members up to the closing bracket, which is consumed. -/
def bracketItems (f : Flags) : Nat → Building → List Char → Option (Nested × List Char)
  | 0, _, _ => none
  | fuel + 1, b, cs =>
    match skipBlank f cs with
    | [] => none
    | ']' :: rest => some (b.close f, rest)
    | '[' :: rest =>
      match posixClass? rest with
      | some (s, negated, rest) => do
        bracketItems f fuel (b.push ⟨← negateIf f negated (foldIf f s), 0⟩) rest
      | none => do
        let (s, rest) ← bracket f fuel rest
        bracketItems f fuel (b.push s) rest
    | '&' :: '&' :: rest => bracketItems f fuel (b.operate f .inter) rest
    | '-' :: '-' :: rest => bracketItems f fuel (b.operate f .diff) rest
    | '~' :: '~' :: rest => bracketItems f fuel (b.operate f .symDiff) rest
    | cs => do
      let (s, rest) ← rangeOrMember f cs
      bracketItems f fuel (b.push ⟨s, 0⟩) rest

end

/-! Groups and flags. -/

/-- The flag letters of a group: each at most once, one hyphen at most, and not at the end. -/
structure FlagLetters where
  flags : Flags
  seen : List Char
  negating : Bool
  afterHyphen : Bool

def setFlag (f : Flags) (letter : Char) (on : Bool) : Option Flags :=
  match letter with
  | 'i' => some { f with ignoreCase := on }
  | 'm' => some { f with multiLine := on }
  | 's' => some { f with dotAll := on }
  | 'U' => some f
  | 'u' => some { f with unicode := on }
  | 'R' => some { f with withReturn := on }
  | 'x' => some { f with extended := on }
  | _ => none

/-- Reads flag letters up to `:` or `)`, and gives that character too. -/
def flagLetters : FlagLetters → List Char → Option (FlagLetters × Char × List Char)
  | _, [] => none
  | s, c :: rest =>
    if c = ':' ∨ c = ')' then
      if s.afterHyphen then none else some (s, c, rest)
    else if c = '-' then
      if s.negating then none
      else flagLetters ⟨s.flags, '-' :: s.seen, true, true⟩ rest
    else if s.seen.contains c then none
    else
      match setFlag s.flags c (!s.negating) with
      | some flags => flagLetters ⟨flags, c :: s.seen, s.negating, false⟩ rest
      | none => none

private def isNameChar (first : Bool) (c : Char) : Bool :=
  if first then c == '_' || Unicode.isAlphabetic c
  else c == '_' || c == '.' || c == '[' || c == ']' || Unicode.isAlphanumeric c

/-- The name of a group up to `>`. -/
def groupName : Bool → List Char → Option (List Char × List Char)
  | _, [] => none
  | first, c :: rest =>
    if c = '>' then some ([], rest)
    else if isNameChar first c then
      (groupName false rest).map fun (name, rest) => (c :: name, rest)
    else none

/-- How a group opens: a group with a number and perhaps a name, one without, or a change of
flags for the rest of the group around it. -/
inductive Opening where
  | numbered (name : Option (List Char))
  | group (flags : Flags)
  | setFlags (flags : Flags)

/-- After an opening parenthesis. -/
def opening (f : Flags) (cs : List Char) : Option (Opening × List Char) :=
  let named (rest : List Char) : Option (Opening × List Char) := do
    let (name, rest) ← groupName true rest
    if name.isEmpty then none else return (.numbered (some name), rest)
  match skipBlank f cs with
  | '?' :: 'P' :: '<' :: rest => named rest
  | '?' :: '<' :: rest => named rest
  | '?' :: rest => do
    let (letters, close, rest) ← flagLetters ⟨f, [], false, false⟩ rest
    if close = ':' then return (.group letters.flags, rest)
    else if letters.seen.isEmpty then none
    else return (.setFlags letters.flags, rest)
  | cs => some (.numbered none, cs)

/-! Sequences, alternatives and repetitions. -/

/-- Decimal digits with blanks around them. -/
def decimal (f : Flags) (cs : List Char) : Option (Nat × List Char) :=
  let cs := cs.dropWhile Unicode.isWhiteSpace
  let rec digits : Nat → List Char → List Char × List Char
    | 0, cs => ([], cs)
    | _ + 1, [] => ([], [])
    | fuel + 1, c :: rest =>
      if c.isDigit then
        let (ds, rest) := digits fuel (skipBlank f rest)
        (c :: ds, rest)
      else ([], c :: rest)
  let (ds, rest) := digits (cs.length + 1) cs
  let n := ds.foldl (fun n c => 10 * n + (c.toNat - '0'.toNat)) 0
  if ds.isEmpty || decide (pow2 32 ≤ n) then none
  else some (n, rest.dropWhile Unicode.isWhiteSpace)

/-- The bounds of a repetition, after its opening brace. -/
def bounds (f : Flags) (cs : List Char) : Option (Nat × Option Nat × List Char) := do
  let (least, rest) ← decimal f (skipBlank f cs)
  let (most, rest) ←
    match rest with
    | ',' :: rest =>
      match skipBlank f rest with
      | '\x7d' :: rest => some (none, '\x7d' :: rest)
      | rest => (decimal f rest).map fun (m, rest) => (some m, rest)
    | rest => some (some least, rest)
  match rest with
  | '\x7d' :: rest =>
    match most with
    | some m => if least ≤ m then return (least, most, rest) else none
    | none => return (least, none, rest)
  | _ => none

def skipLazy : List Char → List Char
  | '?' :: rest => rest
  | cs => cs

/-- A character as written; its variants in case when case is ignored. Without the Unicode flag
a byte beyond ASCII is no character, and only ASCII has variants. -/
def charPattern (f : Flags) (c : Char) (byte : Bool) : Option Pattern :=
  let set := CharSet.single c.toNat
  if f.unicode then some (ofSet (foldIf f set))
  else if c.toNat < 0x80 then some (ofSet (foldIf f set))
  else if byte || f.ignoreCase then none
  else some (.literal [c])

/-- Any character but the ends of lines. Without the Unicode flag it would match bytes that are
no characters. -/
def dot (f : Flags) : Option Pattern :=
  if !f.unicode then none
  else if f.dotAll then some (.chars .all)
  else
    let ends : CharSet := if f.withReturn then .ofText "A D" else .single 0xA
    some (.chars ends.complement)

def caret (f : Flags) : Pattern :=
  .assertion (if f.multiLine then .lineStart f.withReturn else .textStart)

def dollar (f : Flags) : Pattern :=
  .assertion (if f.multiLine then .lineEnd f.withReturn else .textEnd)

/-- A pattern and how deep its text is nested. -/
structure Part where
  pattern : Pattern
  depth : Nat

/-- The part of a group read so far: finished alternatives and the parts of the current one,
the last first, and whether the last part can be repeated. -/
structure Progress where
  alternatives : List Part
  parts : List Part
  repeatable : Bool

namespace Progress

def start : Progress := ⟨[], [], false⟩

def push (s : Progress) (p : Pattern) (depth : Nat) : Progress :=
  ⟨s.alternatives, ⟨p, depth⟩ :: s.parts, true⟩

/-- A change of flags is a part that matches the empty text and cannot be repeated. -/
def pushFlags (s : Progress) : Progress := ⟨s.alternatives, ⟨.empty, 0⟩ :: s.parts, false⟩

/-- Several parts are one level deeper than one. -/
def depthOf : List Part → Nat
  | [] => 0
  | [p] => p.depth
  | ps => (ps.map Part.depth).foldl max 0 + 1

def current (s : Progress) : Part :=
  ⟨sequence (s.parts.reverse.map Part.pattern), depthOf s.parts⟩

def nextAlternative (s : Progress) : Progress := ⟨s.current :: s.alternatives, [], false⟩

def finish (s : Progress) : Part :=
  match s.alternatives with
  | [] => s.current
  | others =>
    let all := s.current :: others
    ⟨Pattern.alternatives (all.reverse.map Part.pattern), depthOf all⟩

/-- Repeats the last part. -/
def repeatLast (s : Progress) (least : Nat) (most : Option Nat) : Option Progress :=
  match s.repeatable, s.parts with
  | true, p :: parts =>
    some ⟨s.alternatives, ⟨repeating p.pattern least most, p.depth + 1⟩ :: parts, true⟩
  | _, _ => none

end Progress

/-- The groups opened so far: how many have a number, and the names of those that have one. -/
structure Groups where
  count : Nat
  names : List (List Char)

def Groups.add (g : Groups) : Option (List Char) → Option Groups
  | none => some ⟨g.count + 1, g.names⟩
  | some name => if g.names.contains name then none else some ⟨g.count + 1, name :: g.names⟩

/-- Reads a group up to its closing parenthesis, which is left, or to the end. -/
def group : Nat → Flags → Groups → Progress → List Char →
    Option (Part × Groups × List Char)
  | 0, _, _, _, _ => none
  | fuel + 1, f, groups, s, cs =>
    match skipBlank f cs with
    | [] => some (s.finish, groups, [])
    | ')' :: rest => some (s.finish, groups, ')' :: rest)
    | '(' :: rest => do
      match ← opening f rest with
      | (.setFlags f, rest) => group fuel f groups s.pushFlags rest
      | (.group inner, rest) =>
        let (p, groups, rest) ← group fuel inner groups .start rest
        match rest with
        | ')' :: rest => group fuel f groups (s.push p.pattern (p.depth + 1)) rest
        | _ => none
      | (.numbered name, rest) =>
        let groups ← groups.add name
        let number := groups.count
        let (p, groups, rest) ← group fuel f groups .start rest
        match rest with
        | ')' :: rest => group fuel f groups (s.push (.capture number p.pattern) (p.depth + 1)) rest
        | _ => none
    | '|' :: rest => group fuel f groups s.nextAlternative rest
    | '[' :: rest => do
      let (c, rest) ← bracket f (2 * rest.length + 2) rest
      group fuel f groups (s.push (ofSet c.set) c.depth) rest
    | '?' :: rest => do group fuel f groups (← s.repeatLast 0 (some 1)) (skipLazy rest)
    | '*' :: rest => do group fuel f groups (← s.repeatLast 0 none) (skipLazy rest)
    | '+' :: rest => do group fuel f groups (← s.repeatLast 1 none) (skipLazy rest)
    | '\x7b' :: rest => do
      let (least, most, rest) ← bounds f rest
      group fuel f groups (← s.repeatLast least most) (skipLazy (skipBlank f rest))
    | '.' :: rest => do group fuel f groups (s.push (← dot f) 0) rest
    | '^' :: rest => group fuel f groups (s.push (caret f) 0) rest
    | '$' :: rest => group fuel f groups (s.push (dollar f) 0) rest
    | '\\' :: rest => do
      match ← escape f rest with
      | (.char c byte, rest) => group fuel f groups (s.push (← charPattern f c byte) 0) rest
      | (.cls c, rest) => group fuel f groups (s.push (ofSet c) 0) rest
      | (.assertion a, rest) => group fuel f groups (s.push (.assertion a) 0) rest
    | c :: rest => do group fuel f groups (s.push (← charPattern f c false) 0) rest

/-- Patterns may be nested this deep. -/
def depthLimit : Nat := 250

end Parser

/-- Reads a whole pattern. -/
def parse? (f : Flags) (text : String) : Option Pattern :=
  let cs := text.toList
  match Parser.group (2 * cs.length + 2) f ⟨0, []⟩ .start cs with
  | some (p, _, []) =>
    if p.depth ≤ Parser.depthLimit && p.pattern.fits then some p.pattern else none
  | _ => none

end Docbase.Pattern
