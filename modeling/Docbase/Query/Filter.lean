import Docbase.Pattern.Matcher
import Docbase.Pattern.Parser
import Docbase.Query.Error
import Docbase.Value.Path

/-!
Compiled queries. A filter says which documents match; at its leaves a field test is put to
the values that a path leads to.
-/
namespace Docbase

/-- A pattern with the text it was compiled from. -/
structure CompiledRegex where
  source : Regex
  pattern : Pattern

namespace CompiledRegex

/-- The letters that may be given as options; `u` and `l` change nothing. -/
def knownFlags : List Char := ['i', 'm', 's', 'x', 'u', 'l']

def flags (r : Regex) : Pattern.Flags where
  ignoreCase := r.ignoreCase
  multiLine := r.multiLine
  dotAll := r.dotAll
  extended := r.extended
  unicode := true
  withReturn := false

/-- Options are checked before the pattern. -/
def compile (r : Regex) : Except Malformed CompiledRegex :=
  match r.options.toList.find? fun flag => !knownFlags.contains flag with
  | some flag => .error (.unknownFlag flag)
  | none =>
    match Pattern.parse? (flags r) r.pattern with
    | some pattern => .ok ⟨r, pattern⟩
    | none => .error .badPattern

def isMatch (r : CompiledRegex) (text : String) : Bool := r.pattern.isMatch text

end CompiledRegex

/-- A member of a list of operands. -/
inductive Operand where
  | value (v : Value)
  | regex (r : CompiledRegex)

/-- The ways to compare with an operand in the order of values. -/
inductive Relation where
  | greater | greaterEqual | less | lessEqual
  deriving DecidableEq, Repr

def Relation.accepts : Relation → Ordering → Bool
  | .greater, o => o == .gt
  | .greaterEqual, o => o != .lt
  | .less, o => o == .lt
  | .lessEqual, o => o != .gt

mutual

/-- Which documents match. -/
inductive Filter where
  | and (filters : List Filter)
  | or (filters : List Filter)
  | nor (filters : List Filter)
  | field (path : Path) (test : FieldTest)
  /-- A script predicate, which is evaluated with the document at hand. -/
  | script (source : String)

/-- What is asked of the values that a path leads to. The candidates are these values and the
elements of those that are arrays, or null alone if there is no value. -/
inductive FieldTest where
  | equal (v : Value)
  | notEqual (v : Value)
  | related (relation : Relation) (v : Value)
  | isIn (operands : List Operand)
  | notIn (operands : List Operand)
  /-- Every operand accepts some candidate. -/
  | all (operands : List Operand)
  /-- Whether there is any value. -/
  | present (expected : Bool)
  | modulo (divisor remainder : Int64)
  /-- Some value is an array of this length. -/
  | size (n : Nat)
  | regex (r : CompiledRegex)
  /-- Some element of an array passes a test on its own. -/
  | element (test : FieldTest)
  /-- Some element of an array is a document that matches. -/
  | elementQuery (filter : Filter)
  | not (test : FieldTest)
  | and (tests : List FieldTest)

end

instance : Inhabited Filter := ⟨.and []⟩

/-- Matches every document. -/
def Filter.always : Filter := .and []

end Docbase
