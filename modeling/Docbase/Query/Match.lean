import Docbase.Query.Compile
import Docbase.Value.Order

/-!
Which documents a filter matches. Only a script predicate can fail; the rest of a filter is
looked at from left to right, and no further than needed.
-/
namespace Docbase

/-- Values and, after each array, its elements; null alone if there is no value. -/
def candidates (resolved : List Value) : List Value :=
  if resolved.isEmpty then [.null]
  else resolved.flatMap fun v =>
    v :: match v with
      | .array items => items
      | _ => []

/-- Texts are searched; a regex matches one that is written the same. -/
def CompiledRegex.accepts (r : CompiledRegex) : Value → Bool
  | .string s => r.isMatch s
  | .regex source => source == r.source
  | _ => false

def Operand.accepts (operand : Operand) (v : Value) : Bool :=
  match operand with
  | .value w => v.equal w
  | .regex r => r.accepts v

/-- Only values of the operand's class are related to it, except that the lowest and the
highest value are related to all. -/
def Relation.holds (relation : Relation) (operand v : Value) : Bool :=
  let anyClass := operand.typeClass == .minKey || operand.typeClass == .maxKey
  (anyClass || v.typeClass == operand.typeClass) && relation.accepts (v.compare operand)

/-- The remainder has the sign of the dividend. -/
def hasRemainder (divisor remainder : Int64) (v : Value) : Bool :=
  match v.asInteger? with
  | some n => n.toInt.tmod divisor.toInt == remainder.toInt
  | none => false

def Value.hasSize (n : Nat) : Value → Bool
  | .array items => items.length == n
  | _ => false

/-- The elements of all arrays among the values. -/
def elements (resolved : List Value) : List Value :=
  resolved.flatMap fun v =>
    match v with
    | .array items => items
    | _ => []

/-- Whether any holds, up to the first that does or fails. -/
def anyHolds (test : α → Except ε Bool) : List α → Except ε Bool
  | [] => return false
  | a :: rest => do if ← test a then return true else anyHolds test rest

mutual

def Filter.matches (d : Document) : Filter → Except ScriptError Bool
  | .and filters => Filter.allMatch d filters
  | .or filters => Filter.anyMatches d filters
  | .nor filters => do return !(← Filter.anyMatches d filters)
  | .field path test => test.holds (path.resolveIn d)
  | .script source =>
    match (Scope.evalPredicate scriptName source d).run .fresh with
    | .ok result _ => .ok result
    | .error failure _ => .error ⟨scriptName, source, failure⟩

def Filter.allMatch (d : Document) : List Filter → Except ScriptError Bool
  | [] => return true
  | f :: rest => do if ← f.matches d then Filter.allMatch d rest else return false

def Filter.anyMatches (d : Document) : List Filter → Except ScriptError Bool
  | [] => return false
  | f :: rest => do if ← f.matches d then return true else Filter.anyMatches d rest

def FieldTest.holds (resolved : List Value) : FieldTest → Except ScriptError Bool
  | .equal v => return (candidates resolved).any fun w => w.equal v
  | .notEqual v => return !(candidates resolved).any fun w => w.equal v
  | .related relation v => return (candidates resolved).any (relation.holds v)
  | .isIn operands =>
    return (candidates resolved).any fun v => operands.any fun operand => operand.accepts v
  | .notIn operands =>
    return !(candidates resolved).any fun v => operands.any fun operand => operand.accepts v
  | .all operands =>
    return !operands.isEmpty &&
      operands.all fun operand => (candidates resolved).any operand.accepts
  | .present expected => return resolved.isEmpty != expected
  | .modulo divisor remainder =>
    return (candidates resolved).any (hasRemainder divisor remainder)
  | .size n => return resolved.any (Value.hasSize n)
  | .regex r => return (candidates resolved).any r.accepts
  | .element test => anyHolds (fun v => test.holds [v]) (elements resolved)
  | .elementQuery filter =>
    anyHolds (fun v =>
      match v with
      | .document d => filter.matches d
      | _ => .ok false) (elements resolved)
  | .not test => do return !(← test.holds resolved)
  | .and tests => FieldTest.allHold resolved tests

def FieldTest.allHold (resolved : List Value) : List FieldTest → Except ScriptError Bool
  | [] => return true
  | test :: rest => do
    if ← test.holds resolved then FieldTest.allHold resolved rest else return false

end

/-- The documents that match, in order, unless a script fails on one. -/
def Filter.select (f : Filter) : List Document → Except ScriptError (List Document)
  | [] => return []
  | d :: rest => do
    let kept ← f.matches d
    let others ← f.select rest
    return if kept then d :: others else others

end Docbase
