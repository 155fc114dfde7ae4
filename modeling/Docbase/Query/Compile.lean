import Docbase.Query.Filter
import Docbase.Script.Scope

/-!
From a query document to a filter. Keys with a dollar sign are operators: at the top level
they combine queries, in the document of a field they are tests. A query with several entries
asks for all of them.
-/
namespace Docbase

/-- The integer part of a number; doubles beyond 64 bits give the nearest integer within. -/
def Value.asInteger? : Value → Option Int64
  | .int32 n => some (Int64.ofInt n.toInt)
  | .int64 n => some n
  | .double x =>
    if x.isFinite then
      some (Int64.ofInt (max Int64.minValue.toInt (min Int64.maxValue.toInt x.truncate)))
    else none
  | _ => none

/-- The key of an entry in a query. -/
inductive QueryKey where
  | and | or | nor | script | comment
  | unknown
  | field
  deriving DecidableEq, Repr

def isOperatorKey (key : String) : Bool := key.toList.head? == some '$'

def QueryKey.ofText (key : String) : QueryKey :=
  if key = "$and" then .and
  else if key = "$or" then .or
  else if key = "$nor" then .nor
  else if key = "$where" then .script
  else if key = "$comment" then .comment
  else if isOperatorKey key then .unknown
  else .field

/-- The key of an entry in a document of tests. -/
inductive TestKey where
  | equal | notEqual
  | related (relation : Relation)
  | isIn | notIn | all | present | modulo | size | not | elemMatch
  /-- `$regex` and `$options` are read together. -/
  | regex
  | unknown
  /-- Keys without a dollar sign say nothing. -/
  | ignored
  deriving DecidableEq, Repr

def TestKey.ofText (key : String) : TestKey :=
  if key = "$eq" then .equal
  else if key = "$ne" then .notEqual
  else if key = "$gt" then .related .greater
  else if key = "$gte" then .related .greaterEqual
  else if key = "$lt" then .related .less
  else if key = "$lte" then .related .lessEqual
  else if key = "$in" then .isIn
  else if key = "$nin" then .notIn
  else if key = "$all" then .all
  else if key = "$exists" then .present
  else if key = "$mod" then .modulo
  else if key = "$size" then .size
  else if key = "$not" then .not
  else if key = "$elemMatch" then .elemMatch
  else if key = "$regex" ∨ key = "$options" then .regex
  else if isOperatorKey key then .unknown
  else .ignored

namespace FieldTest

def malformed (cause : Malformed) : Except QueryError α := .error (.malformed cause)

def compileRegex (r : Regex) : Except QueryError CompiledRegex :=
  (CompiledRegex.compile r).mapError .malformed

/-- The pattern of `$regex`, with the letters of `$options` in place of its own if given. -/
def regexOf? (d : Document) : Except QueryError (Option CompiledRegex) := do
  let options ← match Document.get? d "$options" with
    | none => pure none
    | some (.string options) => pure (some options)
    | some _ => malformed .optionsNotText
  match Document.get? d "$regex", options with
  | none, none => return none
  | none, some _ => malformed .optionsAlone
  | some (.string pattern), options =>
    return some (← compileRegex (Regex.ofText pattern (options.getD "")))
  | some (.regex r), options =>
    return some (← compileRegex (Regex.ofText r.pattern (options.getD r.options)))
  | some _, _ => malformed .regexNotText

def operandsOf (key : String) : Value → Except QueryError (List Operand)
  | .array items =>
    items.mapM fun item =>
      match item with
      | .regex r => return .regex (← compileRegex r)
      | v => return .value v
  | _ => malformed (.operandsNotArray key)

def moduloOf : Value → Except QueryError FieldTest
  | .array [divisor, remainder] =>
    match divisor.asInteger?, remainder.asInteger? with
    | some 0, _ => malformed .modZero
    | some d, some r => return .modulo d r
    | _, _ => malformed .modNotNumbers
  | _ => malformed .modShape

/-- The largest array length. -/
def sizeLimit : Nat := pow2 64 - 1

def sizeOf? : Value → Option Nat
  | .int32 n => if 0 ≤ n.toInt then some n.toInt.toNat else none
  | .int64 n => if 0 ≤ n.toInt then some n.toInt.toNat else none
  | .double x =>
    if x.isWhole && (!x.isNegative || x.isZero) then some (min sizeLimit x.truncate.toNat)
    else none
  | _ => none

/-- A document whose first key has a dollar sign holds tests. -/
def isOperators : List (String × Value) → Bool
  | [] => false
  | (key, _) :: _ => isOperatorKey key

/-- Whether a document begins with an operator that combines queries. -/
def isLogical : List (String × Value) → Bool
  | [] => false
  | (key, _) :: _ =>
    match QueryKey.ofText key with
    | .and | .or | .nor | .script => true
    | _ => false

/-- The test of a regex, if there is one, and the other tests together. -/
def combine (regex : Option CompiledRegex) (tests : List FieldTest) :
    Except QueryError FieldTest :=
  match (regex.map FieldTest.regex).toList ++ tests with
  | [] => malformed .emptyOperators
  | [test] => return test
  | tests => return .and tests

end FieldTest

/-- Several filters at once; one alone stands for itself. -/
def Filter.combine : List Filter → Filter
  | [f] => f
  | fs => .and fs

/-- Checks the syntax of a script predicate, so that a broken one fails before any document is
looked at. -/
def Filter.ofScript (source : String) : Except QueryError Filter :=
  match (Scope.checkSyntax scriptName source).run .fresh with
  | .ok _ _ => .ok (.script source)
  | .error failure _ => .error (.script ⟨scriptName, source, failure⟩)

mutual

/-- What a field is asked for: a pattern, tests, or equality with a value. -/
def FieldTest.compile : Value → Except QueryError FieldTest
  | .regex r => return .regex (← FieldTest.compileRegex r)
  | .document fields => do
    if FieldTest.isOperators fields then
      let regex ← FieldTest.regexOf? fields
      FieldTest.combine regex (← FieldTest.compileAll fields)
    else return .equal (.document fields)
  | v => return .equal v
termination_by structural v => v

/-- The tests of a document, in order. -/
def FieldTest.compileAll : List (String × Value) → Except QueryError (List FieldTest)
  | [] => return []
  | (key, value) :: rest => do
    let test ← match TestKey.ofText key with
      | .equal => pure (some (.equal value))
      | .notEqual => pure (some (.notEqual value))
      | .related relation => pure (some (.related relation value))
      | .isIn => do pure (some (.isIn (← FieldTest.operandsOf key value)))
      | .notIn => do pure (some (.notIn (← FieldTest.operandsOf key value)))
      | .all => do pure (some (.all (← FieldTest.operandsOf key value)))
      | .present => pure (some (.present value.isTruthy))
      | .modulo => do pure (some (← FieldTest.moduloOf value))
      | .size =>
        match FieldTest.sizeOf? value with
        | some n => pure (some (.size n))
        | none => .error (.malformed .sizeShape)
      | .not => do pure (some (.not (← FieldTest.compile value)))
      | .elemMatch => do pure (some (← FieldTest.compileElement value))
      | .regex | .ignored => pure none
      | .unknown => .error (.malformed (.unknownField key))
    return test.toList ++ (← FieldTest.compileAll rest)
termination_by structural fields => fields

/-- What some element of an array is asked for: tests of its own, or a query if it is a
document. -/
def FieldTest.compileElement : Value → Except QueryError FieldTest
  | .document fields => do
    if FieldTest.isOperators fields && !FieldTest.isLogical fields then
      let regex ← FieldTest.regexOf? fields
      return .element (← FieldTest.combine regex (← FieldTest.compileAll fields))
    else return .elementQuery (Filter.combine (← Filter.compileFields false fields))
  | _ => .error (.malformed .elemMatchShape)
termination_by structural v => v

/-- The filters of the entries of a query, in order. -/
def Filter.compileFields (scripts : Bool) :
    List (String × Value) → Except QueryError (List Filter)
  | [] => return []
  | (key, value) :: rest => do
    let filter ← match QueryKey.ofText key with
      | .and => do pure (some (.and (← Filter.compileMembers scripts key value)))
      | .or => do pure (some (.or (← Filter.compileMembers scripts key value)))
      | .nor => do pure (some (.nor (← Filter.compileMembers scripts key value)))
      | .script =>
        if scripts then
          match value with
          | .string source => do pure (some (← Filter.ofScript source))
          | _ => .error (.malformed .whereNotText)
        else .error (.malformed .whereInside)
      | .comment => pure none
      | .unknown => .error (.malformed (.unknownTopLevel key))
      | .field => do pure (some (.field (Path.ofText key) (← FieldTest.compile value)))
    return filter.toList ++ (← Filter.compileFields scripts rest)
termination_by structural fields => fields

/-- The queries that a logical operator combines. -/
def Filter.compileMembers (scripts : Bool) (key : String) :
    Value → Except QueryError (List Filter)
  | .array [] => .error (.malformed (.logicalEmpty key))
  | .array items => Filter.compileItems scripts key items
  | _ => .error (.malformed (.logicalNotArray key))
termination_by structural v => v

def Filter.compileItems (scripts : Bool) (key : String) :
    List Value → Except QueryError (List Filter)
  | [] => return []
  | .document fields :: rest => do
    let filter := Filter.combine (← Filter.compileFields scripts fields)
    return filter :: (← Filter.compileItems scripts key rest)
  | _ :: _ => .error (.malformed (.logicalMember key))
termination_by structural items => items

end

/-- The filter of a query document; the empty one matches every document. -/
def Filter.compile (query : Document) : Except QueryError Filter := do
  return Filter.combine (← Filter.compileFields true query)

end Docbase
