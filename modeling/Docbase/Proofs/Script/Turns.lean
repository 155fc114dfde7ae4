import Docbase.Script.Scope
import Mathlib.Tactic

/-!
Scopes with another way to make calls. Of a call that functions of a script make, one cannot say
from outside that it was made; but one can have calls of a kind go on in any other way, and ask
whether that makes a difference.
-/
namespace Docbase.Script

/-- How a call goes on for a turn: with what depth is left to the calls that it makes, how those
are made, by whom it was made, and the heap. -/
abbrev Turn := ℕ → Dispatch → Trace → Call.Pending → Run (Call.Pending ⊕ List Datum)

/-- Calls of some kind, by what depth is left to the calls that they make, by whom they were made
and the heap in which they are made. -/
abbrev Call.Kind := ℕ → Trace → Call.Pending → Heap → Prop

namespace Turn

def plain : Turn := fun _ => Call.step

open Classical in
/-- Calls of a kind go on in another way. -/
noncomputable def but (kind : Call.Kind)
    (answer : Trace → Call.Pending → Run (Call.Pending ⊕ List Datum)) : Turn :=
  fun depth call trace p h =>
    if kind depth trace p h then answer trace p h else Call.step call trace p h

def within (t : Turn) : ℕ → Dispatch
  | 0, _, _, _ => Run.fail "stack overflow"
  | depth + 1, trace, f, args =>
    if Trace.hostedLimit ≤ trace.hosted then Run.fail "stack overflow"
    else iterate (t depth (t.within depth) trace) turnLimit ⟨none, f, args⟩

def main (t : Turn) : ℕ → Closure → Run (List Datum)
  | 0, _ => Run.fail "stack overflow"
  | depth + 1, c => do
    match ← Call.enter (t.within depth) .start c [] with
    | .inl p => iterate (t depth (t.within depth) .start) turnLimit p
    | .inr values => return values

def call (t : Turn) : Callee := t.within callDepth .start

def script (t : Turn) (unit : Option String) (body : Block) (globals : Datum) :
    Run (List Datum) := do
  t.main callDepth (← Run.mainFunction unit body globals)

theorem within_plain : plain.within = Call.within := by
  funext depth
  induction depth with
  | zero => rfl
  | succ depth ih =>
    funext trace f args
    rw [within, Call.within, ih]
    rfl

theorem main_plain : plain.main = Call.main := by
  funext depth c
  cases depth with
  | zero => rfl
  | succ depth =>
    rw [main, Call.main, within_plain]
    rfl

theorem call_plain : plain.call = Script.call := by rw [call, within_plain, Script.call]

theorem script_plain : plain.script = Run.script := by
  funext unit body globals
  rw [script, Run.script, main_plain]

end Turn

end Docbase.Script

namespace Docbase.Scope

open Script

/-! The parts of a scope that make calls. -/

def raisedTextBy (call : Callee) : ℕ → Datum → Heap → String × Heap
  | 0, _, h => ("", h)
  | times + 1, d, h =>
    match Operation.describe call d h with
    | .ok text h => (Utf8.decode text, h)
    | .error fault h => raisedTextBy call times fault.datum h

def runBy (call : Callee) (x : Run α) : ScopeM α := fun s =>
  match x s.heap with
  | .ok a h => .ok a ⟨h⟩
  | .error fault h =>
    let (text, h) := raisedTextBy call descriptionLimit fault.datum h
    .error (.raised text) ⟨h⟩

def readGlobalBy (call : Callee) (x : String) : ScopeM Datum :=
  runBy call (Operation.index call (.table Heap.globals) (.ofText x))

def bindingsBy (call : Callee) : ScopeM Datum := do
  match ← readGlobalBy call "__bindings" with
  | .table place => return .table place
  | _ => throw (.unconvertible .noText)

def isTruthyBy (call : Callee) (d : Datum) : ScopeM Bool := do
  match d with
  | .table place =>
    match (← runBy call (Run.readTable place)).metatable with
    | none => return true
    | some metatable =>
      match Materialize.text? (← runBy call (Run.rawGet metatable (.ofText "__name"))) with
      | .ok tag => return tag != some "null"
      | .error cause => throw (.unconvertible cause)
  | d => return d.isTrue

def execBy (t : Turn) (name source : String) : ScopeM Unit := do
  checkName name
  let body ← orFailure (compile source)
  let _ ← runBy t.call (t.script name body (.table Heap.globals))

def evalPredicateBy (t : Turn) (name source : String) (doc : Document) : ScopeM Bool := do
  let environment ← bindingsBy t.call
  checkName name
  let body ← orFailure (compilePredicate source)
  let predicate ← runBy t.call (Run.newScript name body environment)
  let literal ← orFailure (compileExpression (Literal.document doc))
  let this := Operation.first
    (← runBy t.call (t.script documentUnit literal (.table Heap.globals)))
  let withDocument ← readGlobalBy t.call "__with_document"
  if !withDocument.isFunction then throw (.unconvertible .noText)
  let result := Operation.first (← runBy t.call (t.call withDocument [this, predicate]))
  if result.isFunction then
    isTruthyBy t.call (Operation.first (← runBy t.call (t.call withDocument [this, result])))
  else isTruthyBy t.call result

theorem raisedTextBy_call : raisedTextBy Script.call = raisedText := by
  funext times
  induction times with
  | zero => rfl
  | succ times ih =>
    funext d h
    rewrite [raisedTextBy, raisedText, ih]
    rfl

theorem runBy_call {α : Type} : runBy (α := α) Script.call = run := by
  funext x s
  rewrite [runBy, run, raisedTextBy_call]
  rfl

theorem readGlobalBy_call : readGlobalBy Script.call = readGlobal := by
  funext x
  rw [readGlobalBy, readGlobal, runBy_call]

theorem bindingsBy_call : bindingsBy Script.call = bindings := by
  rewrite [bindingsBy, bindings, readGlobalBy_call]
  rfl

theorem isTruthyBy_call : isTruthyBy Script.call = isTruthy := by
  funext d
  rewrite [isTruthyBy.eq_def, isTruthy.eq_def, runBy_call, runBy_call]
  rfl

theorem execBy_plain (name source : String) : execBy .plain name source = exec name source := by
  rw [execBy, exec, Turn.call_plain, Turn.script_plain, runBy_call]
  rfl

theorem evalPredicateBy_plain (name source : String) (doc : Document) :
    evalPredicateBy .plain name source doc = evalPredicate name source doc := by
  rw [evalPredicateBy, evalPredicate, Turn.call_plain, Turn.script_plain, bindingsBy_call,
    readGlobalBy_call, isTruthyBy_call]
  simp only [runBy_call]

/-- Something that scopes do for a host. -/
inductive Step where
  | exec (name source : String)
  | evalPredicate (name source : String) (doc : Document)

namespace Step

def perform : Step → ScopeM (Option Bool)
  | .exec name source => do
    Scope.exec name source
    return none
  | .evalPredicate name source doc => return some (← Scope.evalPredicate name source doc)

def performBy (t : Turn) : Step → ScopeM (Option Bool)
  | .exec name source => do
    execBy t name source
    return none
  | .evalPredicate name source doc => return some (← evalPredicateBy t name source doc)

theorem performBy_plain (step : Step) : step.performBy .plain = step.perform := by
  cases step with
  | exec name source => rw [performBy, perform, execBy_plain]
  | evalPredicate name source doc => rw [performBy, perform, evalPredicateBy_plain]

/-- The scope as a step leaves it, also if it fails. -/
def next (step : Step) (s : Scope) : Scope :=
  match step.perform s with
  | .ok _ s => s
  | .error _ s => s

end Step

end Docbase.Scope
