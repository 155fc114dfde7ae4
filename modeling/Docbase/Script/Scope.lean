import Docbase.Script.Assigned
import Docbase.Script.Error
import Docbase.Script.Literal
import Docbase.Script.Prelude
import Docbase.Script.Source

/-!
A scope runs units of script one after the other; globals that one unit writes are there for
the next. Values go in as literals and come out as what the globals hold. Scopes share nothing.
-/
namespace Docbase.Script

/-- How deep calls may nest. -/
def callDepth : Nat := 190000

/-- How the functions of a scope are called from outside. -/
def call : Callee := Call.within callDepth .start

/-- The cell of the variable that holds the globals of a unit. Nothing can tell whether units
that never assign to it have cells of their own or share one. -/
def Run.globalsCell (body : Block) (globals : Datum) : Run Nat :=
  if globals = .table Heap.globals ∧ !Block.assigns Env.globalsName body then
    return Heap.globalsCell
  else newCell globals

/-- The function that a script is, with a table for its global variables. -/
def Run.mainFunction (unit : Option String) (body : Block) (globals : Datum) : Run Closure := do
  return ⟨unit.map unitLabel, [], true, body,
    [(Env.globalsName, ← Run.globalsCell body globals)]⟩

/-- A script as a function that can be called. -/
def Run.newScript (unit : Option String) (body : Block) (globals : Datum) : Run Datum := do
  newClosure (← mainFunction unit body globals)

/-- Runs a script; the scripts that every scope starts with are of no unit. -/
def Run.script (unit : Option String) (body : Block) (globals : Datum) :
    Run (List Datum) := do
  Call.main callDepth (← mainFunction unit body globals)

/-- The heap of a fresh scope: the library and the prelude. -/
def Heap.fresh : Heap :=
  match Run.script none Prelude.script (.table globals) .ofLibrary with
  | .ok _ h => h
  | .error _ h => h

end Docbase.Script

namespace Docbase

open Script

structure Scope where
  heap : Heap

/-- A step in a scope; one that fails leaves what it did before. -/
abbrev ScopeM := EStateM Failure Scope

namespace Scope

def fresh : Scope := ⟨.fresh⟩

/-- The text of a raised value. If the value fails to describe itself, what it raises then is
described instead, a number of times. -/
def raisedText : Nat → Datum → Heap → String × Heap
  | 0, _, h => ("", h)
  | times + 1, d, h =>
    match Operation.describe call d h with
    | .ok text h => (Utf8.decode text, h)
    | .error fault h => raisedText times fault.datum h

/-- How often a raised value is described. -/
def descriptionLimit : Nat := 200

def run (x : Run α) : ScopeM α := fun s =>
  match x s.heap with
  | .ok a h => .ok a ⟨h⟩
  | .error fault h =>
    let (text, h) := raisedText descriptionLimit fault.datum h
    .error (.raised text) ⟨h⟩

/-- A name of a unit holds no NUL. -/
def isUnitName (name : String) : Bool := !name.toList.contains '\x00'

def checkName (name : String) : ScopeM Unit :=
  if isUnitName name then return else throw .badName

/-- A script that is refused fails the step. -/
def orFailure (body : Except Refusal Block) : ScopeM Block :=
  match body with
  | .ok body => return body
  | .error .malformed => throw .syntaxError
  | .error .tooDeep => throw (.raised "stack overflow")

def value (d : Datum) : ScopeM Value := fun s =>
  match s.heap.valueOf d with
  | .ok v => .ok v s
  | .error cause => .error (.unconvertible cause) s

def readGlobal (x : String) : ScopeM Datum :=
  run (Operation.index call (.table Heap.globals) (.ofText x))

def writeGlobal (x : String) (d : Datum) : ScopeM Unit :=
  run (Operation.setIndex call (.table Heap.globals) (.ofText x) d)

/-- The variables of functions that are called with a document at hand. -/
def bindings : ScopeM Datum := do
  match ← readGlobal "__bindings" with
  | .table place => return .table place
  | _ => throw (.unconvertible .noText)

def execBlock (unit : Option String) (body : Block) : ScopeM Unit := do
  let _ ← run (Run.script unit body (.table Heap.globals))

/-- Runs a unit. -/
def exec (name source : String) : ScopeM Unit := do
  checkName name
  execBlock name (← orFailure (compile source))

/-- Stores the function that an expression gives in a global. The function sees the fields of
the document at hand as variables. -/
def bind (x name source : String) : ScopeM Unit := do
  let environment ← bindings
  checkName name
  let body ← orFailure (compileExpression source)
  let f := Operation.first (← run (Run.script name body environment))
  if f.isFunction then writeGlobal x f else throw (.notFunction f.kindName)

/-- Whether a predicate's result holds: all but nil, false and `null` do. -/
def isTruthy (d : Datum) : ScopeM Bool := do
  match d with
  | .table place =>
    match (← run (Run.readTable place)).metatable with
    | none => return true
    | some metatable =>
      match Materialize.text? (← run (Run.rawGet metatable (.ofText "__name"))) with
      | .ok tag => return tag != some "null"
      | .error cause => throw (.unconvertible cause)
  | d => return d.isTrue

/-- The unit that makes the document at hand. -/
def documentUnit : String := "document"

/-- Evaluates a predicate with a document at hand; if it gives a function, that function is
the predicate. -/
def evalPredicate (name source : String) (doc : Document) : ScopeM Bool := do
  let environment ← bindings
  checkName name
  let body ← orFailure (compilePredicate source)
  let predicate ← run (Run.newScript name body environment)
  let literal ← orFailure (compileExpression (Literal.document doc))
  let this := Operation.first (← run (Run.script documentUnit literal (.table Heap.globals)))
  let withDocument ← readGlobal "__with_document"
  if !withDocument.isFunction then throw (.unconvertible .noText)
  let result := Operation.first (← run (call withDocument [this, predicate]))
  if result.isFunction then
    isTruthy (Operation.first (← run (call withDocument [this, result])))
  else isTruthy result

/-- The statement that stores a value in a global. -/
def assignment (x : String) (v : Value) : String :=
  "_G[" ++ Literal.string x ++ "] = " ++ Literal.value v

def setGlobal (x : String) (v : Value) : ScopeM Unit := exec x (assignment x v)

/-- The value of a global; one that is not set is null. -/
def global (x : String) : ScopeM Value := do value (← readGlobal x)

/-- Fails if a text is no predicate, without running it. -/
def checkSyntax (name source : String) : ScopeM Unit := do
  checkName name
  let _ ← orFailure (compilePredicate source)

end Scope

end Docbase
