import Docbase.Script.Library
import Docbase.Script.Progression
import Docbase.Script.Slots

/-!
What scripts do. Expressions give lists of values, of which mostly the first one counts;
statements end in one of a few ways, and a block passes its variables on to what follows. An
operand that is a variable of the running function is read when the operation takes place,
after the other operand; what assignments store in is found before the values, and read as
late. The evaluation follows the syntax, and calls go through a given function. `Call.within`
closes the circle: it allows calls to nest up to a depth and raises an error beyond.
-/
namespace Docbase.Script

/-- What a running function sees: its own variables and those around it, innermost first, each
with its cell; its extra arguments; where it was written; and by whom it was called. -/
structure Env where
  own : List (String × Nat)
  captured : List (String × Nat)
  varargs : List Datum
  unit : Option Bytes
  callers : Trace
  /-- Whether a call whose values are given back may take the place of the function. -/
  mayTail : Bool
  deriving Inhabited

namespace Env

/-- The cell of a variable. -/
def cell? (env : Env) (x : String) : Option Nat :=
  match env.own.lookup x with
  | some cell => some cell
  | none => env.captured.lookup x

/-- The variables that are there for a function inside. -/
def visible (env : Env) : List (String × Nat) := env.own ++ env.captured

/-- More variables of the function's own. -/
def declare (env : Env) (names : List String) (values : List Datum) : Run Env := do
  return { env with own := ← Run.bindAll names values env.own }

def frame (env : Env) (line : Nat) : Frame :=
  match env.unit with
  | some unit => .script unit line
  | none => .host

def trace (env : Env) (line : Nat) : Trace := env.callers.push (env.frame line)

/-- A call at a line. -/
def apply (env : Env) (call : Dispatch) (line : Nat) (f : Datum) (args : List Datum) :
    Run (List Datum) :=
  Run.placed (env.frame line) (call (env.trace line) f args)

/-- An operation at a line; the functions that it calls are called by the host. -/
def operate (env : Env) (call : Dispatch) (line : Nat) (x : Callee → Run α) : Run α :=
  Run.placed (env.frame line) (x (call (env.trace line).throughHost))

/-- The variable that holds the table of globals. -/
def globalsName : String := "_ENV"

/-- The table that names of no local variable are fields of. -/
def globals (env : Env) : Run Datum :=
  match env.cell? globalsName with
  | some cell => Run.readCell cell
  | none => return .nil

def read (call : Dispatch) (env : Env) (line : Nat) (x : String) : Run Datum :=
  match env.cell? x with
  | some cell => Run.readCell cell
  | none => do
    let globals ← env.globals
    env.operate call line fun call => Operation.index call globals (.ofText x)

/-- The cell of an operand that is a variable of the running function. -/
def ownCell? (env : Env) (e : Expr) : Option Nat := e.nameOnly?.bind (env.own.lookup ·)

/-- The cell of a name of a variable around the running function. -/
def capturedCell? (env : Env) : Expr → Option Nat
  | .name _ x => if (env.own.lookup x).isSome then none else env.captured.lookup x
  | _ => none

/-- The cell of a left operand that is read after the right one. Texts are put together from
operands as they come. -/
def waitingCell? (env : Env) (op : BinaryOp) (a : Expr) : Option Nat :=
  if op = .concat then none else env.ownCell? a

/-- The cell of a table that is read after its key. -/
def objectCell? (env : Env) (object : Expr) : Option Nat :=
  match env.ownCell? object with
  | some cell => some cell
  | none => env.capturedCell? object

end Env

/-- How a statement ends. -/
inductive Flow where
  | next
  | broke
  | jumped (label : String)
  | returned (values : List Datum)
  /-- With the values of a call that is still to be made. -/
  | handedOn (line : Nat) (f : Datum) (args : List Datum)

/-- A table or a key that an assignment needs: its value, or the variable to read it from. -/
inductive Operand where
  | value (d : Datum)
  | variable (cell : Nat)

namespace Operand

def read : Operand → Run Datum
  | .value d => return d
  | .variable cell => Run.readCell cell

/-- Reads a variable that is about to change. -/
def settle (changing : Nat) (o : Operand) : Run Operand :=
  match o with
  | .variable cell => if cell = changing then return .value (← Run.readCell cell) else return o
  | o => return o

end Operand

/-- What an assignment writes to. -/
inductive Place where
  | cell (index : Nat)
  | slot (object key : Operand)

namespace Place

def settle (changing : Nat) : Place → Run Place
  | .slot object key => return .slot (← object.settle changing) (← key.settle changing)
  | p => return p

def write (call : Dispatch) (env : Env) (line : Nat) (value : Datum) : Place → Run Unit
  | .cell c => Run.writeCell c value
  | .slot object key => do
    let o ← object.read
    let k ← key.read
    env.operate call line fun call => Operation.setIndex call o k value

/-- Writes to one place after the other. -/
def writeAll (call : Dispatch) (env : Env) (line : Nat) : List (Place × Datum) → Run Unit
  | [] => return
  | (p, d) :: rest => do
    p.write call env line d
    writeAll call env line rest

end Place

/-- Where a global variable is stored. -/
def Env.globalPlace (env : Env) (x : String) : Run Place := do
  let key := Expr.text (Utf8.encode x)
  match env.own.lookup globalsName, env.captured.lookup globalsName with
  | some cell, _ => return .slot (.variable cell) (.value (.ofText x))
  | none, some cell =>
    if key.isShortText then return .slot (.variable cell) (.value (.ofText x))
    else return .slot (.value (← Run.readCell cell)) (.value (.ofText x))
  | none, none => return .slot (.value .nil) (.value (.ofText x))

/-- As many values as are wanted: further ones are dropped, and missing ones are nil. -/
def fit : Nat → List Datum → List Datum
  | 0, _ => []
  | n + 1, ds => ds.headD .nil :: fit n ds.tail

/-- The most turns of a loop. -/
def turnLimit : Nat := pow2 62

/-- Repeats a step until it gives a result. -/
def iterate (step : σ → Run (σ ⊕ α)) : Nat → σ → Run α
  | 0, _ => Run.fail "loop does not end"
  | turns + 1, s => do
    match ← step s with
    | .inl s => iterate step turns s
    | .inr result => return result

/-- After the body of a loop: the next turn, or how the loop ends. -/
def Flow.turn (next : σ) : Flow → σ ⊕ Flow
  | .next => .inl next
  | .broke => .inr .next
  | flow => .inr flow

def atBlockEnd (_ : Env) : Run Flow := return .next

/-- Whether an expression may give any number of values. -/
def Expr.isMultiple : Expr → Bool
  | .call .. | .method .. | .varargs => true
  | _ => false

/-- How many items of a table have no key and one value. -/
def Item.singleCount : List Item → Nat
  | [] => 0
  | [.positional e] => if e.isMultiple then 0 else 1
  | .positional _ :: rest => singleCount rest + 1
  | .keyed .. :: rest => singleCount rest

def Item.keyedCount : List Item → Nat
  | [] => 0
  | .positional _ :: rest => keyedCount rest
  | .keyed .. :: rest => keyedCount rest + 1

/-- A table with room for its items. -/
def Table.forItems (items : List Item) : Table :=
  .ofItems (List.replicate (Item.singleCount items) .nil) (Item.keyedCount items)

mutual

def Expr.evaluate (call : Dispatch) : Expr → Env → Run (List Datum)
  | .nil, _ => return [.nil]
  | .boolean b, _ => return [.boolean b]
  | .int n, _ => return [.int n]
  | .double x, _ => return [.double x]
  | .text s, _ => return [.text s]
  | .varargs, env => return env.varargs
  | .function params variadic body, env => do
    return [← Run.newClosure ⟨env.unit, params, variadic, body, env.visible⟩]
  | .name line x, env => do return [← env.read call line x]
  | .index line object key, env => do
    match env.objectCell? object with
    | some cell =>
      let k := Operation.first (← key.evaluate call env)
      let o ← Run.readCell cell
      return [← env.operate call line fun call => Operation.index call o k]
    | none =>
      let o := Operation.first (← object.evaluate call env)
      let k := Operation.first (← key.evaluate call env)
      return [← env.operate call line fun call => Operation.index call o k]
  | .call line f args, env => do
    let g := Operation.first (← f.evaluate call env)
    env.apply call line g (← Expr.evaluateAll call args env)
  | .method line object name args, env => do
    let o := Operation.first (← object.evaluate call env)
    let g ← env.operate call line fun call => Operation.index call o (.ofText name)
    env.apply call line g (o :: (← Expr.evaluateAll call args env))
  | .unary line op a, env => do
    let x := Operation.first (← a.evaluate call env)
    return [← env.operate call line fun call => Operation.unary call op x]
  | .binary line op a b, env => do
    match env.waitingCell? op a with
    | some cell =>
      let y := Operation.first (← b.evaluate call env)
      let x ← Run.readCell cell
      return [← env.operate call line fun call => Operation.binary call op x y]
    | none =>
      let x := Operation.first (← a.evaluate call env)
      let y := Operation.first (← b.evaluate call env)
      return [← env.operate call line fun call => Operation.binary call op x y]
  | .and a b, env => do
    let x := Operation.first (← a.evaluate call env)
    if x.isTrue then return [Operation.first (← b.evaluate call env)] else return [x]
  | .or a b, env => do
    let x := Operation.first (← a.evaluate call env)
    if x.isTrue then return [x] else return [Operation.first (← b.evaluate call env)]
  | .table line items, env => do
    let place ← Run.allocate (.forItems items)
    Item.storeAll call place line items env #[] 0
    return [.table place]
  | .paren e, env => do return [Operation.first (← e.evaluate call env)]

/-- All values of the last expression and the first value of each other one. -/
def Expr.evaluateAll (call : Dispatch) : List Expr → Env → Run (List Datum)
  | [], _ => return []
  | [e], env => e.evaluate call env
  | e :: es, env => do
    let x ← e.evaluate call env
    return Operation.first x :: (← Expr.evaluateAll call es env)

/-- Stores the items of a table. Values with keys are stored as they come; values without keys
wait, and are stored after the first `filled` ones when their chunk is complete and a further
item follows, or at the end. -/
def Item.storeAll (call : Dispatch) (place line : Nat) :
    List Item → Env → Array Datum → Nat → Run Unit
  | [], _, waiting, filled => Run.modifyTable place fun t => t.fillFrom filled waiting.toList
  | i :: rest, env, waiting, filled => do
    let complete := waiting.size == Slots.chunkSize
    if complete then Run.modifyTable place fun t => t.fillFrom filled waiting.toList
    let filled := if complete then filled + waiting.size else filled
    let waiting := if complete then #[] else waiting
    match i with
    | .positional e =>
      let ds ← e.evaluate call env
      let values := if rest.isEmpty then ds else [Operation.first ds]
      Item.storeAll call place line rest env (waiting ++ values) filled
    | .keyed key e =>
      match env.ownCell? key with
      | some cell =>
        let value := Operation.first (← e.evaluate call env)
        let k ← Run.readCell cell
        Run.placed (env.frame line) (Run.rawSet place k value)
      | none =>
        let k := Operation.first (← key.evaluate call env)
        let value := Operation.first (← e.evaluate call env)
        Run.placed (env.frame line) (Run.rawSet place k value)
      Item.storeAll call place line rest env waiting filled

/-- Finds what an assignment writes to, the last target first. A variable that an earlier
target would read is read before it changes. -/
def Target.places (call : Dispatch) : List Target → Env → List Place → Run (List Place)
  | [], _, earlier => return earlier
  | .name x :: targets, env, earlier => do
    match env.cell? x with
    | some cell =>
      Target.places call targets env (.cell cell :: (← earlier.mapM fun p => p.settle cell))
    | none => Target.places call targets env ((← env.globalPlace x) :: earlier)
  | .index object key :: targets, env, earlier => do
    let keyOperand : Run Operand :=
      match env.ownCell? key with
      | some cell => return .variable cell
      | none => do return .value (Operation.first (← key.evaluate call env))
    match env.ownCell? object, env.capturedCell? object with
    | some cell, _ =>
      Target.places call targets env (.slot (.variable cell) (← keyOperand) :: earlier)
    | none, some cell =>
      let k ← keyOperand
      let o ← if key.isShortText then pure (.variable cell) else do
        pure (.value (← Run.readCell cell))
      Target.places call targets env (.slot o k :: earlier)
    | none, none =>
      let o := Operation.first (← object.evaluate call env)
      Target.places call targets env (.slot (.value o) (← keyOperand) :: earlier)

/-- How giving back expressions ends a function. -/
def Expr.giveBack (call : Dispatch) : List Expr → Env → Run Flow
  | [e], env => do
    match e with
    | .call line f args =>
      let g := Operation.first (← f.evaluate call env)
      let ds ← Expr.evaluateAll call args env
      if env.mayTail then return .handedOn line g ds
      else return .returned (← env.apply call line g ds)
    | .method line object name args =>
      let o := Operation.first (← object.evaluate call env)
      let g ← env.operate call line fun call => Operation.index call o (.ofText name)
      let ds := o :: (← Expr.evaluateAll call args env)
      if env.mayTail then return .handedOn line g ds
      else return .returned (← env.apply call line g ds)
    | e => return .returned (← e.evaluate call env)
  | es, env => do return .returned (← Expr.evaluateAll call es env)

/-- Runs a statement and gives the variables that are in scope after it. -/
def Stmt.execute (call : Dispatch) : Stmt → Env → Run (Flow × Env)
  | .declare names values, env => do
    let ds ← Expr.evaluateAll call values env
    return (.next, ← env.declare (names.map LocalName.name) ds)
  | .assign line targets values, env => do
    let places ← Target.places call targets env []
    let ds ← Expr.evaluateAll call values env
    Place.writeAll call env line (places.zip (fit places.length ds).reverse)
    return (.next, env)
  | .call e, env => do
    let _ ← e.evaluate call env
    return (.next, env)
  | .block body, env => do return (← Block.execute call body env atBlockEnd, env)
  | .whileLoop condition body, env => do
    let turn (_ : Unit) : Run (Unit ⊕ Flow) := do
      if (Operation.first (← condition.evaluate call env)).isTrue then
        return (← Block.execute call body env atBlockEnd).turn ()
      else return .inr .next
    return (← iterate turn turnLimit (), env)
  | .repeatLoop body condition, env => do
    let atEnd (inner : Env) : Run Flow := do
      if (Operation.first (← condition.evaluate call inner)).isTrue then return .broke
      else return .next
    let turn (_ : Unit) : Run (Unit ⊕ Flow) := do
      return (← Block.execute call body env atEnd).turn ()
    return (← iterate turn turnLimit (), env)
  | .branch condition whenTrue whenFalse, env => do
    if (Operation.first (← condition.evaluate call env)).isTrue then
      return (← Block.execute call whenTrue env atBlockEnd, env)
    else return (← Block.execute call whenFalse env atBlockEnd, env)
  | .numericFor line x start limit step body, env => do
    let s ← start.evaluate call env
    let l ← limit.evaluate call env
    let d ← match step with
      | some step => step.evaluate call env
      | none => pure [.int 1]
    match Progression.ofBounds (Operation.first s) (Operation.first l) (Operation.first d) with
    | .error message => Run.placed (env.frame line) (Run.fail message)
    | .ok progression =>
      let turn (p : Progression) : Run (Progression ⊕ Flow) := do
        match p.next? with
        | none => return .inr .next
        | some (value, rest) =>
          let inner ← env.declare [x] [value]
          return (← Block.execute call body inner atBlockEnd).turn rest
      return (← iterate turn turnLimit progression, env)
  | .genericFor line names values body, env => do
    let ds ← Expr.evaluateAll call values env
    let f := ds.getD 0 .nil
    let state := ds.getD 1 .nil
    if (ds.getD 3 .nil).isTrue then
      Run.placed (env.frame line)
        (Run.fail "variable '(for state)' got a non-closable value")
    let turn (control : Datum) : Run (Datum ⊕ Flow) := do
      let results ← env.operate call line fun call => call f [state, control]
      let control := Operation.first results
      if control.isNil then return .inr .next
      else
        let inner ← { env with mayTail := false }.declare names results
        return (← Block.execute call body inner atBlockEnd).turn control
    return (← iterate turn turnLimit (ds.getD 2 .nil), env)
  | .localFunction name params variadic body, env => do
    let env ← env.declare [name] []
    let f ← Run.newClosure ⟨env.unit, params, variadic, body, env.visible⟩
    match env.own.lookup name with
    | some cell => Run.writeCell cell f
    | none => return (.next, env)
    return (.next, env)
  | .giveBack values, env => do return (← Expr.giveBack call values env, env)
  | .leave, env => return (.broke, env)
  | .jump label, env => return (.jumped label, env)
  | .label _, env => return (.next, env)

/-- Runs statements one after the other, and `atEnd` after the last one. A jump to a label of
the block goes on there; other jumps end the block. -/
def Block.execute (call : Dispatch) : List Stmt → Env → (Env → Run Flow) → Run Flow
  | [], env, atEnd => atEnd env
  | .label name :: rest, env, atEnd =>
    let turn (_ : Unit) : Run (Unit ⊕ Flow) := do
      match ← Block.execute call rest env atEnd with
      | .jumped label => return if label = name then .inl () else .inr (.jumped label)
      | flow => return .inr flow
    iterate turn turnLimit ()
  | s :: rest, env, atEnd => do
    match ← s.execute call env with
    | (.next, env) => Block.execute call rest env atEnd
    | (.jumped label, env) => Block.executeFrom call label rest env atEnd
    | (flow, _) => return flow

/-- Runs the statements after a label. -/
def Block.executeFrom (call : Dispatch) (label : String) :
    List Stmt → Env → (Env → Run Flow) → Run Flow
  | [], _, _ => return .jumped label
  | .label name :: rest, env, atEnd =>
    if name = label then
      let turn (_ : Unit) : Run (Unit ⊕ Flow) := do
        match ← Block.execute call rest env atEnd with
        | .jumped label => return if label = name then .inl () else .inr (.jumped label)
        | flow => return .inr flow
      iterate turn turnLimit ()
    else Block.executeFrom call label rest env atEnd
  | _ :: rest, env, atEnd => Block.executeFrom call label rest env atEnd

end

namespace Call

/-- A call that is to be made, by the function at the frame if it took the place of one. -/
structure Pending where
  caller : Option Frame
  f : Datum
  args : List Datum

/-- The functions that are running when a library function is called. -/
def Pending.trace (p : Pending) (trace : Trace) : Trace :=
  match p.caller with
  | some frame => trace.push frame
  | none => trace

/-- Runs the body of a function as far as its values or a call that takes its place. -/
def enter (call : Dispatch) (trace : Trace) (c : Closure) (args : List Datum) :
    Run (Pending ⊕ List Datum) := do
  let extra := if c.variadic then args.drop c.params.length else []
  let env ← Env.declare ⟨[], c.captured, extra, c.unit, trace, true⟩ c.params args
  match ← Block.execute call c.body env atBlockEnd with
  | .returned values => return .inr values
  | .handedOn line f args => return .inl ⟨some (env.frame line), f, args⟩
  | _ => return .inr []

/-- Makes a call as far as its values or a call that takes its place. Values that are no
functions may have a metamethod to call. -/
def step (call : Dispatch) (trace : Trace) (p : Pending) : Run (Pending ⊕ List Datum) := do
  match p.f with
  | .closure place => enter call trace (← Run.readClosure place) p.args
  | .primitive q =>
    let trace := p.trace trace
    return .inr (← Run.placed (trace.frame 1)
      (q.apply (call (trace.push .host).throughHost) trace p.args))
  | other =>
    let handler ← Operation.metamethod other "__call"
    if handler.isNil then
      Run.placed ((p.trace trace).frame 1)
        (Run.fail ("attempt to call a " ++ other.typeName ++ " value"))
    else return .inl ⟨p.caller, handler, other :: p.args⟩

/-- Calls with a bound on how deep they nest. -/
def within : Nat → Dispatch
  | 0, _, _, _ => Run.fail "stack overflow"
  | depth + 1, trace, f, args =>
    if Trace.hostedLimit ≤ trace.hosted then Run.fail "stack overflow"
    else iterate (step (within depth) trace) turnLimit ⟨none, f, args⟩

/-- Runs the main function of a unit. It is run once and nothing refers to it, so it has no
place in the heap. -/
def main : Nat → Closure → Run (List Datum)
  | 0, _ => Run.fail "stack overflow"
  | depth + 1, c => do
    match ← enter (within depth) .start c [] with
    | .inl p => iterate (step (within depth) .start) turnLimit p
    | .inr values => return values

end Call

end Docbase.Script
