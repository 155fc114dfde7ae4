import Docbase.Script.Captures

/-!
Rules that a script must keep before it may run: dots only in functions that take them,
`break` only inside a loop, no assignment to a constant, no label twice in its scope, every
jump to a label in scope without entering the scope of a local variable, and no more local
variables in a function than a limit.
-/
namespace Docbase.Script

/-- What surrounds a statement in its function. -/
structure Surroundings where
  variadic : Bool
  inLoop : Bool
  /-- Labels already passed in the blocks around. -/
  passed : List String
  /-- Labels still to come that a jump may reach. -/
  ahead : List String
  locals : List LocalName
  /-- How many of the variables are the function's own, those without a name included. -/
  own : Nat

namespace Surroundings

/-- The most local variables of a function at a time. -/
def localLimit : Nat := 200

/-- How many variables without a name a loop over numbers has, and one over anything else. -/
def numericState : Nat := 3
def genericState : Nat := 4

def fits (s : Surroundings) : Bool := s.own ≤ localLimit

def ofFunction (s : Surroundings) (params : List String) (variadic : Bool) : Surroundings :=
  ⟨variadic, false, [], [], params.map (⟨·, false⟩) ++ s.locals, params.length⟩

def withLocals (s : Surroundings) (names : List LocalName) : Surroundings :=
  { s with locals := names.reverse ++ s.locals, own := s.own + names.length }

/-- Inside a loop with variables, some of them without a name. -/
def ofLoop (s : Surroundings) (hidden : Nat) (names : List String) : Surroundings :=
  let s := s.withLocals (names.map (⟨·, false⟩))
  { s with inLoop := true, own := s.own + hidden }

def mayAssign (s : Surroundings) (x : String) : Bool :=
  match s.locals.find? fun l => l.name == x with
  | some l => !l.constant
  | none => true

end Surroundings

namespace Check

/-- The local variables that the statements of a block declare. -/
def declared : List Stmt → List LocalName
  | [] => []
  | .declare names _ :: rest => names ++ declared rest
  | .localFunction name .. :: rest => ⟨name, false⟩ :: declared rest
  | _ :: rest => declared rest

/-- Labels up to the first declaration. -/
def nearLabels : List Stmt → List String
  | [] => []
  | .label name :: rest => name :: nearLabels rest
  | .declare .. :: _ | .localFunction .. :: _ => []
  | _ :: rest => nearLabels rest

/-- Labels at the very end, where no local variable is in scope any more. -/
def lastLabels (body : List Stmt) : List String :=
  (body.reverse.takeWhile fun s => match s with | .label _ => true | _ => false).filterMap
    fun s => match s with | .label name => some name | _ => none

mutual

def expr (s : Surroundings) : Expr → Bool
  | .varargs => s.variadic
  | .function params variadic body =>
    (s.ofFunction params variadic).fits && block (s.ofFunction params variadic) false body
  | .index _ object key => expr s object && expr s key
  | .call _ f args => expr s f && exprs s args
  | .method _ object _ args => expr s object && exprs s args
  | .unary _ _ a => expr s a
  | .binary _ _ a b => expr s a && expr s b
  | .and a b => expr s a && expr s b
  | .or a b => expr s a && expr s b
  | .table _ is => items s is
  | .paren e => expr s e
  | _ => true

def exprs (s : Surroundings) : List Expr → Bool
  | [] => true
  | e :: rest => expr s e && exprs s rest

def items (s : Surroundings) : List Item → Bool
  | [] => true
  | i :: rest => item s i && items s rest

def item (s : Surroundings) : Item → Bool
  | .positional e => expr s e
  | .keyed key e => expr s key && expr s e

def target (s : Surroundings) : Target → Bool
  | .name x => s.mayAssign x
  | .index object key => expr s object && expr s key

def targets (s : Surroundings) : List Target → Bool
  | [] => true
  | t :: rest => target s t && targets s rest

/-- One statement, except for what it changes for the statements after it. -/
def stmt (s : Surroundings) : Stmt → Bool
  | .declare names values => (s.withLocals names).fits && exprs s values
  | .assign _ ts values => targets s ts && exprs s values
  | .call e => expr s e
  | .block body => block s false body
  | .whileLoop condition body => expr s condition && block { s with inLoop := true } false body
  | .repeatLoop body condition =>
    block { s with inLoop := true } true body && expr (s.withLocals (declared body)) condition
  | .branch condition whenTrue whenFalse =>
    expr s condition && block s false whenTrue && block s false whenFalse
  | .numericFor _ x start limit step body =>
    expr s start && expr s limit &&
      (match step with
        | some e => expr s e
        | none => true) &&
      (s.ofLoop Surroundings.numericState [x]).fits &&
      block (s.ofLoop Surroundings.numericState [x]) false body
  | .genericFor _ names values body =>
    exprs s values &&
      (s.ofLoop Surroundings.genericState names).fits &&
      block (s.ofLoop Surroundings.genericState names) false body
  | .localFunction name params variadic body =>
    let inner := s.withLocals [⟨name, false⟩]
    inner.fits && (inner.ofFunction params variadic).fits &&
      block (inner.ofFunction params variadic) false body
  | .giveBack values => exprs s values
  | .leave => s.inLoop
  | .jump label => s.passed.contains label || s.ahead.contains label
  | .label name => !s.passed.contains name

/-- The statements of a block; the labels at the end of a block under `repeat` are followed
by its condition and have no privilege. -/
def block (s : Surroundings) (underRepeat : Bool) : List Stmt → Bool
  | [] => true
  | st :: rest =>
    let last := if underRepeat then [] else lastLabels rest
    let here := { s with ahead := nearLabels rest ++ last ++ s.ahead }
    let next :=
      match st with
      | .declare names _ => s.withLocals names
      | .localFunction name .. => s.withLocals [⟨name, false⟩]
      | .label name => { s with passed := name :: s.passed }
      | _ => s
    stmt here st && block next underRepeat rest

end

end Check

/-- Whether a whole script keeps the rules, and none of its functions is too large; the script
itself takes dots. -/
def isWellFormed (body : Block) : Bool :=
  Check.block ⟨true, false, [], [], [], 0⟩ false body && Slots.fits body && Captures.fits body

end Docbase.Script
