import Docbase.Script.Syntax

/-!
How many slots the frame of a function needs. Its own variables lie in slots for as long as
they are in scope, and values in the making take further ones: the arguments of a call lie
side by side, an operand waits for the other one, and the items of a table wait for a number
of others. An operand that is a variable of the function stays where it is. The frame of a
function has a fixed number of slots, and a function that needs more is refused.
-/
namespace Docbase.Script

namespace Slots

/-- A frame has fewer slots than this. -/
def limit : Nat := 255

/-- How many items of a table are put into it at a time. -/
def chunkSize : Nat := 50

/-- The variables in sight: those of the function itself, and those of the functions around
it. -/
structure Sight where
  own : List String
  outer : List String

namespace Sight

def declare (v : Sight) (names : List String) : Sight := { v with own := names ++ v.own }

/-- In sight inside a function. -/
def enter (v : Sight) (params : List String) : Sight := ⟨params, v.own ++ v.outer⟩

end Sight

/-- How many slots a value takes that must be at hand. -/
def ofValue (v : Sight) (e : Expr) : Nat :=
  match e.nameOnly? with
  | some x => if v.own.contains x then 0 else 1
  | none => 1

/-- How many slots an operand takes while the other one is evaluated. -/
def ofOperand (v : Sight) : Expr → Nat
  | .int _ | .double _ => 0
  | e => ofValue v e

/-- How many slots a value takes that is about to be stored. -/
def ofStored (v : Sight) : Expr → Nat
  | .nil | .boolean _ | .int _ | .double _ | .text _ => 0
  | e => ofValue v e

/-- Comparisons decide without a slot for what they say. -/
def ofCondition (v : Sight) (e : Expr) : Nat :=
  match e with
  | .binary _ .eq .. | .binary _ .ne .. | .binary _ .lt .. | .binary _ .le ..
  | .binary _ .gt .. | .binary _ .ge .. => 0
  | e => if e.truth?.isSome then 0 else ofValue v e

/-- Whether an expression is nothing but the name of a variable of a function around. -/
def isOuter (v : Sight) : Expr → Bool
  | .name _ x => !v.own.contains x && v.outer.contains x
  | _ => false

def ofObject (v : Sight) (object : Expr) : Nat :=
  if isOuter v object then 0 else ofValue v object

/-- Short texts and small integers are keys without a slot. A table around the function comes
into a slot for all keys but short texts. -/
def ofKey (v : Sight) (object key : Expr) : Nat :=
  if key.isShortText then 0
  else
    let objects := if isOuter v object then 1 else 0
    match key with
    | .int n => if 0 ≤ n.toInt ∧ n.toInt ≤ 255 then objects else objects + 1
    | key => objects + ofValue v key

/-- The slots in use after an assignment has found its targets. -/
def afterTargets (v : Sight) (used : Nat) : List Target → Nat
  | [] => used
  | .name _ :: rest => afterTargets v used rest
  | .index object key :: rest => afterTargets v (used + ofObject v object + ofKey v object key) rest

/-- The variables that the statements of a block declare. -/
def declared : List Stmt → List String
  | [] => []
  | .declare names _ :: rest => declared rest ++ (names.map LocalName.name).reverse
  | .localFunction name .. :: rest => declared rest ++ [name]
  | _ :: rest => declared rest

mutual

/-- The most slots in use while an expression is evaluated, from those used before on; for
functions inside, the most of theirs. -/
def expr (v : Sight) (used : Nat) : Expr → Nat
  | .function params _ body => max (used + 1) (block (v.enter params) params.length body)
  | .index _ object key =>
    let before := used + ofObject v object
    max (expr v used object) (max (expr v before key) (before + ofKey v object key))
  | .call _ f args => max (expr v used f) (exprs v (used + 1) args)
  | .method _ object _ args => max (expr v used object) (exprs v (used + 2) args)
  | .unary _ _ a => max (expr v used a) (used + ofOperand v a)
  | .binary _ op a b =>
    match op with
    | .concat => max (expr v used a) (max (expr v (used + 1) b) (used + 2))
    | _ =>
      let before := used + ofOperand v a
      max (expr v used a) (max (expr v before b) (before + ofOperand v b))
  | .and a b => max (expr v used a) (max (used + ofCondition v a) (expr v used b))
  | .or a b => max (expr v used a) (max (used + ofCondition v a) (expr v used b))
  | .table _ is => items v (used + 1) 0 is
  | .paren e => expr v used e
  | _ => used

/-- Expressions whose values lie side by side. -/
def exprs (v : Sight) (used : Nat) : List Expr → Nat
  | [] => used
  | e :: rest => max (expr v used e) (exprs v (used + 1) rest)

/-- The items of a table, some of which are waiting. -/
def items (v : Sight) (used waiting : Nat) : List Item → Nat
  | [] => used + waiting
  | i :: rest =>
    let waiting := if waiting = chunkSize then 0 else waiting
    match i with
    | .positional e => max (expr v (used + waiting) e) (items v used (waiting + 1) rest)
    | .keyed key e =>
      let before := used + waiting
      let keyed := before + ofKey v .nil key
      max (max (expr v before key) (expr v keyed e))
        (max (keyed + ofStored v e) (items v used waiting rest))

def targets (v : Sight) (used : Nat) : List Target → Nat
  | [] => used
  | .name _ :: rest => targets v used rest
  | .index object key :: rest =>
    let before := used + ofObject v object
    let after := before + ofKey v object key
    max (max (expr v used object) (expr v before key)) (max after (targets v after rest))

def stmt (v : Sight) (used : Nat) : Stmt → Nat
  | .declare _ values => exprs v used values
  | .assign _ ts values =>
    let after := afterTargets v used ts
    max (targets v used ts)
      (max (exprs v after values)
        (if values.length = ts.length then after else after + ts.length))
  | .call e => expr v used e
  | .block body => block v used body
  | .whileLoop condition body =>
    max (expr v used condition) (max (used + ofCondition v condition) (block v used body))
  | .repeatLoop body condition =>
    let inner := v.declare (declared body)
    let usedInside := used + (declared body).length
    max (block v used body)
      (max (expr inner usedInside condition) (usedInside + ofCondition inner condition))
  | .branch condition whenTrue whenFalse =>
    max (max (expr v used condition) (used + ofCondition v condition))
      (max (block v used whenTrue) (block v used whenFalse))
  | .numericFor _ x start limit step body =>
    let third :=
      match step with
      | some e => expr v (used + 2) e
      | none => used
    max (max (expr v used start) (expr v (used + 1) limit))
      (max third (block (v.declare [x]) (used + 4) body))
  | .genericFor _ names values body =>
    max (exprs v used values)
      (max (used + 7) (block (v.declare names.reverse) (used + 4 + names.length) body))
  | .giveBack values => exprs v used values
  | _ => used

def block (v : Sight) (used : Nat) : List Stmt → Nat
  | [] => used
  | .declare names values :: rest =>
    max (exprs v used values)
      (block (v.declare (names.map LocalName.name).reverse) (used + names.length) rest)
  | .localFunction name params _ body :: rest =>
    let inner := v.declare [name]
    max (block (inner.enter params) params.length body) (block inner (used + 1) rest)
  | s :: rest => max (stmt v used s) (block v used rest)

end

/-- Whether each function of a script, and the script itself, finds room in a frame. -/
def fits (body : Block) : Bool := block ⟨[], ["_ENV"]⟩ 0 body < limit

end Slots

end Docbase.Script
