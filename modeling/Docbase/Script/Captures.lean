import Docbase.Script.Slots

/-!
Which variables of the functions around it a function uses, in its own body or in functions
inside. A function holds on to a limited number of them, and one that would use more is
refused. A variable is told by how many others are in sight outside of it.
-/
namespace Docbase.Script

namespace Captures

/-- The most variables of functions around it that a function holds on to. -/
def limit : Nat := 255

/-- The number of a variable in sight; names of no variable are fields of the globals. -/
def number (sight : List String) (x : String) : Nat :=
  match sight.idxOf? x with
  | some i => sight.length - 1 - i
  | none => 0

/-- What a function uses of what is around it, if it is not too much. -/
def ofFunction (around : Nat) (used : List Nat) : Option (List Nat) :=
  let captured := (used.filter (· < around)).eraseDups
  if captured.length ≤ limit then some captured else none

mutual

/-- The variables that an expression uses. -/
def expr (sight : List String) : Expr → Option (List Nat)
  | .function params _ body => do
    ofFunction sight.length (← block (params.reverse ++ sight) body)
  | .name _ x => some [number sight x]
  | .index _ object key => return (← expr sight object) ++ (← expr sight key)
  | .call _ f args => return (← expr sight f) ++ (← exprs sight args)
  | .method _ object _ args => return (← expr sight object) ++ (← exprs sight args)
  | .unary _ _ a => expr sight a
  | .binary _ _ a b => return (← expr sight a) ++ (← expr sight b)
  | .and a b => return (← expr sight a) ++ (← expr sight b)
  | .or a b => return (← expr sight a) ++ (← expr sight b)
  | .table _ is => items sight is
  | .paren e => expr sight e
  | _ => some []

def exprs (sight : List String) : List Expr → Option (List Nat)
  | [] => some []
  | e :: rest => return (← expr sight e) ++ (← exprs sight rest)

def items (sight : List String) : List Item → Option (List Nat)
  | [] => some []
  | i :: rest => do
    let used ←
      match i with
      | .positional e => expr sight e
      | .keyed key e => pure ((← expr sight key) ++ (← expr sight e))
    return used ++ (← items sight rest)

def targets (sight : List String) : List Target → Option (List Nat)
  | [] => some []
  | t :: rest => do
    let used ←
      match t with
      | .name x => some [number sight x]
      | .index object key => pure ((← expr sight object) ++ (← expr sight key))
    return used ++ (← targets sight rest)

def stmt (sight : List String) : Stmt → Option (List Nat)
  | .declare _ values => exprs sight values
  | .assign _ ts values => return (← targets sight ts) ++ (← exprs sight values)
  | .call e => expr sight e
  | .block body => block sight body
  | .whileLoop condition body => return (← expr sight condition) ++ (← block sight body)
  | .repeatLoop body condition =>
    return (← block sight body) ++ (← expr (Slots.declared body ++ sight) condition)
  | .branch condition whenTrue whenFalse =>
    return (← expr sight condition) ++ (← block sight whenTrue) ++ (← block sight whenFalse)
  | .numericFor _ x start limit step body => do
    let third ←
      match step with
      | some e => expr sight e
      | none => some []
    let range := (← expr sight start) ++ (← expr sight limit) ++ third
    return range ++ (← block (x :: sight) body)
  | .genericFor _ names values body =>
    return (← exprs sight values) ++ (← block (names.reverse ++ sight) body)
  | .giveBack values => exprs sight values
  | _ => some []

def block (sight : List String) : List Stmt → Option (List Nat)
  | [] => some []
  | .declare names values :: rest =>
    return (← exprs sight values) ++
      (← block ((names.map LocalName.name).reverse ++ sight) rest)
  | .localFunction name params _ body :: rest => do
    let used ← ofFunction (sight.length + 1) (← block (params.reverse ++ name :: sight) body)
    return used ++ (← block (name :: sight) rest)
  | s :: rest => return (← stmt sight s) ++ (← block sight rest)

end

/-- Whether no function of a script holds on to too many variables. -/
def fits (body : Block) : Bool := (block ["_ENV"] body).isSome

end Captures

end Docbase.Script
