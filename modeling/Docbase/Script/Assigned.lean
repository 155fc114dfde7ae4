import Docbase.Script.Syntax

/-!
Whether a script assigns to a name anywhere, in its own statements or in functions inside. The
declaration of a local variable is no assignment.
-/
namespace Docbase.Script

mutual

def Expr.assigns (x : String) : Expr → Bool
  | .function _ _ body => Block.assigns x body
  | .index _ object key => object.assigns x || key.assigns x
  | .call _ f args => f.assigns x || Expr.anyAssigns x args
  | .method _ object _ args => object.assigns x || Expr.anyAssigns x args
  | .unary _ _ a => a.assigns x
  | .binary _ _ a b => a.assigns x || b.assigns x
  | .and a b => a.assigns x || b.assigns x
  | .or a b => a.assigns x || b.assigns x
  | .table _ is => Item.anyAssigns x is
  | .paren e => e.assigns x
  | _ => false

def Expr.anyAssigns (x : String) : List Expr → Bool
  | [] => false
  | e :: rest => e.assigns x || Expr.anyAssigns x rest

def Item.anyAssigns (x : String) : List Item → Bool
  | [] => false
  | .positional e :: rest => e.assigns x || Item.anyAssigns x rest
  | .keyed key e :: rest => key.assigns x || e.assigns x || Item.anyAssigns x rest

def Target.anyAssigns (x : String) : List Target → Bool
  | [] => false
  | .name y :: rest => x == y || Target.anyAssigns x rest
  | .index object key :: rest =>
    object.assigns x || key.assigns x || Target.anyAssigns x rest

def Stmt.assigns (x : String) : Stmt → Bool
  | .declare _ values => Expr.anyAssigns x values
  | .assign _ targets values => Target.anyAssigns x targets || Expr.anyAssigns x values
  | .call e => e.assigns x
  | .block body => Block.assigns x body
  | .whileLoop condition body => condition.assigns x || Block.assigns x body
  | .repeatLoop body condition => Block.assigns x body || condition.assigns x
  | .branch condition whenTrue whenFalse =>
    condition.assigns x || Block.assigns x whenTrue || Block.assigns x whenFalse
  | .numericFor _ _ start limit step body =>
    start.assigns x || limit.assigns x ||
      (match step with
        | some e => e.assigns x
        | none => false) ||
      Block.assigns x body
  | .genericFor _ _ values body => Expr.anyAssigns x values || Block.assigns x body
  | .localFunction _ _ _ body => Block.assigns x body
  | .giveBack values => Expr.anyAssigns x values
  | _ => false

def Block.assigns (x : String) : List Stmt → Bool
  | [] => false
  | s :: rest => s.assigns x || Block.assigns x rest

end

end Docbase.Script
