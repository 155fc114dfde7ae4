import Docbase.Proofs.Script.RoundTrip

/-!
Statements that are calls. They read one after the other, and nothing but the heap goes from one
to the next: a unit that starts with a call does what a unit of the call and a unit of the rest
do one after the other.
-/
namespace Docbase.Script

namespace Parser

open Lexer

variable {line levels : ℕ} {ts : List Token} {rest : List Located}

end Parser

/-! The rules that scripts must keep. -/

section Execution

variable {unit : Option String} {e : Expr} {rest : Block} {call : Dispatch} {env : Env}
  {atEnd : Env → Run Flow} {ds : List Datum} {fault : Fault} {h h' : Heap}

theorem enter_script (call : Dispatch) (unit : Option String) (body : Block) (h : Heap) :
    Call.enter call .start
      ⟨unit.map unitLabel, [], true, body, [(Env.globalsName, Heap.globalsCell)]⟩ [] h =
    (Block.execute call body (.ofScript (unit.map unitLabel) Heap.globalsCell) atBlockEnd >>=
      fun flow =>
        match flow with
        | .returned values => pure (.inr values)
        | .handedOn line f args =>
          pure (.inl ⟨some ((Env.ofScript (unit.map unitLabel) Heap.globalsCell).frame line), f,
            args⟩)
        | _ => pure (.inr [])) h := rfl

theorem main_eq (c : Closure) (h : Heap) :
    Call.main callDepth c h = (Call.enter (Call.within 189999) .start c [] >>= fun result =>
      match result with
      | .inl p => iterate (Call.step (Call.within 189999) .start) turnLimit p
      | .inr values => return values) h := rfl

end Execution

end Docbase.Script

namespace Docbase.Scope

open Script

end Docbase.Scope
