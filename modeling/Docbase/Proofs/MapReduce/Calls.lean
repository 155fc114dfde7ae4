import Docbase.MapReduce.Job
import Docbase.Proofs.Script.CallStatement
import Docbase.Proofs.Script.Slots

/-!
Units of calls. The call that maps a document takes one line, so a unit of several calls compiles
to one statement for each of them, and to run it is to run units of one call each, in which the
calls stand on the same lines.
-/
namespace Docbase.MapReduce

open Script Script.Lexer Script.Parser

/-- The call that maps a document, on the first line. -/
def callExpr (d : Document) : Expr :=
  Literal.callExpr "__with_document" [Literal.expr (.document d), .name 1 mapName]

/-- The statement that the call is on a line. -/
def callOn (line : ℕ) (d : Document) : Stmt := .call ((callExpr d).onLine line)

/-- The limits of the parser on the call for a document: how deep its source nests, and how many
slots a frame has. -/
structure WithinLimits (d : Document) : Prop where
  levels : (callExpr d).levels + 1 < depthLimit
  slots : Slots.fits [callOn 1 d] = true

/-- The call for a document, some lines down. -/
def callDown (n : ℕ) (d : Document) : String := String.ofList (List.replicate n '\n') ++ mapCall d

end Docbase.MapReduce
