import Docbase.Script.Check
import Docbase.Script.Lexer
import Docbase.Script.Parser

/-!
From the text of a script to its syntax.
-/
namespace Docbase.Script

/-- The script that a text spells, if it is one. -/
def compile (source : String) : Except Refusal Block := do
  let body ← parseTokens (tokens source.toList)
  if isWellFormed body then return body else Parser.refuse

/-- The script that gives back the values of an expression list. -/
def compileExpression (source : String) : Except Refusal Block := compile ("return " ++ source)

/-- An expression needs no `return`; any other text is a script as it is. -/
def compilePredicate (source : String) : Except Refusal Block :=
  match compileExpression source with
  | .ok body => .ok body
  | .error _ => compile source

end Docbase.Script
