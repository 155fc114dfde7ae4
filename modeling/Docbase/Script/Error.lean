import Docbase.Script.Materialize
import Docbase.Value.Display

/-!
Errors of scripts: which unit failed, its source, and why.
-/
namespace Docbase.Script

inductive Failure where
  /-- The unit cannot have the name it was given. -/
  | badName
  | syntaxError
  /-- The script raised a value, given as the text it is written by. -/
  | raised (text : String)
  | unconvertible (cause : Unconvertible)
  | notFunction (kind : String)
  | notArray (found : Value)

namespace Failure

def message : Failure → String
  | .badName => "runtime error"
  | .syntaxError => "syntax error"
  | .raised text => if text.isEmpty then "runtime error" else "runtime error: " ++ text
  | .unconvertible cause => cause.message
  | .notFunction kind => "expected a function, got a Lua " ++ kind
  | .notArray found => "expected an array, got " ++ found.text

end Failure

end Docbase.Script

namespace Docbase

/-- A unit of script that failed. -/
structure ScriptError where
  name : String
  script : String
  failure : Script.Failure

def ScriptError.message (e : ScriptError) : String := e.name ++ ": " ++ e.failure.message

end Docbase
