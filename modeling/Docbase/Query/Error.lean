import Docbase.Script.Error

/-!
What is wrong with a query or a sort specification, and how it is told.
-/
namespace Docbase

/-- The name of the unit that a script predicate is. -/
def scriptName : String := "$where"

/-- Why a query cannot be compiled. -/
inductive Malformed where
  | logicalNotArray (operator : String)
  | logicalEmpty (operator : String)
  | logicalMember (operator : String)
  | whereNotText
  | whereInside
  | unknownTopLevel (operator : String)
  | unknownField (operator : String)
  | emptyOperators
  | optionsNotText
  | optionsAlone
  | regexNotText
  | unknownFlag (flag : Char)
  | badPattern
  | operandsNotArray (operator : String)
  | modShape
  | modZero
  | modNotNumbers
  | sizeShape
  | elemMatchShape
  | sortDirection (field : String) (found : Value)

def Malformed.message : Malformed → String
  | .logicalNotArray op => op ++ " value must be an array"
  | .logicalEmpty op => op ++ " array must not be empty"
  | .logicalMember op => op ++ " array elements must be documents"
  | .whereNotText => "$where value must be a script string"
  | .whereInside => "$where is not allowed inside $elemMatch"
  | .unknownTopLevel op => "unknown top-level operator: " ++ op
  | .unknownField op => "unknown field operator: " ++ op
  | .emptyOperators => "empty operator document"
  | .optionsNotText => "$options value must be a string"
  | .optionsAlone => "$options without $regex"
  | .regexNotText => "$regex value must be a string"
  | .unknownFlag flag => "unknown regex option: " ++ flag.toString
  | .badPattern => "invalid regex pattern"
  | .operandsNotArray op => op ++ " needs an array"
  | .modShape => "$mod needs an array of [divisor, remainder]"
  | .modZero => "$mod divisor cannot be 0"
  | .modNotNumbers => "$mod divisor and remainder must be numbers"
  | .sizeShape => "$size needs a non-negative whole number"
  | .elemMatchShape => "$elemMatch needs a document"
  | .sortDirection field found =>
    "sort direction for " ++ field ++ " must be 1 or -1, got " ++ found.text

/-- A query that cannot be compiled, or whose script failed on a document. -/
inductive QueryError where
  | malformed (cause : Malformed)
  | script (error : ScriptError)

def QueryError.message : QueryError → String
  | .malformed cause => "malformed query: " ++ cause.message
  | .script error => "$where failed: " ++ error.message

end Docbase
