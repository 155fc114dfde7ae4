import Docbase.Query.Error
import Docbase.Store

/-!
What can go wrong in a database, how it is told, and the document that tells it.
-/
namespace Docbase

/-- What is wrong with where results should go. -/
inductive OutputError where
  | wrongType (found : Value)
  | notExactlyOne (found : Document)
  | emptyName
  | target (mode : String) (found : Value)
  | inlineDisabled
  | unknownMode (mode : String)
  /-- Results cannot be combined with documents that are there. -/
  | cannotCombine (id : Value) (collection : String)

def OutputError.message : OutputError → String
  | .wrongType found =>
    "output must be a collection name or a document, got " ++ found.text
  | .notExactlyOne found =>
    "output document needs exactly one of replace, merge, reduce or inline, got " ++
      Document.text found
  | .emptyName => "output collection name must not be empty"
  | .target mode found => mode ++ " target must be a collection name, got " ++ found.text
  | .inlineDisabled => "inline output must be enabled with a truthy value"
  | .unknownMode mode => "unknown output mode: " ++ mode
  | .cannotCombine id collection =>
    "reduce output cannot combine with existing document " ++ id.text ++ " in " ++ collection

/-- What a job lacks. -/
inductive JobError where
  | mapMissing
  | reduceMissing
  | finalizeEmpty
  deriving DecidableEq, Repr

def JobError.message : JobError → String
  | .mapMissing => "map function is required"
  | .reduceMissing => "reduce function is required"
  | .finalizeEmpty => "finalize function must not be empty"

inductive DbError where
  | query (cause : Malformed)
  | script (error : ScriptError)
  | output (cause : OutputError)
  | invalidJob (cause : JobError)
  | store (error : StoreError)

namespace DbError

/-- A script in a query fails like any other script. -/
def ofQuery : QueryError → DbError
  | .malformed cause => .query cause
  | .script error => .script error

def message : DbError → String
  | .query cause => (QueryError.malformed cause).message
  | .script error => "script execution failed: " ++ error.message
  | .output cause => "output mode error: " ++ cause.message
  | .invalidJob cause => "invalid map-reduce job: " ++ cause.message
  | .store error => "store error: " ++ error.message

def code : DbError → Int32
  | .script _ => 16722
  | .query _ => 2
  | .invalidJob _ => 9
  | .output _ => 13522
  | .store _ => 1

def toDocument (e : DbError) : Document :=
  [("ok", .double .zero), ("errmsg", .string e.message), ("code", .int32 e.code)]

end DbError

end Docbase
