import Docbase.Binary64.Basic
import Docbase.Text.Hex
import Docbase.Text.Utf8

/-!
The values that documents hold. A document is a list of entries in order; the operations on
it keep every key at most once. A reference names a document of a collection by its id.
-/
namespace Docbase

/-- Twelve bytes that identify a document. -/
structure ObjectId where
  bytes : List UInt8
  size_eq : bytes.length = 12
  deriving DecidableEq, Repr

namespace ObjectId

def hex (id : ObjectId) : String := Hex.encode id.bytes

def ofBytes? (bytes : List UInt8) : Option ObjectId :=
  if h : bytes.length = 12 then some ⟨bytes, h⟩ else none

def ofHex? (text : String) : Option ObjectId := do
  ofBytes? (← Hex.decode? text)

instance : Inhabited ObjectId := ⟨⟨List.replicate 12 0, rfl⟩⟩

end ObjectId

/-- The text of a pattern with its option letters. -/
structure Regex where
  pattern : String
  options : String
  deriving DecidableEq, Repr, Inhabited

namespace Regex

def insertLetter (c : Char) : List Char → List Char
  | [] => [c]
  | d :: rest =>
    if c < d then c :: d :: rest else if c = d then d :: rest else d :: insertLetter c rest

/-- The letters in ascending order, each once. -/
def sortOptions (options : String) : String :=
  String.ofList (options.toList.foldr insertLetter [])

/-- Options are kept sorted and without repetition, so equal option sets are equal texts. -/
def ofText (pattern options : String) : Regex := ⟨pattern, sortOptions options⟩

def has (r : Regex) (letter : Char) : Bool := r.options.toList.contains letter

def ignoreCase (r : Regex) : Bool := r.has 'i'

/-- A dot matches line ends as well. -/
def dotAll (r : Regex) : Bool := r.has 's'

/-- Blanks and comments in the pattern are left out. -/
def extended (r : Regex) : Bool := r.has 'x'

/-- `^` and `$` match at every line. -/
def multiLine (r : Regex) : Bool := r.has 'm'

end Regex

inductive Value where
  | minKey
  | null
  | int32 (n : Int32)
  | int64 (n : Int64)
  | double (x : Binary64)
  | string (s : String)
  | boolean (b : Bool)
  | dateTime (ms : Int64)
  | binary (subtype : UInt8) (bytes : Bytes)
  | objectId (id : ObjectId)
  | regex (r : Regex)
  | document (fields : List (String × Value))
  | array (items : List Value)
  | reference (database : Option String) (collection : String) (id : Value)
  | maxKey
  deriving Inhabited, Repr

/-- The entries of a document in order. -/
abbrev Document := List (String × Value)

/-- The classes of values, lowest first; values of different classes are ordered by class. -/
inductive TypeClass where
  | minKey | null | numeric | string | document | reference | array | binary | objectId
  | boolean | dateTime | regex | maxKey
  deriving DecidableEq, Repr

namespace TypeClass

def rank (c : TypeClass) : Nat := c.ctorIdx

end TypeClass

namespace Value

def typeClass : Value → TypeClass
  | .minKey => .minKey
  | .null => .null
  | .int32 _ | .int64 _ | .double _ => .numeric
  | .string _ => .string
  | .boolean _ => .boolean
  | .dateTime _ => .dateTime
  | .binary .. => .binary
  | .objectId _ => .objectId
  | .regex _ => .regex
  | .document _ => .document
  | .array _ => .array
  | .reference .. => .reference
  | .maxKey => .maxKey

/-- A number as the nearest double. -/
def asDouble? : Value → Option Binary64
  | .int32 n => some (.ofInt n.toInt)
  | .int64 n => some (.ofInt n.toInt)
  | .double x => some x
  | _ => none

def asString? : Value → Option String
  | .string s => some s
  | _ => none

def isDocument : Value → Bool
  | .document _ => true
  | _ => false

/-- Null, false, zero and NaN do not hold; every other value does. -/
def isTruthy : Value → Bool
  | .null => false
  | .boolean b => b
  | .int32 n => n != 0
  | .int64 n => n != 0
  | .double x => !x.isZero && !x.isNaN
  | _ => true

end Value

end Docbase
