import Docbase.Value.Document

/-!
BSON values, which have more types and no references. Reading one narrows it: types without
a counterpart become null, code becomes text, and an embedded document whose keys are
`$ref`, `$id` and perhaps `$db` becomes a reference, which is written back as such a
document.
-/
namespace Docbase

inductive Bson where
  | minKey
  | maxKey
  | null
  | undefined
  | int32 (n : Int32)
  | int64 (n : Int64)
  | double (x : Binary64)
  | decimal128 (bytes : Bytes)
  | string (s : String)
  | symbol (s : String)
  | code (source : String)
  | codeWithScope (source : String) (scope : List (String × Bson))
  | boolean (b : Bool)
  | dateTime (ms : Int64)
  | timestamp (time increment : UInt32)
  | binary (subtype : UInt8) (bytes : Bytes)
  | objectId (id : ObjectId)
  | regex (pattern options : String)
  | pointer (namespaceName : String) (id : ObjectId)
  | document (fields : List (String × Bson))
  | array (items : List Bson)
  deriving Inhabited

namespace Bson

def field? (key : String) : List (String × Bson) → Option Bson
  | [] => none
  | (k, v) :: rest => if k = key then some v else field? key rest

/-- The collection and database that a document of reference shape names. -/
def referenceShape? (fields : List (String × Bson)) : Option (String × Option String) :=
  let known := fields.all fun entry => ["$ref", "$id", "$db"].contains entry.1
  match known, field? "$ref" fields, field? "$id" fields, field? "$db" fields with
  | true, some (.string collection), some _, none => some (collection, none)
  | true, some (.string collection), some _, some (.string database) =>
    some (collection, some database)
  | _, _, _, _ => none

end Bson

namespace Value

mutual

def ofBson : Bson → Value
  | .minKey => .minKey
  | .maxKey => .maxKey
  | .null | .undefined | .decimal128 _ | .pointer .. => .null
  | .int32 n => .int32 n
  | .int64 n => .int64 n
  | .double x => .double x
  | .string s | .symbol s | .code s | .codeWithScope s _ => .string s
  | .boolean b => .boolean b
  | .dateTime ms => .dateTime ms
  | .timestamp time _ => .dateTime (Int64.ofNat (time.toNat * 1000))
  | .binary s bytes => .binary s bytes
  | .objectId id => .objectId id
  | .regex pattern options => .regex (Regex.ofText pattern options)
  | .document fields =>
    match Bson.referenceShape? fields with
    | some (collection, database) =>
      .reference database collection ((Document.get? (fieldsOfBson fields) "$id").getD .null)
    | none => .document (fieldsOfBson fields)
  | .array items => .array (itemsOfBson items)

def fieldsOfBson : List (String × Bson) → List (String × Value)
  | [] => []
  | (k, b) :: rest => (k, ofBson b) :: fieldsOfBson rest

def itemsOfBson : List Bson → List Value
  | [] => []
  | b :: rest => ofBson b :: itemsOfBson rest

end

mutual

def toBson : Value → Bson
  | .minKey => .minKey
  | .maxKey => .maxKey
  | .null => .null
  | .int32 n => .int32 n
  | .int64 n => .int64 n
  | .double x => .double x
  | .string s => .string s
  | .boolean b => .boolean b
  | .dateTime ms => .dateTime ms
  | .binary s bytes => .binary s bytes
  | .objectId id => .objectId id
  | .regex r => .regex r.pattern r.options
  | .document fields => .document (fieldsToBson fields)
  | .array items => .array (itemsToBson items)
  | .reference database collection id =>
    .document <| [("$ref", .string collection), ("$id", toBson id)] ++
      match database with
      | some name => [("$db", .string name)]
      | none => []

def fieldsToBson : List (String × Value) → List (String × Bson)
  | [] => []
  | (k, v) :: rest => (k, toBson v) :: fieldsToBson rest

def itemsToBson : List Value → List Bson
  | [] => []
  | v :: rest => toBson v :: itemsToBson rest

end

end Value

/-- A whole BSON document; the document itself is never read as a reference. -/
def Document.ofBson (fields : List (String × Bson)) : Document := Value.fieldsOfBson fields

end Docbase
