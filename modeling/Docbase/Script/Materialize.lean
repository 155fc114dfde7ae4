import Docbase.Script.Heap
import Docbase.Text.Quoted
import Docbase.Value.Document
import Docbase.Binary64.Text

/-!
What scripts leave behind, as values. A table is told by the name in its metatable; a table
without a known name is an array if its keys are exactly 1 to n, and a document otherwise.
Tables nest up to a limit, so that tables which contain themselves are refused.
-/
namespace Docbase.Script

/-- Why there is no value. -/
inductive Unconvertible where
  | tooDeep
  | noValue (kind : String)
  | objectId (text reason : String)
  | subtype (n : Int)
  | key (kind : String)
  | noNumber (field kind : String)
  /-- A text was needed. -/
  | noText

namespace Unconvertible

def message : Unconvertible → String
  | .tooDeep => "runtime error: value nesting exceeds 100 levels"
  | .noValue kind => "runtime error: cannot convert a Lua " ++ kind ++ " to a document value"
  | .objectId text reason =>
    "runtime error: invalid ObjectId " ++ Quoted.quote text ++ ": " ++ reason
  | .subtype n => "runtime error: binary subtype " ++ toString n ++ " out of range"
  | .key kind => "runtime error: document keys must be strings, found a Lua " ++ kind
  | .noNumber field kind =>
    "runtime error: expected a number in field " ++ field ++ ", found a Lua " ++ kind
  | .noText => "conversion error"

end Unconvertible

namespace Materialize

/-- The most tables one inside the other. -/
def levelLimit : Nat := 100

/-- A text, or a number written out; other values and broken encodings are refused. -/
def text (d : Datum) : Except Unconvertible String :=
  match d.toText? with
  | none => .error .noText
  | some bytes =>
    let s := Utf8.decode bytes
    if Utf8.encode s = bytes then .ok s else .error .noText

def text? (d : Datum) : Except Unconvertible (Option String) :=
  if d.isNil then .ok none else (text d).map some

/-- An integer; fractions are cut off, and doubles beyond 64 bits are the nearest integer
within. -/
def integer (t : Table) (field : String) : Except Unconvertible Int :=
  match t.getText field with
  | .int n => .ok n.toInt
  | .double x =>
    if x.isFinite then .ok (max Int64.minValue.toInt (min Int64.maxValue.toInt x.truncate))
    else .error (.noNumber field "number")
  | d => .error (.noNumber field d.kindName)

def badDigit? (s : String) : Option (UInt8 × Nat) :=
  (Utf8.encode s).zipIdx.find? fun digit =>
    (Hex.digitValue? (Char.ofNat digit.1.toNat)).isNone

/-- Identifiers have 24 digits. Of an odd number of characters the length is at fault, else
the first one that is no digit. -/
def objectId (s : String) : Except Unconvertible Value :=
  let size := s.utf8ByteSize
  let badLength :=
    Except.error <| Unconvertible.objectId s <|
      "provided hex string representation must be exactly 12 bytes, instead got: \"" ++ s ++
        "\", length " ++ toString size
  if size % 2 = 1 then badLength
  else
    match badDigit? s with
    | some (byte, index) =>
      .error <| .objectId s <|
        "invalid character '" ++ (Char.ofNat byte.toNat).toString ++
          "' was found at index " ++ toString index ++ " in the provided hex string: \"" ++ s ++
          "\""
    | none =>
      match ObjectId.ofHex? s with
      | some id => .ok (.objectId id)
      | none => badLength

/-- Whether the keys are exactly the positions up to `n`. -/
def isSequence (t : Table) (n : Nat) : Bool :=
  let entries := t.entries
  let isPosition : Datum → Bool
    | .int i => decide (1 ≤ i.toInt ∧ i.toInt ≤ n)
    | _ => false
  entries.all (fun entry => isPosition entry.1) && entries.length == n

/-- The name of a field: texts as they are, numbers written out. -/
def fieldName : Datum → Except Unconvertible String
  | .text s => .ok (Utf8.decode s)
  | .int n => .ok (toString n.toInt)
  | .double x => .ok x.plain
  | d => .error (.key d.kindName)

/-- The items at positions 1 to `n`. -/
def sequence (value : Datum → Except Unconvertible Value) (t : Table) (n : Nat) :
    Except Unconvertible Value := do
  return .array (← (List.range n).mapM fun (i : Nat) => value (t.getInt (i + 1)))

/-- Fields named in the given order come first, all others after them by name. -/
def document (value : Datum → Except Unconvertible Value) (t : Table) (order : Option Table) :
    Except Unconvertible Value := do
  let names ← match order with
    | none => pure []
    | some order => pure ((List.range order.border).map fun (i : Nat) => order.getInt (i + 1))
  let ordered ← names.foldlM (fun (doc : Document) d => do
    let name ← text d
    let field := t.getText name
    if field.isNil then return doc else return doc.insert name (← value field)) []
  let fields ← t.entries.mapM fun entry => do return (← fieldName entry.1, entry.2)
  let rest := (fields.filter fun field => !ordered.contains field.1).mergeSort
    fun a b => decide (a.1 ≤ b.1)
  let doc ← rest.foldlM (fun (doc : Document) field => do
    return doc.insert field.1 (← value field.2)) ordered
  return .document doc

def untagged (value : Datum → Except Unconvertible Value) (t : Table) :
    Except Unconvertible Value :=
  let n := t.border
  if 0 < n && isSequence t n then sequence value t n else document value t none

/-- A table by the name in its metatable. -/
def tagged (value : Datum → Except Unconvertible Value) (h : Heap) (t metatable : Table) :
    Except Unconvertible Value := do
  match ← text? (metatable.getText "__name") with
  | some "null" => return .null
  | some "MinKey" => return .minKey
  | some "MaxKey" => return .maxKey
  | some "Date" => return .dateTime (Int64.ofInt (← integer t "ms"))
  | some "ObjectId" => objectId (← text (t.getText "hex"))
  | some "RegExp" =>
    let pattern ← text (t.getText "pattern")
    let options ← text? (t.getText "options")
    return .regex (Regex.ofText pattern (options.getD ""))
  | some "BinData" =>
    let subtype ← integer t "subtype"
    if subtype < 0 ∨ 255 < subtype then throw (.subtype subtype)
    match (t.getText "bytes").toText? with
    | some bytes => return .binary (UInt8.ofNat subtype.toNat) bytes
    | none => throw .noText
  | some "DBRef" =>
    let collection ← text (t.getText "$ref")
    let database ← text? (t.getText "$db")
    return .reference database collection (← value (t.getText "$id"))
  | some "Array" => sequence value t t.border
  | some "Document" =>
    match metatable.getText "__keys" with
    | .nil => document value t none
    | .table keys => document value t (some (h.table keys))
    | _ => throw .noText
  | _ => untagged value t

/-- The value of a datum with tables nested up to a number of levels. -/
def ofDatum (h : Heap) : Nat → Datum → Except Unconvertible Value
  | _, .nil => return .null
  | _, .boolean b => return .boolean b
  | _, .int n =>
    let i := n.toInt
    return if Int32.minValue.toInt ≤ i ∧ i ≤ Int32.maxValue.toInt then .int32 (Int32.ofInt i)
      else .int64 n
  | _, .double x => return .double x
  | _, .text s => return .string (Utf8.decode s)
  | 0, .table _ => throw .tooDeep
  | levels + 1, .table place =>
    let t := h.table place
    match t.metatable with
    | some metatable => tagged (ofDatum h levels) h t (h.table metatable)
    | none => untagged (ofDatum h levels) t
  | _, d => throw (.noValue d.kindName)

end Materialize

/-- The value that a heap gives a datum. -/
def Heap.valueOf (h : Heap) (d : Datum) : Except Unconvertible Value :=
  Materialize.ofDatum h Materialize.levelLimit d

end Docbase.Script
