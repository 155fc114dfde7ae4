import Docbase.Binary64.Text
import Docbase.Text.Base64
import Docbase.Text.Calendar
import Docbase.Value.Document

/-!
Values as they are shown in messages. Nothing in a text is escaped. A reference is shown by
name at the top only; inside another value it is shown as the document that stands for it.
-/
namespace Docbase.Value

private def field (key shown : String) : String := "\"" ++ key ++ "\": " ++ shown

private def braces (parts : List String) : String :=
  if parts.isEmpty then "\x7b\x7d" else "\x7b " ++ ", ".intercalate parts ++ " \x7d"

mutual

/-- A value inside a document or an array. -/
def nestedText : Value → String
  | .minKey => "MinKey"
  | .null => "null"
  | .int32 n => toString n.toInt
  | .int64 n => toString n.toInt
  | .double x => x.plain
  | .string s => "\"" ++ s ++ "\""
  | .boolean b => if b then "true" else "false"
  | .dateTime ms => "DateTime(\"" ++ Calendar.text ms.toInt ++ "\")"
  | .binary subtype bytes =>
    "Binary(0x" ++ Hex.ofNat subtype.toNat ++ ", " ++ Base64.encode bytes ++ ")"
  | .objectId id => "ObjectId(\"" ++ id.hex ++ "\")"
  | .regex r => "/" ++ r.pattern ++ "/" ++ r.options
  | .document fields => braces (fieldTexts fields)
  | .array items => "[" ++ ", ".intercalate (itemTexts items) ++ "]"
  | .reference database collection id =>
    braces <| [field "$ref" ("\"" ++ collection ++ "\""), field "$id" (nestedText id)] ++
      match database with
      | some name => [field "$db" ("\"" ++ name ++ "\"")]
      | none => []
  | .maxKey => "MaxKey"

def fieldTexts : List (String × Value) → List String
  | [] => []
  | (k, v) :: rest => field k (nestedText v) :: fieldTexts rest

def itemTexts : List Value → List String
  | [] => []
  | v :: rest => nestedText v :: itemTexts rest

end

def text : Value → String
  | .reference database collection id =>
    let target :=
      match database with
      | some name => name ++ "." ++ collection
      | none => collection
    "DBRef(" ++ target ++ ", " ++ text id ++ ")"
  | v => nestedText v

end Docbase.Value

namespace Docbase.Document

def text (d : Document) : String := Value.nestedText (.document d)

end Docbase.Document
