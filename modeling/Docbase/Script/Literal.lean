import Docbase.Binary64.Text
import Docbase.Value.Document

/-!
Values as script source. The text uses printable ASCII only and no line breaks; evaluated in
a script scope it builds the value again, keys in order.
-/
namespace Docbase.Script.Literal

def digit (n : Nat) : Char := Char.ofNat ('0'.toNat + n)

/-- One byte of a quoted text. Bytes that are not printable are three decimal digits, so a
digit after them cannot be taken for a part of the escape. -/
def escapeByte (b : UInt8) : List Char :=
  if b = 0x22 then ['\\', '"']
  else if b = 0x5C then ['\\', '\\']
  else if 0x20 ≤ b ∧ b ≤ 0x7E then [Char.ofNat b.toNat]
  else ['\\', digit (b.toNat / 100), digit (b.toNat / 10 % 10), digit (b.toNat % 10)]

def quoted (bytes : Bytes) : List Char := '"' :: bytes.flatMap escapeByte ++ ['"']

def quotedText (s : String) : List Char := quoted (Utf8.encode s)

/-- The least integer has no numeral of its own. -/
def integer (n : Int64) : List Char :=
  if n = Int64.minValue then "math.mininteger".toList else (toString n.toInt).toList

def double (x : Binary64) : List Char :=
  if x.isNaN then "(0/0)".toList
  else if x.isInfinite then
    if x.isNegative then "(-math.huge)".toList else "math.huge".toList
  else x.literal.toList

/-- The parts with `, ` between them. -/
def commaSeparated : List (List Char) → List Char
  | [] => []
  | [part] => part
  | part :: parts => part ++ ',' :: ' ' :: commaSeparated parts

mutual

def ofValue : Value → List Char
  | .minKey => "MinKey".toList
  | .null => "null".toList
  | .int32 n => (toString n.toInt).toList
  | .int64 n => integer n
  | .double x => double x
  | .string s => quotedText s
  | .boolean b => if b then "true".toList else "false".toList
  | .dateTime ms => "Date(".toList ++ integer ms ++ [')']
  | .binary subtype bytes =>
    "BinData(".toList ++ (toString subtype.toNat).toList ++ ", ".toList ++ quoted bytes ++ [')']
  | .objectId id => "ObjectId(\"".toList ++ id.hex.toList ++ "\")".toList
  | .regex r =>
    "RegExp(".toList ++ quotedText r.pattern ++ ", ".toList ++ quotedText r.options ++ [')']
  | .document fields =>
    "Document(\x7b".toList ++ commaSeparated (fieldTexts fields) ++ "\x7d, \x7b".toList ++
      commaSeparated (fields.map fun entry => quotedText entry.1) ++ "\x7d)".toList
  | .array items => "Array(\x7b".toList ++ commaSeparated (itemTexts items) ++ "\x7d)".toList
  | .reference database collection id =>
    "DBRef(".toList ++ quotedText collection ++ ", ".toList ++ ofValue id ++
      (match database with
        | some name => ", ".toList ++ quotedText name
        | none => []) ++ [')']
  | .maxKey => "MaxKey".toList

def fieldTexts : List (String × Value) → List (List Char)
  | [] => []
  | (k, v) :: rest => ('[' :: quotedText k ++ "] = ".toList ++ ofValue v) :: fieldTexts rest

def itemTexts : List Value → List (List Char)
  | [] => []
  | v :: rest => ofValue v :: itemTexts rest

end

def value (v : Value) : String := String.ofList (ofValue v)

def document (d : Document) : String := String.ofList (ofValue (.document d))

def string (s : String) : String := String.ofList (quotedText s)

end Docbase.Script.Literal
