import Docbase.Proofs.Script.FreshScope
import Docbase.Proofs.Text.Hex
import Docbase.Proofs.Value.Options
import Docbase.Proofs.Value.Shape
import Docbase.Proofs.Value.Writing

/-!
What data mean as values. A datum means a value if it becomes that value wherever the tables
that it is made of are unchanged, up to the kind of its numbers, and as long as its tables do
not nest too deep. The tables that literals build mean the values of the literals.
-/
namespace Docbase

namespace Value

/-! How values come back. -/

mutual

/-- A value as scopes give it back: an integer that fits into 32 bits is one of 32 bits, and
there is only one NaN. -/
def settled : Value → Value
  | .int64 n =>
    if Int32.minValue.toInt ≤ n.toInt ∧ n.toInt ≤ Int32.maxValue.toInt then
      .int32 (Int32.ofInt n.toInt)
    else .int64 n
  | .double x => .double (if x.isNaN then .invalid else x)
  | .document fields => .document (settledFields fields)
  | .array items => .array (settledItems items)
  | .reference database collection id => .reference database collection id.settled
  | v => v

def settledFields : List (String × Value) → List (String × Value)
  | [] => []
  | (k, v) :: rest => (k, v.settled) :: settledFields rest

def settledItems : List Value → List Value
  | [] => []
  | v :: rest => v.settled :: settledItems rest

end

mutual

/-- How deep the tables of a value nest. -/
def nesting : Value → ℕ
  | .null | .minKey | .maxKey | .dateTime _ | .binary .. | .objectId _ | .regex _ => 1
  | .document fields => nestingOfFields fields + 1
  | .array items => nestingOfItems items + 1
  | .reference _ _ id => id.nesting + 1
  | _ => 0

/-- The most among the fields. -/
def nestingOfFields : List (String × Value) → ℕ
  | [] => 0
  | (_, v) :: rest => max v.nesting (nestingOfFields rest)

def nestingOfItems : List Value → ℕ
  | [] => 0
  | v :: rest => max v.nesting (nestingOfItems rest)

end

/-- Values as the host makes them: the keys of a document differ, the options of a regular
expression are in order, and lists are no longer than any list in memory. -/
inductive WellFormed : Value → Prop
  | scalar {v : Value} (hscalar : v.IsScalar)
    (hregex : ∀ r, v = .regex r → ∃ pattern options, r = Regex.ofText pattern options) :
    WellFormed v
  | document {fields : List (String × Value)} (hkeys : (fields.map Prod.fst).Nodup)
    (hsize : fields.length < 2 ^ 63) (hfields : ∀ entry ∈ fields, WellFormed entry.2) :
    WellFormed (.document fields)
  | array {items : List Value} (hsize : items.length < 2 ^ 63)
    (hitems : ∀ v ∈ items, WellFormed v) : WellFormed (.array items)
  | reference {id : Value} (database : Option String) (collection : String)
    (hid : WellFormed id) : WellFormed (.reference database collection id)

theorem settledFields_eq (fields : List (String × Value)) :
    settledFields fields = fields.map fun f => (f.1, f.2.settled) := by
  induction fields with
  | nil => rfl
  | cons f fields ih => exact congrArg ((f.1, f.2.settled) :: ·) ih

theorem settledItems_eq (items : List Value) : settledItems items = items.map settled := by
  induction items with
  | nil => rfl
  | cons v items ih => exact congrArg (v.settled :: ·) ih

theorem nestingOfFields_le (fields : List (String × Value)) (n : ℕ) :
    nestingOfFields fields ≤ n ↔ ∀ v ∈ fields.map Prod.snd, v.nesting ≤ n := by
  induction fields with
  | nil => exact iff_of_true n.zero_le (by simp)
  | cons f fields ih =>
    change max f.2.nesting (nestingOfFields fields) ≤ n ↔ _
    rw [max_le_iff, ih]
    simp

theorem nestingOfItems_le (items : List Value) (n : ℕ) :
    nestingOfItems items ≤ n ↔ ∀ v ∈ items, v.nesting ≤ n := by
  induction items with
  | nil => exact iff_of_true n.zero_le (by simp)
  | cons v items ih =>
    change max v.nesting (nestingOfItems items) ≤ n ↔ _
    rw [max_le_iff, ih]
    simp

end Value

namespace Script

open Materialize

/-- The places below are those of the tables of a fresh scope. -/
def Heap.preludeTables : ℕ := 24

/-- The tables of the prelude and those from one place up to another are the same; the table of
the globals may differ. -/
def Heap.Agrees (low high : ℕ) (h h' : Heap) : Prop :=
  ∀ p, 0 < p ∧ p < Heap.preludeTables ∨ low ≤ p ∧ p < high → h'.table p = h.table p

/-- The value that comes back if its tables do not nest too deep. -/
def limited (levels : ℕ) (v : Value) : Except Unconvertible Value :=
  if v.nesting ≤ levels then .ok v.settled else .error .tooDeep

/-- A value of one table does not nest too deep where a table is looked at. -/
theorem limited_flat {v : Value} (levels : ℕ) (hv : v.nesting = 1) :
    limited (levels + 1) v = .ok v.settled :=
  if_pos (hv.le.trans (Nat.le_add_left 1 levels))

/-- A datum is a value by the tables of the prelude and those from one place up to another. -/
structure Means (h : Heap) (low high : ℕ) (d : Datum) (v : Value) : Prop where
  present : d.isNil = false
  ofDatum : ∀ h', h.Agrees low high h' → ∀ levels, ofDatum h' levels d = limited levels v

variable {h h' : Heap} {low high : ℕ} {d : Datum} {v : Value}

theorem Means.mono (hd : Means h low high d v) {low' high' : ℕ} (hlow : low' ≤ low)
    (hhigh : high ≤ high') (hsame : h.Agrees low high h') : Means h' low' high' d v where
  present := hd.present
  ofDatum h'' hagrees levels := hd.ofDatum h'' (fun p hp => by
    have hthen := hagrees p (hp.imp_right fun hp => ⟨hlow.trans hp.1, hp.2.trans_le hhigh⟩)
    rw [hthen, hsame p hp]) levels

/-! Data without tables. -/

theorem means_int (n : Int64) : Means h low high (.int n) (.int64 n) where
  present := rfl
  ofDatum h' _ levels := by
    have hint : Materialize.ofDatum h' levels (.int n) = .ok (Value.int64 n).settled := by
      cases levels <;> rw [Materialize.ofDatum, Value.settled] <;> rfl
    rw [hint]
    rfl

/-- A number of 32 bits comes back as one. -/
theorem means_int32 (n : Int32) : Means h low high (.int (Int64.ofInt n.toInt)) (.int32 n) where
  present := rfl
  ofDatum h' _ levels := by
    have hlow := n.le_toInt
    have hhigh := n.toInt_lt
    have hwide : (Int64.ofInt n.toInt).toInt = n.toInt :=
      Int64.toInt_ofInt_of_le (by omega) (by omega)
    have hint : Materialize.ofDatum h' levels (.int (Int64.ofInt n.toInt)) =
        .ok (Value.int64 (Int64.ofInt n.toInt)).settled := by
      cases levels <;> rw [Materialize.ofDatum, Value.settled] <;> rfl
    rw [hint, Value.settled, hwide, if_pos ⟨n.minValue_le_toInt, n.toInt_le⟩, Int32.ofInt_toInt]
    rfl

theorem means_double (x : Binary64) :
    Means h low high (.double (if x.isNaN then .invalid else x)) (.double x) where
  present := rfl
  ofDatum h' _ levels := by cases levels <;> rfl

theorem means_text (s : String) : Means h low high (.ofText s) (.string s) where
  present := rfl
  ofDatum h' _ levels := by
    have htext : Materialize.ofDatum h' levels (.ofText s) =
        .ok (.string (Utf8.decode (Utf8.encode s))) := by cases levels <;> rfl
    rw [htext, Utf8.decode_encode]
    rfl

theorem means_boolean (b : Bool) : Means h low high (.boolean b) (.boolean b) where
  present := rfl
  ofDatum h' _ levels := by cases levels <;> rfl

/-! Tables by the names of their metatables. -/

theorem text_ofText (s : String) : text (.ofText s) = .ok s := by
  have htext : text (.ofText s) = if Utf8.encode (Utf8.decode (Utf8.encode s)) = Utf8.encode s
      then .ok (Utf8.decode (Utf8.encode s)) else .error .noText := rfl
  rw [htext, Utf8.decode_encode, if_pos rfl]

theorem fieldName_ofText (name : String) : fieldName (.ofText name) = .ok name := by
  change Except.ok (Utf8.decode (Utf8.encode name)) = _
  rw [Utf8.decode_encode]

theorem text?_ofText (s : String) : text? (.ofText s) = .ok (some s) := by
  have htext : text? (.ofText s) = (text (.ofText s)).map some := rfl
  rw [htext, text_ofText]
  rfl

section Tagged

variable (value : Datum → Except Unconvertible Value) (h : Heap) (t metatable : Table)

theorem tagged_null (hname : metatable.getText "__name" = .ofText "null") :
    tagged value h t metatable = .ok .null := by
  delta tagged
  rw [hname, text?_ofText]
  rfl

theorem tagged_minKey (hname : metatable.getText "__name" = .ofText "MinKey") :
    tagged value h t metatable = .ok .minKey := by
  delta tagged
  rw [hname, text?_ofText]
  rfl

theorem tagged_maxKey (hname : metatable.getText "__name" = .ofText "MaxKey") :
    tagged value h t metatable = .ok .maxKey := by
  delta tagged
  rw [hname, text?_ofText]
  rfl

theorem tagged_date (hname : metatable.getText "__name" = .ofText "Date") :
    tagged value h t metatable =
      (do return .dateTime (Int64.ofInt (← Materialize.integer t "ms"))) := by
  delta tagged
  rw [hname, text?_ofText]
  rfl

theorem tagged_objectId (hname : metatable.getText "__name" = .ofText "ObjectId") :
    tagged value h t metatable = (do Materialize.objectId (← text (t.getText "hex"))) := by
  delta tagged
  rw [hname, text?_ofText]
  rfl

theorem tagged_regExp (hname : metatable.getText "__name" = .ofText "RegExp") :
    tagged value h t metatable = (do
      let pattern ← text (t.getText "pattern")
      let options ← text? (t.getText "options")
      return .regex (Regex.ofText pattern (options.getD ""))) := by
  delta tagged
  rw [hname, text?_ofText]
  rfl

theorem tagged_binData (hname : metatable.getText "__name" = .ofText "BinData") :
    tagged value h t metatable = (do
      let subtype ← Materialize.integer t "subtype"
      if subtype < 0 ∨ 255 < subtype then throw (.subtype subtype)
      match (t.getText "bytes").toText? with
      | some bytes => return .binary (UInt8.ofNat subtype.toNat) bytes
      | none => throw .noText) := by
  delta tagged
  rw [hname, text?_ofText]
  rfl

theorem tagged_reference (hname : metatable.getText "__name" = .ofText "DBRef") :
    tagged value h t metatable = (do
      let collection ← text (t.getText "$ref")
      let database ← text? (t.getText "$db")
      return .reference database collection (← value (t.getText "$id"))) := by
  delta tagged
  rw [hname, text?_ofText]
  rfl

theorem tagged_array (hname : metatable.getText "__name" = .ofText "Array") :
    tagged value h t metatable = Materialize.sequence value t t.border := by
  delta tagged
  rw [hname, text?_ofText]
  rfl

theorem tagged_document (hname : metatable.getText "__name" = .ofText "Document") {keys : ℕ}
    (hkeys : metatable.getText "__keys" = .table keys) :
    tagged value h t metatable = Materialize.document value t (some (h.table keys)) := by
  delta tagged
  rw [hname, text?_ofText, hkeys]
  rfl

end Tagged

/-- A table is told by its metatable. -/
theorem ofDatum_table (h : Heap) (levels place : ℕ) :
    Materialize.ofDatum h (levels + 1) (.table place) =
      match (h.table place).metatable with
      | some metatable =>
        tagged (Materialize.ofDatum h levels) h (h.table place) (h.table metatable)
      | none => untagged (Materialize.ofDatum h levels) (h.table place) := rfl

/-- A table that means a value of one level more than the data inside. -/
theorem means_table {place metatable : ℕ} {t : Table} (ht : h.table place = t)
    (hplace : 0 < place ∧ place < Heap.preludeTables ∨ low ≤ place ∧ place < high)
    (hm : t.metatable = some metatable) (hpos : 0 < v.nesting)
    (hvalue : ∀ h', h.Agrees low high h' → ∀ levels,
      tagged (Materialize.ofDatum h' levels) h' t (h'.table metatable) = limited (levels + 1) v) :
    Means h low high (.table place) v where
  present := rfl
  ofDatum h' hagrees levels := by
    have hsame : h'.table place = t := (hagrees place hplace).trans ht
    cases levels with
    | zero =>
      rw [limited, if_neg (by omega)]
      rfl
    | succ levels =>
      rw [← hvalue h' hagrees levels]
      rw [ofDatum_table, hsame, hm]

/-! Tables of the prelude. -/

/-- The tables of a fresh scope are as they were, but for the globals. -/
def Heap.HasPrelude (h : Heap) : Prop :=
  ∀ p, 0 < p → p < Heap.preludeTables → h.table p = Heap.fresh.table p

theorem Heap.HasPrelude.agrees (hp : h.HasPrelude) (hagrees : h.Agrees low high h') :
    h'.HasPrelude := fun p hpos hlt => (hagrees p (.inl ⟨hpos, hlt⟩)).trans (hp p hpos hlt)

theorem Heap.HasPrelude.field (hp : h.HasPrelude) {f : ℕ × String × Datum}
    (hf : f ∈ Literal.fields) : (h.table f.1).getText f.2.1 = f.2.2 := by
  have hplace : ∀ f ∈ Literal.fields, 0 < f.1 ∧ f.1 < Heap.preludeTables := by decide
  rw [hp f.1 (hplace f hf).1 (hplace f hf).2]
  exact holdsPrelude_fresh.field f hf

theorem Heap.HasPrelude.metatable (hp : h.HasPrelude) {m : ℕ × Option ℕ}
    (hm : m ∈ Literal.metatables) (hpos : 0 < m.1) : (h.table m.1).metatable = m.2 := by
  have hplace : ∀ m ∈ Literal.metatables, m.1 < Heap.preludeTables := by decide
  rw [hp m.1 hpos (hplace m hm)]
  exact holdsPrelude_fresh.metatable m hm

theorem means_null (hp : h.HasPrelude) : Means h low high (.table 6) .null :=
  means_table rfl (.inl (by decide)) (hp.metatable (m := (6, some 7)) (by decide) (by decide))
    (by decide) fun h' hagrees levels => by
      rw [tagged_null _ _ _ _ ((hp.agrees hagrees).field (f := (7, _, .ofText "null")) (by decide)),
        limited_flat levels rfl]
      rfl

theorem means_minKey (hp : h.HasPrelude) : Means h low high (.table 8) .minKey :=
  means_table rfl (.inl (by decide)) (hp.metatable (m := (8, some 9)) (by decide) (by decide))
    (by decide) fun h' hagrees levels => by
      rw [tagged_minKey _ _ _ _
          ((hp.agrees hagrees).field (f := (9, _, .ofText "MinKey")) (by decide)),
        limited_flat levels rfl]
      rfl

theorem means_maxKey (hp : h.HasPrelude) : Means h low high (.table 10) .maxKey :=
  means_table rfl (.inl (by decide)) (hp.metatable (m := (10, some 11)) (by decide) (by decide))
    (by decide) fun h' hagrees levels => by
      rw [tagged_maxKey _ _ _ _
          ((hp.agrees hagrees).field (f := (11, _, .ofText "MaxKey")) (by decide)),
        limited_flat levels rfl]
      rfl

/-! Tables that constructors make. -/

open Table (record sequence)

variable {place room : ℕ}

theorem integer_record {fields : List (String × Datum)} {m : Option ℕ} {x : String} {n : Int64}
    (hx : fields.lookup x = some (.int n)) :
    Materialize.integer (record fields room m) x = .ok n.toInt := by
  rw [Materialize.integer, Table.getText_of_lookup hx]

theorem means_date (hp : h.HasPrelude) (hplace : low ≤ place ∧ place < high) (ms : Int64)
    (ht : h.table place = record [("ms", .int ms)] room (some 12)) :
    Means h low high (.table place) (.dateTime ms) :=
  means_table ht (.inr hplace) rfl (Nat.succ_pos _) fun h' hagrees levels => by
    rw [tagged_date _ _ _ _ ((hp.agrees hagrees).field (f := (12, _, .ofText "Date")) (by decide)),
      integer_record rfl, limited_flat levels rfl]
    change Except.ok (Value.dateTime (Int64.ofInt ms.toInt)) = _
    rw [Int64.ofInt_toInt]
    rfl

/-! Identifiers. -/

theorem utf8ByteSize_ofList (cs : List Char) :
    (String.ofList cs).utf8ByteSize = (cs.flatMap String.utf8EncodeChar).length := by
  simp [String.utf8ByteSize, String.ofList, List.utf8Encode]

/-- A byte of a hexadecimal digit, which has no capital letters. -/
def IsHexByte (b : UInt8) : Prop :=
  (Hex.digitValue? (Char.ofNat b.toNat)).isSome = true ∧ Library.Text.lowerByte b = b

theorem hexDigit_spec (n : ℕ) (hn : n < 16) :
    (String.utf8EncodeChar (Hex.digit n)).length = 1 ∧
      ∀ b ∈ String.utf8EncodeChar (Hex.digit n), IsHexByte b := by
  have hcheck : (String.utf8EncodeChar (Hex.digit n)).length = 1 ∧
      (String.utf8EncodeChar (Hex.digit n)).all (fun b =>
        (Hex.digitValue? (Char.ofNat b.toNat)).isSome && Library.Text.lowerByte b == b) = true := by
    interval_cases n <;> decide
  simpa [IsHexByte] using hcheck

theorem hex_spec (bytes : Bytes) :
    ((Hex.encodeChars bytes).flatMap String.utf8EncodeChar).length = 2 * bytes.length ∧
      ∀ b ∈ (Hex.encodeChars bytes).flatMap String.utf8EncodeChar, IsHexByte b := by
  induction bytes with
  | nil => simp [Hex.encodeChars]
  | cons b bytes ih =>
    have hsize := b.toNat_lt
    obtain ⟨hhigh, hhighs⟩ := hexDigit_spec (b.toNat / 16) (by omega)
    obtain ⟨hlow, hlows⟩ := hexDigit_spec (b.toNat % 16) (by omega)
    rw [Hex.encodeChars, List.flatMap_cons, List.flatMap_cons, List.length_append,
      List.length_append, hhigh, hlow, ih.1, List.length_cons]
    refine ⟨by omega, fun c hc => ?_⟩
    rcases List.mem_append.mp hc with hc | hc
    · exact hhighs c hc
    · exact (List.mem_append.mp hc).elim (hlows c) (ih.2 c)

theorem encode_hex (id : ObjectId) :
    Utf8.encode id.hex = (Hex.encodeChars id.bytes).flatMap String.utf8EncodeChar := by
  rw [Utf8.encode, ObjectId.hex, Hex.encode, String.toList_ofList]
  rfl

/-- Identifiers are in lower case already. -/
theorem lower_hex (id : ObjectId) :
    (Utf8.encode id.hex).map Library.Text.lowerByte = Utf8.encode id.hex := by
  rw [encode_hex]
  exact (List.map_congr_left fun b hb => ((hex_spec id.bytes).2 b hb).2).trans (List.map_id' _)

theorem objectId_hex (id : ObjectId) : Materialize.objectId id.hex = .ok (.objectId id) := by
  obtain ⟨hsize, hdigits⟩ := hex_spec id.bytes
  have hbytes : id.hex.utf8ByteSize = 2 * id.bytes.length := by
    rw [ObjectId.hex, Hex.encode, utf8ByteSize_ofList, hsize]
  have hbad : badDigit? id.hex = none := by
    rw [badDigit?, List.find?_eq_none]
    intro digit hdigit
    have hmem : digit.1 ∈ Utf8.encode id.hex := List.fst_mem_of_mem_zipIdx hdigit
    rw [encode_hex] at hmem
    rw [Bool.not_eq_true, Option.isNone_eq_false_iff]
    exact (hdigits _ hmem).1
  have hread : ObjectId.ofHex? id.hex = some id := by
    rw [ObjectId.ofHex?, ObjectId.hex, Hex.decode?_encode]
    exact dif_pos id.size_eq
  unfold Materialize.objectId
  rw [hbytes, hbad, hread]
  simp

theorem means_objectId (hp : h.HasPrelude) (hplace : low ≤ place ∧ place < high) (id : ObjectId)
    (ht : h.table place = record [("hex", .ofText id.hex)] room (some 14)) :
    Means h low high (.table place) (.objectId id) :=
  means_table ht (.inr hplace) rfl (Nat.succ_pos _) fun h' hagrees levels => by
    rw [tagged_objectId _ _ _ _
        ((hp.agrees hagrees).field (f := (14, _, .ofText "ObjectId")) (by decide)),
      Table.getText_of_lookup rfl, text_ofText, limited_flat levels rfl]
    exact objectId_hex id

theorem means_regex (hp : h.HasPrelude) (hplace : low ≤ place ∧ place < high)
    (pattern options : String)
    (ht : h.table place = record [("pattern", .ofText (Regex.ofText pattern options).pattern),
      ("options", .ofText (Regex.ofText pattern options).options)] room (some 16)) :
    Means h low high (.table place) (.regex (Regex.ofText pattern options)) :=
  means_table ht (.inr hplace) rfl (Nat.succ_pos _) fun h' hagrees levels => by
    rw [tagged_regExp _ _ _ _
        ((hp.agrees hagrees).field (f := (16, _, .ofText "RegExp")) (by decide)),
      Table.getText_of_lookup (x := "pattern") rfl, Table.getText_of_lookup (x := "options") rfl,
      text_ofText, text?_ofText, limited_flat levels rfl]
    change Except.ok (Value.regex (Regex.ofText (Regex.ofText pattern options).pattern
      (Regex.ofText pattern options).options)) = _
    rw [Regex.ofText_options]
    rfl

theorem means_binary (hp : h.HasPrelude) (hplace : low ≤ place ∧ place < high)
    (subtype : UInt8) (bytes : Bytes)
    (ht : h.table place = record [("subtype", .int (Int64.ofInt subtype.toNat)),
      ("bytes", .text bytes)] room (some 17)) :
    Means h low high (.table place) (.binary subtype bytes) :=
  means_table ht (.inr hplace) rfl (Nat.succ_pos _) fun h' hagrees levels => by
    have hsubtype := subtype.toNat_lt
    have hint : (Int64.ofInt subtype.toNat).toInt = subtype.toNat :=
      Int64.toInt_ofInt_of_le (by omega) (by omega)
    rw [tagged_binData _ _ _ _
        ((hp.agrees hagrees).field (f := (17, _, .ofText "BinData")) (by decide)),
      integer_record rfl, Table.getText_of_lookup (x := "bytes") rfl, hint, limited_flat levels rfl]
    simp only [bind, Except.bind]
    rw [if_neg (by omega)]
    change Except.ok (Value.binary (UInt8.ofNat (subtype.toNat : ℤ).toNat) bytes) = _
    rw [Int.toNat_natCast, UInt8.ofNat_toNat]
    rfl

/-! References, arrays and documents. -/

theorem means_reference (hp : h.HasPrelude) (hplace : low ≤ place ∧ place < high)
    (database : Option String) (collection : String) {id : Value}
    (hd : Means h low high d id)
    (ht : h.table place = record ([("$ref", .ofText collection), ("$id", d)] ++
      (database.map fun name => ("$db", Datum.ofText name)).toList) room (some 18)) :
    Means h low high (.table place) (.reference database collection id) :=
  means_table ht (.inr hplace) rfl (Nat.succ_pos _) fun h' hagrees levels => by
    have hid := hd.ofDatum h' hagrees levels
    have hdatabase : text? ((record ([("$ref", .ofText collection), ("$id", d)] ++
        (database.map fun name => ("$db", Datum.ofText name)).toList) room
          (some 18)).getText "$db") = .ok database := by
      cases database with
      | none => rw [Table.getText_record]; rfl
      | some name => rw [Table.getText_of_lookup rfl, text?_ofText]
    rw [tagged_reference _ _ _ _
        ((hp.agrees hagrees).field (f := (18, _, .ofText "DBRef")) (by decide)),
      Table.getText_of_lookup (x := "$ref") rfl, Table.getText_of_lookup (x := "$id") rfl,
      text_ofText, hdatabase, hid]
    simp only [limited, Value.nesting, Nat.add_le_add_iff_right]
    split_ifs <;> rfl

/-- Data that mean values become all of them or none. -/
theorem mapM_limited (value : Datum → Except Unconvertible Value) (levels : ℕ) {ds : List Datum}
    {vs : List Value} (h : List.Forall₂ (fun d v => value d = limited levels v) ds vs) :
    ds.mapM value =
      if ∀ v ∈ vs, v.nesting ≤ levels then .ok (vs.map Value.settled) else .error .tooDeep := by
  induction h with
  | nil => rfl
  | @cons d v ds vs hd hds ih =>
    rw [List.mapM_cons, hd, ih, limited]
    by_cases hv : v.nesting ≤ levels
    · by_cases hvs : ∀ v ∈ vs, v.nesting ≤ levels
      · have hall : ∀ v' ∈ v :: vs, v'.nesting ≤ levels := by simpa using ⟨hv, hvs⟩
        rw [if_pos hv, if_pos hvs, if_pos hall]
        rfl
      · have hnot : ¬∀ v' ∈ v :: vs, v'.nesting ≤ levels := fun hall =>
          hvs (List.forall_mem_cons.mp hall).2
        rw [if_pos hv, if_neg hvs, if_neg hnot]
        rfl
    · have hnot : ¬∀ v' ∈ v :: vs, v'.nesting ≤ levels := fun hall =>
        hv (List.forall_mem_cons.mp hall).1
      rw [if_neg hv, if_neg hnot]
      rfl

theorem present_of_means {ds : List Datum} {vs : List Value}
    (h' : List.Forall₂ (Means h low high) ds vs) : ∀ d ∈ ds, d.isNil = false := by
  induction h' with
  | nil => simp
  | cons hd _ ih => exact List.forall_mem_cons.mpr ⟨hd.present, ih⟩

/-- The slots of a sequence in order. -/
theorem slots_sequence (ds : List Datum) (m : Option ℕ) (hsize : ds.length < 2 ^ 63) :
    (List.range ds.length).map (fun (i : ℕ) => (sequence ds 0 m).getInt (i + 1)) = ds := by
  refine List.ext_getElem (by simp) fun i hi hi' => ?_
  rw [List.getElem_map, List.getElem_range, Table.getInt_sequence hsize i hi']

theorem means_array (hp : h.HasPrelude) (hplace : low ≤ place ∧ place < high) {ds : List Datum}
    {items : List Value} (hds : List.Forall₂ (Means h low high) ds items)
    (hsize : items.length < 2 ^ 63) (ht : h.table place = sequence ds 0 (some 19)) :
    Means h low high (.table place) (.array items) :=
  means_table ht (.inr hplace) rfl (Nat.succ_pos _) fun h' hagrees levels => by
    have hlength := hds.length_eq
    have hvalues := mapM_limited (Materialize.ofDatum h' levels) levels
      (hds.imp fun d v hd => hd.ofDatum h' hagrees levels)
    have hslots := slots_sequence ds (some 19) (hlength ▸ hsize)
    rw [tagged_array _ _ _ _
        ((hp.agrees hagrees).field (f := (19, _, .ofText "Array")) (by decide)),
      Table.border_sequence (hlength ▸ hsize) (present_of_means hds)]
    have hmap : (List.range ds.length).mapM (fun (i : ℕ) =>
        Materialize.ofDatum h' levels ((sequence ds 0 (some 19)).getInt (i + 1))) =
        ds.mapM (Materialize.ofDatum h' levels) := by
      conv_rhs => rw [← hslots, List.mapM_map]
      rfl
    rw [Materialize.sequence, hmap, hvalues]
    simp only [limited, Value.nesting, Nat.add_le_add_iff_right, Value.nestingOfItems_le,
      Value.settled, Value.settledItems_eq]
    split_ifs <;> rfl

/-- The document after the field that a key names. -/
def addField (value : Datum → Except Unconvertible Value) (t : Table) (doc : Document)
    (d : Datum) : Except Unconvertible Document := do
  let name ← text d
  let field := t.getText name
  if field.isNil then return doc else return doc.insert name (← value field)

theorem addField_new (value : Datum → Except Unconvertible Value) (levels : ℕ) (t : Table)
    (doc : Document) (k : String) (v : Value) (hpresent : (t.getText k).isNil = false)
    (hvalue : value (t.getText k) = limited levels v) (hk : k ∉ doc.map Prod.fst) :
    addField value t doc (.ofText k) =
      if v.nesting ≤ levels then .ok (doc ++ [(k, v.settled)]) else .error .tooDeep := by
  rw [addField, text_ofText]
  simp only [bind, Except.bind, hpresent, hvalue, limited, Bool.false_eq_true, if_false]
  split_ifs
  · rw [← Document.insert_new doc k v.settled hk]
    rfl
  · rfl

/-- Fields that are looked up in order, after others. -/
theorem fields_foldlM (value : Datum → Except Unconvertible Value) (levels : ℕ) (t : Table)
    (fields : List (String × Value))
    (hfields : ∀ f ∈ fields, (t.getText f.1).isNil = false ∧
      value (t.getText f.1) = limited levels f.2)
    (doc : Document) (hkeys : (doc.map Prod.fst ++ fields.map Prod.fst).Nodup) :
    (fields.map fun f => Datum.ofText f.1).foldlM (addField value t) doc =
      if ∀ v ∈ fields.map Prod.snd, v.nesting ≤ levels then
        .ok (doc ++ fields.map fun f => (f.1, f.2.settled))
      else .error .tooDeep := by
  induction fields generalizing doc with
  | nil => simp; rfl
  | cons f fields ih =>
    obtain ⟨⟨hpresent, hvalue⟩, hrest⟩ := List.forall_mem_cons.mp hfields
    have hnew : f.1 ∉ doc.map Prod.fst := fun hmem =>
      List.disjoint_of_nodup_append hkeys hmem (by simp)
    have hmore := ih hrest (doc ++ [(f.1, f.2.settled)]) (by simpa using hkeys)
    rw [List.map_cons, List.foldlM_cons,
      addField_new value levels t doc f.1 f.2 hpresent hvalue hnew]
    by_cases hv : f.2.nesting ≤ levels
    · rw [if_pos hv]
      change (fields.map fun f => Datum.ofText f.1).foldlM (addField value t)
        (doc ++ [(f.1, f.2.settled)]) = _
      rw [hmore]
      simp only [List.map_cons, List.forall_mem_cons, hv, true_and, List.append_assoc,
        List.singleton_append]
    · have hnot : ¬∀ v ∈ (f :: fields).map Prod.snd, v.nesting ≤ levels := fun hall =>
        hv (hall f.2 (by simp))
      rw [if_neg hv, if_neg hnot]
      rfl

theorem names_mapM (fields : List (String × Datum)) :
    (fields.map fun f => (Datum.ofText f.1, f.2)).mapM (fun (entry : Datum × Datum) => do
      return (← fieldName entry.1, entry.2)) = .ok fields := by
  induction fields with
  | nil => rfl
  | cons f fields ih =>
    rw [List.map_cons, List.mapM_cons, ih, fieldName_ofText]
    rfl

/-- The document after the fields that have no place in it yet. -/
def addRest (value : Datum → Except Unconvertible Value) (ordered : Document)
    (named : List (String × Datum)) : Except Unconvertible Document :=
  ((named.filter fun field => !ordered.contains field.1).mergeSort
    fun a b => decide (a.1 ≤ b.1)).foldlM (fun (doc : Document) field => do
      return doc.insert field.1 (← value field.2)) ordered

theorem addRest_none (value : Datum → Except Unconvertible Value) (ordered : Document)
    (named : List (String × Datum)) (h : ∀ e ∈ named, e.1 ∈ ordered.map Prod.fst) :
    addRest value ordered named = .ok ordered := by
  have hnone : (named.filter fun field => !ordered.contains field.1) = [] := by
    rw [List.filter_eq_nil_iff]
    intro e he
    simp [(Document.contains_iff ordered e.1).mpr (h e he)]
  rw [addRest, hnone, List.mergeSort_nil]
  rfl

theorem lookup_of_mem {fields : List (String × Datum)} (hkeys : (fields.map Prod.fst).Nodup)
    {f : String × Datum} (hf : f ∈ fields) : fields.lookup f.1 = some f.2 := by
  induction fields with
  | nil => simp at hf
  | cons g fields ih =>
    rw [List.map_cons, List.nodup_cons] at hkeys
    rcases List.mem_cons.mp hf with rfl | hf
    · rw [List.lookup_cons, beq_self_eq_true]
    · have hne : f.1 ≠ g.1 := fun heq => hkeys.1 (heq ▸ List.mem_map_of_mem hf)
      rw [List.lookup_cons, beq_eq_false_iff_ne.mpr hne]
      exact ih hkeys.2 hf

theorem exists_of_forall₂ {α β : Type} {R : α → β → Prop} {as : List α} {bs : List β}
    (hR : List.Forall₂ R as bs) : ∀ b ∈ bs, ∃ a ∈ as, R a b := by
  induction hR with
  | nil => simp
  | cons hab _ ih =>
    intro b hb
    rcases List.mem_cons.mp hb with rfl | hb
    · exact ⟨_, List.mem_cons_self, hab⟩
    · obtain ⟨a, ha, hab⟩ := ih b hb
      exact ⟨a, List.mem_cons_of_mem _ ha, hab⟩

/-- The entry of a table that a field of a document becomes. -/
structure EntryOf (R : Datum → Value → Prop) (e : String × Datum) (f : String × Value) : Prop where
  key : e.1 = f.1
  present : e.2.isNil = false
  value : R e.2 f.2

theorem keys_of_entries {R : Datum → Value → Prop} {entries : List (String × Datum)}
    {fields : List (String × Value)} (hentries : List.Forall₂ (EntryOf R) entries fields) :
    entries.map Prod.fst = fields.map Prod.fst := by
  induction hentries with
  | nil => rfl
  | cons hentry _ ih => rw [List.map_cons, List.map_cons, hentry.key, ih]

/-- A table of fields with the sequence of its keys. -/
theorem document_record (value : Datum → Except Unconvertible Value) (levels : ℕ)
    {entries : List (String × Datum)} {fields : List (String × Value)}
    (hentries : List.Forall₂ (EntryOf fun d v => value d = limited levels v) entries fields)
    (hkeys : (fields.map Prod.fst).Nodup) (hsize : fields.length < 2 ^ 63) (m k : Option ℕ) :
    Materialize.document value (record entries room m)
      (some (sequence (fields.map fun f => Datum.ofText f.1) 0 k)) =
      limited (levels + 1) (.document fields) := by
  have hnames := keys_of_entries hentries
  have hpresent : ∀ e ∈ entries, e.2.isNil = false := fun e he => by
    obtain ⟨f, -, hf⟩ := exists_of_forall₂ hentries.flip e he
    exact hf.present
  have hget : ∀ f ∈ fields, ((record entries room m).getText f.1).isNil = false ∧
      value ((record entries room m).getText f.1) = limited levels f.2 := by
    intro f hf
    obtain ⟨e, he, hentry⟩ := exists_of_forall₂ hentries f hf
    have hlookup := lookup_of_mem (hnames ▸ hkeys) he
    rw [hentry.key] at hlookup
    rw [Table.getText_of_lookup hlookup]
    exact ⟨hentry.present, hentry.value⟩
  have hfold := fields_foldlM value levels (record entries room m) fields hget []
    (by simpa using hkeys)
  have hborder : (sequence (fields.map fun f => Datum.ofText f.1) 0 k).border = fields.length := by
    rw [Table.border_sequence (by simpa using hsize), List.length_map]
    intro d hd
    obtain ⟨f, -, rfl⟩ := List.mem_map.mp hd
    rfl
  have hslots := slots_sequence (fields.map fun f => Datum.ofText f.1) k
    (by simpa using hsize)
  rw [List.length_map] at hslots
  have hdocument : Materialize.document value (record entries room m)
      (some (sequence (fields.map fun f => Datum.ofText f.1) 0 k)) = (do
      let ordered ← ((List.range (sequence (fields.map fun f => Datum.ofText f.1) 0 k).border).map
        fun (i : ℕ) => (sequence (fields.map fun f => Datum.ofText f.1) 0 k).getInt (i + 1)).foldlM
          (addField value (record entries room m)) []
      let named ← (record entries room m).entries.mapM fun entry => do
        return (← fieldName entry.1, entry.2)
      return .document (← addRest value ordered named)) := rfl
  rw [hdocument, hborder, hslots, hfold, Table.entries_record hpresent, names_mapM]
  simp only [limited, Value.nesting, Nat.add_le_add_iff_right, Value.nestingOfFields_le,
    Value.settled, Value.settledFields_eq, List.nil_append]
  split_ifs
  · have hrest := addRest_none value (fields.map fun f => (f.1, f.2.settled)) entries fun e he => by
      have hkey : e.1 ∈ fields.map Prod.fst := hnames ▸ List.mem_map_of_mem he
      simpa using hkey
    change (do return Value.document (← addRest value _ entries)) = _
    rw [hrest]
    rfl
  · rfl

theorem means_document (hplace : low ≤ place ∧ place < high)
    {entries : List (String × Datum)} {fields : List (String × Value)} {m k : ℕ}
    (hentries : List.Forall₂ (EntryOf (Means h low high)) entries fields)
    (hkeys : (fields.map Prod.fst).Nodup) (hsize : fields.length < 2 ^ 63)
    (ht : h.table place = record entries room (some m))
    (hm : low ≤ m ∧ m < high) {more : ℕ}
    (hmeta : h.table m = record [("__name", .ofText "Document"), ("__keys", .table k)] more none)
    (hk : low ≤ k ∧ k < high)
    (hnames : h.table k = sequence (fields.map fun f => Datum.ofText f.1) 0 none) :
    Means h low high (.table place) (.document fields) :=
  means_table ht (.inr hplace) rfl (Nat.succ_pos _) fun h' hagrees levels => by
    have hmeta' := (hagrees m (.inr hm)).trans hmeta
    have hnames' := (hagrees k (.inr hk)).trans hnames
    rw [tagged_document _ _ _ _ (by rw [hmeta', Table.getText_of_lookup rfl])
      (by rw [hmeta', Table.getText_of_lookup rfl]), hnames']
    exact document_record _ levels (hentries.imp fun e f hentry =>
      ⟨hentry.key, hentry.present, hentry.value.ofDatum h' hagrees levels⟩) hkeys hsize _ _

end Script

end Docbase
