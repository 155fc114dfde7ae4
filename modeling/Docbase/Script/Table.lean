import Docbase.Script.Datum

/-!
Tables. The slots 1 to `items.size` are kept in an array, all other keys in a list in the
order in which they came; a slot or an entry that holds nil counts as absent. When a new key
finds no room in the list, the table is laid out again: the array grows to the largest power
of two of which more than half the slots are in use, and nil entries go away. The layout can
be seen only through the border of a table with holes and the order of its keys.

A table remembers at which slot its border was, so that the next search starts there. This is
the last slot at first. It moves only in tables whose number of slots is a power of two, and
only within their upper half: to borders that are found, and to slots behind it that are used.
-/
namespace Docbase.Script

structure Table where
  items : Array Datum
  fields : List (Datum × Datum)
  /-- How many more keys the list takes before the table is laid out again. -/
  room : Nat
  /-- The slot at which the search for a border starts. -/
  edge : Nat
  metatable : Option Nat
  deriving Inhabited, Repr

namespace Table

def empty : Table := ⟨#[], [], 0, 0, none⟩

/-- The least power of two that is not below a number; 0 for 0. -/
def capacity (n : Nat) : Nat :=
  if n = 0 then 0 else if pow2 n.log2 = n then n else pow2 (n.log2 + 1)

/-- A table laid out for a number of keys beside its slots. -/
def ofItems (items : List Datum) (keys : Nat) : Table :=
  ⟨items.toArray, [], capacity keys, items.length, none⟩

def lookUp (key : Datum) : List (Datum × Datum) → Datum
  | [] => .nil
  | (k, v) :: rest => if k = key then v else lookUp key rest

/-- The slot of the array that a key names. -/
def slot? (t : Table) (key : Datum) : Option Nat :=
  match key with
  | .int n =>
    let i := n.toInt
    if 1 ≤ i ∧ i ≤ t.items.size then some (i.toNat - 1) else none
  | _ => none

/-- The value of a normalized key. -/
def getKey (t : Table) (key : Datum) : Datum :=
  match t.slot? key with
  | some i => t.items.getD i .nil
  | none => lookUp key t.fields

def get (t : Table) (key : Datum) : Datum := t.getKey key.normalizeKey

def getInt (t : Table) (n : Int) : Datum := t.getKey (.int (Int64.ofInt n))

def getText (t : Table) (key : String) : Datum := t.getKey (.ofText key)

/-- The table after the slot of a key is used. -/
def touch (t : Table) (key : Datum) : Table :=
  match t.slot? key with
  | some i => if t.edge ≤ i then { t with edge := i + 1 } else t
  | none => t

def hasField (key : Datum) (fields : List (Datum × Datum)) : Bool :=
  fields.any fun entry => entry.1 == key

def replaceField (key value : Datum) : List (Datum × Datum) → List (Datum × Datum)
  | [] => []
  | (k, v) :: rest => if k = key then (k, value) :: rest else (k, v) :: replaceField key value rest

/-- Slots and entries that are not nil, slots first. -/
def entries (t : Table) : List (Datum × Datum) :=
  let slots := (t.items.toList.zipIdx 1).map fun slot => (Datum.int (Int64.ofNat slot.2), slot.1)
  (slots ++ t.fields).filter fun entry => !entry.2.isNil

/-- The positive integer that a key is. -/
def position? : Datum → Option Nat
  | .int n => if 0 < n.toInt then some n.toInt.toNat else none
  | _ => none

/-- Tries the powers of two from `size` on: the largest of which more than half is in use. -/
def arraySizeFrom (positions : List Nat) : Nat → Nat → Nat → Nat
  | 0, _, best => best
  | fuel + 1, size, best =>
    if size / 2 < positions.length then
      let used := positions.countP fun p => p ≤ size
      arraySizeFrom positions fuel (2 * size) (if size / 2 < used then size else best)
    else best

def arraySize (positions : List Nat) : Nat := arraySizeFrom positions 64 1 0

/-- Puts a value that is not nil under a key whose room is made; the key is absent. -/
def place (t : Table) (key value : Datum) : Table :=
  match t.slot? key with
  | some i => { t with items := t.items.setIfInBounds i value }
  | none => { t with fields := t.fields ++ [(key, value)], room := t.room - 1 }

/-- Lays the table out again with room for one more key. -/
def layOut (t : Table) (key : Datum) : Table :=
  let old := t.entries
  let positions := (key :: old.map Prod.fst).filterMap position?
  let size := arraySize positions
  let inArray := positions.countP fun p => p ≤ size
  let start : Table :=
    ⟨Array.replicate size .nil, [], capacity (old.length + 1 - inArray), size, t.metatable⟩
  old.foldl (fun t entry => t.place entry.1 entry.2) start

/-- Stores under a normalized key; nil takes the key out. -/
def setKey (t : Table) (key value : Datum) : Table :=
  match t.slot? key with
  | some i => { t with items := t.items.setIfInBounds i value, edge := max t.edge (i + 1) }
  | none =>
    if hasField key t.fields then { t with fields := replaceField key value t.fields }
    else if value.isNil then t
    else if 0 < t.room then t.place key value
    else (t.layOut key).place key value

/-- At least a number of slots; entries that they name move into them. -/
def withSlots (t : Table) (n : Nat) : Table :=
  if n ≤ t.items.size then t
  else
    let slots := t.items ++ Array.replicate (n - t.items.size) .nil
    let start : Table := ⟨slots, [], t.fields.length + t.room, n, t.metatable⟩
    (t.fields.filter fun entry => !entry.2.isNil).foldl
      (fun t entry => t.place entry.1 entry.2) start

/-- Values for the slots after the first `n`. -/
def fillFrom (t : Table) (n : Nat) (values : List Datum) : Table :=
  let t := t.withSlots (n + values.length)
  { t with items := (values.zipIdx n).foldl (fun a slot => a.setIfInBounds slot.2 slot.1) t.items }

def set (t : Table) (key value : Datum) : Table := t.setKey key.normalizeKey value

def setInt (t : Table) (n : Int) (value : Datum) : Table := t.setKey (.int (Int64.ofInt n)) value

def setText (t : Table) (key : String) (value : Datum) : Table := t.setKey (.ofText key) value

/-! Borders. -/

/-- Halves a range whose low end is present and whose high end is absent. -/
def searchBorder (present : Nat → Bool) : Nat → Nat → Nat → Nat
  | 0, low, _ => low
  | fuel + 1, low, high =>
    if high - low ≤ 1 then low
    else
      let middle := (low + high) / 2
      if present middle then searchBorder present fuel middle high
      else searchBorder present fuel low middle

/-- The greatest position that a key can name. -/
def lastPosition : Nat := pow2 63 - 1

/-- Doubles a position until it is absent, as far as keys reach. -/
def searchAbsent (present : Nat → Bool) : Nat → Nat → Nat
  | 0, low => low
  | fuel + 1, low =>
    if low ≤ lastPosition / 2 then
      let high := 2 * low
      if present high then searchAbsent present fuel high else searchBorder present 64 low high
    else if present lastPosition then lastPosition
    else searchBorder present 64 low lastPosition

/-- A number of slots such that the last of them is present, if there is any, and the one
after it is absent; and the slot at which the next search starts. -/
def findBorder (t : Table) : Nat × Nat :=
  let n := t.items.size
  let edge := t.edge
  let present (i : Nat) : Bool := i == 0 || !(t.getInt i).isNil
  let moves := pow2 n.log2 = n
  if 0 < edge ∧ !present edge then
    let border := if present (edge - 1) then edge - 1 else searchBorder present 64 0 edge
    (border, if moves ∧ n < 2 * border then border else edge)
  else if edge < n ∧ !present (edge + 1) then (edge, edge)
  else if edge < n ∧ !present n then
    let border := searchBorder present 64 edge n
    (border, border)
  else if present (n + 1) then (searchAbsent present 64 (max n 1), edge)
  else (n, edge)

def border (t : Table) : Nat := t.findBorder.1

/-- Borders by their meaning: the position is present and the next one, if there is one, absent. -/
def IsBorder (t : Table) (n : Nat) : Prop :=
  (n = 0 ∨ (t.getInt n).isNil = false) ∧
    (n < lastPosition ∧ (t.getInt (n + 1)).isNil = true ∨ n = lastPosition)

/-! Going through a table. -/

def firstEntry : List (Datum × Datum) → Option (Datum × Datum)
  | [] => none
  | (k, v) :: rest => if v.isNil then firstEntry rest else some (k, v)

def entryAfter (key : Datum) : List (Datum × Datum) → Option (Option (Datum × Datum))
  | [] => none
  | (k, _) :: rest => if k = key then some (firstEntry rest) else entryAfter key rest

/-- The first entry from an array position on, array and list together. -/
def firstFrom (t : Table) : Nat → Nat → Option (Datum × Datum)
  | 0, _ => firstEntry t.fields
  | fuel + 1, i =>
    match t.items[i]? with
    | some v => if v.isNil then firstFrom t fuel (i + 1) else some (.int (Int64.ofNat (i + 1)), v)
    | none => firstEntry t.fields

/-- The entry after a key, or the first one after nil; the outer `none` tells that the table
knows no such key. -/
def next (t : Table) (key : Datum) : Option (Option (Datum × Datum)) :=
  if key.isNil then some (t.firstFrom (t.items.size + 1) 0)
  else
    let key := key.normalizeKey
    match t.slot? key with
    | some i => some (t.firstFrom (t.items.size + 1) (i + 1))
    | none => entryAfter key t.fields

end Table

end Docbase.Script
