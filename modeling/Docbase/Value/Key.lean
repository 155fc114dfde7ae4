import Docbase.Value.Order

/-!
The key under which a value is looked up. Numbers that the order calls equal have one key
whatever their width, and an object id at the top has the key of its hex text.
-/
namespace Docbase

inductive Key where
  | minKey
  | null
  | integer (i : Int)
  | double (x : Binary64)
  | string (s : String)
  | objectId (id : ObjectId)
  | boolean (b : Bool)
  | dateTime (ms : Int64)
  | binary (subtype : UInt8) (bytes : Bytes)
  | regex (r : Regex)
  | document (fields : List (String × Key))
  | reference (database : Option String) (collection : String) (id : Key)
  | array (items : List Key)
  | maxKey

namespace Key

mutual

def beq (a b : Key) : Bool :=
  match a, b with
  | .minKey, .minKey | .null, .null | .maxKey, .maxKey => true
  | .integer i, .integer j => i == j
  | .double x, .double y => x == y
  | .string s, .string t => s == t
  | .objectId i, .objectId j => i == j
  | .boolean x, .boolean y => x == y
  | .dateTime x, .dateTime y => x == y
  | .binary s x, .binary t y => s == t && x == y
  | .regex r, .regex s => r == s
  | .document xs, .document ys => beqFields xs ys
  | .reference d c x, .reference d' c' y => d == d' && c == c' && beq x y
  | .array xs, .array ys => beqItems xs ys
  | _, _ => false
termination_by structural a

def beqFields (xs ys : List (String × Key)) : Bool :=
  match xs, ys with
  | [], [] => true
  | (k, x) :: xs, (l, y) :: ys => k == l && beq x y && beqFields xs ys
  | _, _ => false
termination_by structural xs

def beqItems (xs ys : List Key) : Bool :=
  match xs, ys with
  | [], [] => true
  | x :: xs, y :: ys => beq x y && beqItems xs ys
  | _, _ => false
termination_by structural xs

end

mutual

private theorem eq_of_beq (a b : Key) (h : beq a b = true) : a = b := by
  cases a <;> cases b <;> simp_all [beq]
  case document xs ys => exact eq_of_beqFields xs ys h
  case reference d c x d' c' y => exact eq_of_beq x y h.2
  case array xs ys => exact eq_of_beqItems xs ys h

private theorem eq_of_beqFields (xs ys : List (String × Key)) (h : beqFields xs ys = true) :
    xs = ys := by
  match xs, ys with
  | [], [] => rfl
  | [], _ :: _ | _ :: _, [] => simp [beqFields] at h
  | (k, x) :: xs, (l, y) :: ys =>
    simp only [beqFields, Bool.and_eq_true, beq_iff_eq] at h
    rw [h.1.1, eq_of_beq x y h.1.2, eq_of_beqFields xs ys h.2]

private theorem eq_of_beqItems (xs ys : List Key) (h : beqItems xs ys = true) : xs = ys := by
  match xs, ys with
  | [], [] => rfl
  | [], _ :: _ | _ :: _, [] => simp [beqItems] at h
  | x :: xs, y :: ys =>
    simp only [beqItems, Bool.and_eq_true] at h
    rw [eq_of_beq x y h.1, eq_of_beqItems xs ys h.2]

end

mutual

private theorem beq_self (a : Key) : beq a a = true := by
  cases a <;> simp [beq]
  case document xs => exact beqFields_self xs
  case reference d c x => exact beq_self x
  case array xs => exact beqItems_self xs

private theorem beqFields_self (xs : List (String × Key)) : beqFields xs xs = true := by
  match xs with
  | [] => rfl
  | (k, x) :: xs => simp [beqFields, beq_self x, beqFields_self xs]

private theorem beqItems_self (xs : List Key) : beqItems xs xs = true := by
  match xs with
  | [] => rfl
  | x :: xs => simp [beqItems, beq_self x, beqItems_self xs]

end

instance : DecidableEq Key := fun a b =>
  if h : beq a b = true then .isTrue (eq_of_beq a b h)
  else .isFalse fun e => h (e ▸ beq_self a)

mutual

def hashOf : Key → UInt64
  | .minKey => 1
  | .null => 2
  | .integer i => mixHash 3 (hash i)
  | .double x => mixHash 4 x.bits
  | .string s => mixHash 5 (hash s)
  | .objectId id => mixHash 6 (hash id.bytes)
  | .boolean b => mixHash 7 (hash b)
  | .dateTime ms => mixHash 8 (hash ms.toInt)
  | .binary s bytes => mixHash 9 (mixHash (hash s) (hash bytes))
  | .regex r => mixHash 10 (mixHash (hash r.pattern) (hash r.options))
  | .document xs => mixHash 11 (hashFields xs)
  | .reference d c x => mixHash 12 (mixHash (hash d) (mixHash (hash c) (hashOf x)))
  | .array xs => mixHash 13 (hashItems xs)
  | .maxKey => 14

def hashFields : List (String × Key) → UInt64
  | [] => 0
  | (k, x) :: xs => mixHash (hash k) (mixHash (hashOf x) (hashFields xs))

def hashItems : List Key → UInt64
  | [] => 0
  | x :: xs => mixHash (hashOf x) (hashItems xs)

end

instance : Hashable Key := ⟨hashOf⟩

/-- A double that spells an integer below `10 ^ 19` has the key of that integer. -/
def ofDouble (x : Binary64) : Key :=
  if x.isNaN then .double .nan
  else if x.isWhole then
    if x.magnitude < (Binary64.ofInt Binary64.exactLimit).magnitude then .integer x.truncate
    else if x.isSpelled then
      match x.shortestInt? with
      | some n => .integer n
      | none => .double x
    else .double x
  else .double x

mutual

/-- The key of a value inside another one. -/
def inner : Value → Key
  | .minKey => .minKey
  | .null => .null
  | .int32 n => .integer n.toInt
  | .int64 n => .integer n.toInt
  | .double x => ofDouble x
  | .string s => .string s
  | .boolean b => .boolean b
  | .dateTime ms => .dateTime ms
  | .binary s bytes => .binary s bytes
  | .objectId id => .objectId id
  | .regex r => .regex r
  | .document fields => .document (innerFields fields)
  | .array items => .array (innerItems items)
  | .reference d c id => .reference d c (inner id)
  | .maxKey => .maxKey

def innerFields : List (String × Value) → List (String × Key)
  | [] => []
  | (k, v) :: rest => (k, inner v) :: innerFields rest

def innerItems : List Value → List Key
  | [] => []
  | v :: rest => inner v :: innerItems rest

end

def ofValue : Value → Key
  | .objectId id => .string id.hex
  | v => inner v

end Key

end Docbase
