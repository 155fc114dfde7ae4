import Docbase.Binary64.Scientific
import Docbase.Value.Basic

/-!
One order on all values. Values of different classes are ordered by class; numbers by what
they spell, an integral double of 2 ^ 53 and more by its shortest decimal; arrays element by
element, a missing element counting as null, and documents entry by entry. Two values are
equal when the order says so, except that an object id is also equal to its own hex text.
-/
namespace Docbase

namespace Binary64

/-- Doubles from here up may spell an integer that differs from their exact value. -/
def exactLimit : Nat := pow2 53

/-- Doubles from here up are above every 64-bit integer, exact or spelled. -/
def wideLimit : Nat := pow10 19

/-- Doubles of magnitude at least `2 ^ 53` and below `10 ^ 19`, infinities excluded. -/
def isSpelled (x : Binary64) : Bool :=
  decide ((ofInt exactLimit).magnitude ≤ x.magnitude) &&
    decide (x.magnitude < (ofInt wideLimit).magnitude)

/-- Compares an integer with a double. An integer or a double below `2 ^ 53` is compared with
the integer as a double; beyond, the double counts as the integer it spells. -/
def compareSpelled (i : Int) (x : Binary64) : Ordering :=
  if x.isNaN then .gt
  else if i.natAbs ≤ exactLimit || !x.isSpelled then compare (ofInt i).rank x.rank
  else
    match x.shortestInt? with
    | some n => compare i n
    | none => compare (ofInt i).rank x.rank

end Binary64

/-- A number as the order sees it. -/
inductive Numeric where
  | int (i : Int)
  | double (x : Binary64)

namespace Numeric

def compare : Numeric → Numeric → Ordering
  | .int a, .int b => Ord.compare a b
  | .double a, .double b => a.totalCompare b
  | .int a, .double b => b.compareSpelled a
  | .double a, .int b => (a.compareSpelled b).swap

end Numeric

namespace Value

def numeric? : Value → Option Numeric
  | .int32 n => some (.int n.toInt)
  | .int64 n => some (.int n.toInt)
  | .double x => some (.double x)
  | _ => none

def compareClass (a b : Value) : Ordering := compare a.typeClass.rank b.typeClass.rank

/-- The order of byte strings by their first difference. -/
def compareBytes : Bytes → Bytes → Ordering
  | [], [] => .eq
  | [], _ :: _ => .lt
  | _ :: _, [] => .gt
  | a :: as, b :: bs => (compare a.toNat b.toNat).then (compareBytes as bs)

def compareOption : Option String → Option String → Ordering
  | none, none => .eq
  | none, some _ => .lt
  | some _, none => .gt
  | some a, some b => compare a b

mutual

def compare (a b : Value) : Ordering :=
  match a, b with
  | .string x, .string y => Ord.compare x y
  | .boolean x, .boolean y => Ord.compare x.toNat y.toNat
  | .dateTime x, .dateTime y => Ord.compare x.toInt y.toInt
  | .objectId x, .objectId y => compareBytes x.bytes y.bytes
  | .binary s x, .binary t y => (compareBytes x y).then (Ord.compare s.toNat t.toNat)
  | .regex x, .regex y =>
    (Ord.compare x.pattern y.pattern).then (Ord.compare x.options y.options)
  | .document xs, .document ys => compareFields xs ys
  | .array xs, .array ys => compareItems xs ys
  | .reference d c x, .reference d' c' y =>
    ((compareOption d d').then (Ord.compare c c')).then (compare x y)
  | a, b =>
    match a.numeric?, b.numeric? with
    | some x, some y => x.compare y
    | _, _ => compareClass a b
termination_by structural a

/-- Entry by entry, keys before values; a document that runs out first is lower. -/
def compareFields (xs ys : List (String × Value)) : Ordering :=
  match xs, ys with
  | [], [] => .eq
  | [], _ :: _ => .lt
  | _ :: _, [] => .gt
  | (k, x) :: xs, (l, y) :: ys =>
    ((Ord.compare k l).then (compare x y)).then (compareFields xs ys)
termination_by structural xs

/-- Element by element, null standing for an element that is missing, and then by length. -/
def compareItems (xs ys : List Value) : Ordering :=
  match xs, ys with
  | [], ys =>
    (ys.foldr (fun y rest => (compareClass .null y).then rest) .eq).then
      (Ord.compare 0 ys.length)
  | x :: xs, [] => ((compareClass x .null).then (compareItems xs [])).then .gt
  | x :: xs, y :: ys => (compare x y).then (compareItems xs ys)
termination_by structural xs

end

/-- The order with null for a value that is absent. -/
def compareOptional (a b : Option Value) : Ordering := compare (a.getD .null) (b.getD .null)

/-- Values in ascending order; those that are equal in the order keep their places. -/
def sort (vs : List Value) : List Value := vs.mergeSort fun a b => compare a b != .gt

/-- Equal in the order, or an object id and its hex text. -/
def equal (a b : Value) : Bool :=
  match a, b with
  | .objectId id, .string s => id.hex == s
  | .string s, .objectId id => id.hex == s
  | a, b => compare a b == .eq

end Value

end Docbase
