import Docbase.Query.Error
import Docbase.Value.Order
import Docbase.Value.Path

/-!
Sorting by several keys. A field that leads to several values counts by its least one when
ascending and by its greatest one when descending, and as null if there is none.
-/
namespace Docbase

inductive Direction where
  | ascending | descending
  deriving DecidableEq, Repr

structure SortKey where
  field : Path
  direction : Direction

/-- Keys in order of importance. -/
structure SortSpec where
  keys : List SortKey

namespace SortSpec

/-- Positive numbers ask for ascending order and negative ones for descending order. -/
def direction? (v : Value) : Option Direction :=
  match v.asDouble? with
  | none => none
  | some x =>
    if x.isNaN || x.isZero then none
    else if x.isNegative then some .descending
    else some .ascending

def parse (spec : Document) : Except Malformed SortSpec := do
  let keys ← spec.mapM fun entry =>
    match direction? entry.2 with
    | some direction => .ok ⟨Path.ofText entry.1, direction⟩
    | none => .error (.sortDirection entry.1 entry.2)
  return ⟨keys⟩

def isEmpty (s : SortSpec) : Bool := s.keys.isEmpty

end SortSpec

namespace SortKey

/-- The values a document offers for a key; an array that is not empty offers its elements. -/
def offered (k : SortKey) (d : Document) : List Value :=
  (k.field.resolveIn d).flatMap fun v =>
    match v with
    | .array (x :: xs) => x :: xs
    | v => [v]

def least : Value → List Value → Value
  | best, [] => best
  | best, v :: vs => least (if v.compare best == .lt then v else best) vs

def greatest : Value → List Value → Value
  | best, [] => best
  | best, v :: vs => greatest (if v.compare best == .lt then best else v) vs

/-- The value that a document is sorted by. -/
def value (k : SortKey) (d : Document) : Value :=
  match k.offered d, k.direction with
  | [], _ => .null
  | v :: vs, .ascending => least v vs
  | v :: vs, .descending => greatest v vs

def compare (k : SortKey) (a b : Document) : Ordering :=
  match k.direction with
  | .ascending => (k.value a).compare (k.value b)
  | .descending => (k.value b).compare (k.value a)

end SortKey

namespace SortSpec

def compareBy : List SortKey → Document → Document → Ordering
  | [], _, _ => .eq
  | k :: ks, a, b => (k.compare a b).then (compareBy ks a b)

def compare (s : SortSpec) (a b : Document) : Ordering := compareBy s.keys a b

/-- Documents that are equal in the order keep their places. -/
def sort (s : SortSpec) (docs : List Document) : List Document :=
  if s.isEmpty then docs else docs.mergeSort fun a b => s.compare a b != .gt

end SortSpec

end Docbase
