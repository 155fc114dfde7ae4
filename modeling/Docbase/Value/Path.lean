import Docbase.Value.Document

/-!
Dotted paths. A segment of digits picks an element of an array; any other segment passes
through an array to each document and reference in it, so a path can reach many values.
-/
namespace Docbase

structure Path where
  segments : List String
  deriving DecidableEq, Repr, Inhabited

namespace Path

/-- The parts between the dots; a text without a dot is one part. -/
def splitDots : List Char → List (List Char)
  | [] => [[]]
  | c :: rest =>
    if c = '.' then [] :: splitDots rest
    else
      match splitDots rest with
      | [] => [[c]]
      | part :: parts => (c :: part) :: parts

def ofText (text : String) : Path := ⟨(splitDots text.toList).map String.ofList⟩

def text (p : Path) : String := ".".intercalate p.segments

private def digitsValue (cs : List Char) : Nat :=
  cs.foldl (fun n c => 10 * n + (c.toNat - '0'.toNat)) 0

/-- The position that a segment names: digits only, and below `2 ^ 64`. -/
def index? (segment : String) : Option Nat :=
  let cs := segment.toList
  if cs.isEmpty || !cs.all Char.isDigit then none
  else
    let n := digitsValue cs
    if n < pow2 64 then some n else none

mutual

/-- The values that the segments reach from a value, in order. -/
def resolve (v : Value) (segments : List String) : List Value :=
  match segments with
  | [] => [v]
  | head :: rest =>
    match v with
    | .document fields => resolveField head rest fields
    | .reference _ _ id => if head = "$id" then resolve id rest else []
    | .array items =>
      match index? head with
      | some i => resolveAt rest i items
      | none => resolveEach head rest items
    | _ => []
termination_by structural v

/-- From the entry of a key. -/
def resolveField (key : String) (rest : List String) : List (String × Value) → List Value
  | [] => []
  | (k, v) :: more => if k = key then resolve v rest else resolveField key rest more

/-- From the element at a position. -/
def resolveAt (rest : List String) : Nat → List Value → List Value
  | _, [] => []
  | 0, v :: _ => resolve v rest
  | i + 1, _ :: more => resolveAt rest i more

/-- From every element that has fields. -/
def resolveEach (head : String) (rest : List String) : List Value → List Value
  | [] => []
  | v :: more =>
    (match v with
      | .document fields => resolveField head rest fields
      | .reference _ _ id => if head = "$id" then resolve id rest else []
      | _ => []) ++ resolveEach head rest more

end

/-- The values that a path reaches in a document. -/
def resolveIn (p : Path) (d : Document) : List Value :=
  match p.segments with
  | [] => []
  | head :: rest => resolveField head rest d

end Path

end Docbase
