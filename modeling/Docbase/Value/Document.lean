import Docbase.Value.Basic

/-!
A document as a map with ordered keys. Writing to a key that is present keeps its place,
writing to an absent key puts it last, and taking a key out leaves the order of the others.
-/
namespace Docbase.Document

def empty : Document := []

def keys (d : Document) : List String := d.map Prod.fst

def get? : Document → String → Option Value
  | [], _ => none
  | (k, v) :: rest, key => if k = key then some v else get? rest key

def contains (d : Document) (key : String) : Bool := (get? d key).isSome

/-- Replaces the value in place or appends a new entry. -/
def insert : Document → String → Value → Document
  | [], key, value => [(key, value)]
  | (k, v) :: rest, key, value =>
    if k = key then (k, value) :: rest else (k, v) :: insert rest key value

/-- Puts the entry first, whether or not the key was present. -/
def insertFirst (d : Document) (key : String) (value : Value) : Document :=
  (key, value) :: d.filter fun entry => entry.1 != key

/-- Writes a key and gives back the value it held before. -/
def replace : Document → String → Value → Option Value × Document
  | [], key, value => (none, [(key, value)])
  | (k, v) :: rest, key, value =>
    if k = key then (some v, (k, value) :: rest)
    else
      let (held, rest) := replace rest key value
      (held, (k, v) :: rest)

/-- Takes a key out and gives back the value it held. -/
def remove : Document → String → Option Value × Document
  | [], _ => (none, [])
  | (k, v) :: rest, key =>
    if k = key then (some v, rest)
    else
      let (held, rest) := remove rest key
      (held, (k, v) :: rest)

/-- The document that results from inserting the entries one by one. -/
def ofEntries (entries : List (String × Value)) : Document :=
  entries.foldl (fun d entry => insert d entry.1 entry.2) empty

end Docbase.Document

namespace Docbase.Value

/-- The document that stands for a reference in formats without references. -/
def referenceFields (database : Option String) (collection : String) (id : Value) : Document :=
  [("$ref", .string collection), ("$id", id)] ++
    match database with
    | some name => [("$db", .string name)]
    | none => []

end Docbase.Value
