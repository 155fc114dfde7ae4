import Docbase.Value.Display
import Docbase.Value.Key
import Std.Data.HashMap

/-!
A store of named collections. A collection keeps its documents in the order in which they came
and, beside them, the position of each by the key of its `_id`. Two documents of a collection
never have equal ids.
-/
namespace Docbase

/-- Where the ids of documents that come without one are taken from. -/
structure IdSupply where
  id : Nat → ObjectId
  issued : Nat

namespace IdSupply

def next (s : IdSupply) : ObjectId := s.id s.issued

def advance (s : IdSupply) : IdSupply := { s with issued := s.issued + 1 }

end IdSupply

inductive StoreError where
  | collectionNotFound (name : String)
  | duplicateKey (collection : String) (id : Value)

def StoreError.message : StoreError → String
  | .collectionNotFound name => "collection not found: " ++ name
  | .duplicateKey collection id => "duplicate key in " ++ collection ++ ": _id " ++ id.text

structure Collection where
  docs : Array Document
  positions : Std.HashMap Key Nat

namespace Collection

def empty : Collection := ⟨#[], ∅⟩

def position? (c : Collection) (id : Value) : Option Nat := c.positions[Key.ofValue id]?

/-- Adds a document whose id is new. -/
def append (c : Collection) (id : Value) (d : Document) : Collection :=
  ⟨c.docs.push d, c.positions.insert (Key.ofValue id) c.docs.size⟩

/-- The document with an id, and its id; one that is missing is taken from the supply and
becomes the first entry. -/
def withId (d : Document) (ids : IdSupply) : Value × Document × IdSupply :=
  match Document.get? d "_id" with
  | some id => (id, d, ids)
  | none =>
    let id := Value.objectId ids.next
    (id, Document.insertFirst d "_id" id, ids.advance)

/-- Adds documents one by one; the error is the first id that is taken. -/
def insertAll (c : Collection) (ids : IdSupply) :
    List Document → Except Value (List Value × Collection × IdSupply)
  | [] => .ok ([], c, ids)
  | d :: rest =>
    let (id, d, ids) := withId d ids
    if (c.position? id).isSome then .error id
    else do
      let (inserted, c, ids) ← (c.append id d).insertAll ids rest
      return (id :: inserted, c, ids)

end Collection

/-- What became of a document that was written by its id. -/
inductive Upsert where
  | inserted | replaced
  deriving DecidableEq, Repr

structure Store where
  collections : List (String × Collection)
  ids : IdSupply

namespace Store

def empty (ids : IdSupply) : Store := ⟨[], ids⟩

def lookUp (name : String) : List (String × Collection) → Option Collection
  | [] => none
  | (n, c) :: rest => if n = name then some c else lookUp name rest

def collection? (s : Store) (name : String) : Option Collection := lookUp name s.collections

def find (s : Store) (name : String) : Except StoreError Collection :=
  match s.collection? name with
  | some c => .ok c
  | none => .error (.collectionNotFound name)

def replaceIn (name : String) (new : Collection) :
    List (String × Collection) → List (String × Collection)
  | [] => []
  | (n, c) :: rest =>
    if n = name then (n, new) :: rest else (n, c) :: replaceIn name new rest

/-- Puts a collection in the place of the one with its name. -/
def put (s : Store) (name : String) (c : Collection) : Store :=
  { s with collections := replaceIn name c s.collections }

/-- Makes a collection; one that exists stays as it is. -/
def create (s : Store) (name : String) : Store :=
  match s.collection? name with
  | some _ => s
  | none => { s with collections := s.collections ++ [(name, .empty)] }

def has (s : Store) (name : String) : Bool := (s.collection? name).isSome

/-- Takes a collection out and tells whether there was one. -/
def drop (s : Store) (name : String) : Bool × Store :=
  (s.has name, { s with collections := s.collections.filter fun entry => entry.1 != name })

/-- The names in ascending order. -/
def names (s : Store) : List String :=
  (s.collections.map Prod.fst).mergeSort fun a b => decide (a ≤ b)

/-- The documents of a collection in order. -/
def scan (s : Store) (name : String) : Except StoreError (List Document) := do
  return (← s.find name).docs.toList

def containsId (s : Store) (name : String) (id : Value) : Except StoreError Bool := do
  return ((← s.find name).position? id).isSome

/-- Inserts all documents or none, and gives their ids in order. -/
def insertMany (s : Store) (name : String) (docs : List Document) :
    Except StoreError (List Value × Store) := do
  let c ← s.find name
  match c.insertAll s.ids docs with
  | .ok (inserted, c, ids) => return (inserted, { s.put name c with ids })
  | .error id => throw (.duplicateKey name id)

def insert (s : Store) (name : String) (d : Document) : Except StoreError (Value × Store) := do
  let (inserted, s) ← s.insertMany name [d]
  return (inserted.headD .null, s)

/-- Replaces the document with the same id, or inserts it. -/
def upsert (s : Store) (name : String) (d : Document) : Except StoreError (Upsert × Store) := do
  let c ← s.find name
  let (id, d, ids) := Collection.withId d s.ids
  match c.position? id with
  | some i =>
    return (.replaced, { s.put name { c with docs := c.docs.setIfInBounds i d } with ids })
  | none => return (.inserted, { s.put name (c.append id d) with ids })

/-- Removes all documents and tells how many there were. -/
def removeAll (s : Store) (name : String) : Except StoreError (Nat × Store) := do
  let c ← s.find name
  return (c.docs.size, s.put name .empty)

end Store

end Docbase
