import Docbase.Database.Error
import Docbase.Query.Sort

/-!
Where the results of a job go. They replace what a collection holds, are merged into it by id,
are added to it, or are given back at once by way of a collection that is used for nothing
else.
-/
namespace Docbase

/-- Actions on a store; one that fails leaves what it did before. -/
abbrev StoreM := EStateM DbError Store

namespace StoreM

def ofStore (f : Store → Except StoreError (α × Store)) : StoreM α := fun s =>
  match f s with
  | .ok (a, s) => .ok a s
  | .error e => .error (.store e) s

def ofRead (f : Store → Except StoreError α) : StoreM α := fun s =>
  match f s with
  | .ok a => .ok a s
  | .error e => .error (.store e) s

def ofExcept (x : Except DbError α) : StoreM α := fun s =>
  match x with
  | .ok a => .ok a s
  | .error e => .error e s

def create (name : String) : StoreM Unit := fun s => .ok () (s.create name)

def drop (name : String) : StoreM Bool := fun s =>
  let (existed, s) := s.drop name
  .ok existed s

def insertMany (name : String) (docs : List Document) : StoreM (List Value) :=
  ofStore fun s => s.insertMany name docs

def upsert (name : String) (d : Document) : StoreM Upsert := ofStore fun s => s.upsert name d

def removeAll (name : String) : StoreM Nat := ofStore fun s => s.removeAll name

def scan (name : String) : StoreM (List Document) := ofRead fun s => s.scan name

def containsId (name : String) (id : Value) : StoreM Bool := ofRead fun s => s.containsId name id

end StoreM

namespace MapReduce

inductive OutputMode where
  | replace | merge | reduce | inline
  deriving DecidableEq, Repr

def OutputMode.name : OutputMode → String
  | .replace => "replace"
  | .merge => "merge"
  | .reduce => "reduce"
  | .inline => "inline"

structure Output where
  mode : OutputMode
  collection : String
  deriving DecidableEq, Repr

/-- What a job gives back: its results, or where they are. -/
inductive Results where
  | inline (docs : List Document)
  | collection (name db : String)

namespace Output

/-- A collection of no other use. -/
def temporary (id : ObjectId) : String := "tmp.mr." ++ id.hex

def collectionName (name : String) : Except OutputError String :=
  if name.isEmpty then .error .emptyName else .ok name

def targetName (mode : String) : Value → Except OutputError String
  | .string name => collectionName name
  | found => .error (.target mode found)

/-- A name asks for replacement; a document names one mode with its target. The id serves for
a temporary collection. -/
def parse (id : ObjectId) : Value → Except OutputError Output
  | .string name => do return ⟨.replace, ← collectionName name⟩
  | .document [(mode, target)] =>
    match mode with
    | "replace" => do return ⟨.replace, ← targetName mode target⟩
    | "merge" => do return ⟨.merge, ← targetName mode target⟩
    | "reduce" => do return ⟨.reduce, ← targetName mode target⟩
    | "inline" =>
      if target.isTruthy then .ok ⟨.inline, temporary id⟩ else .error .inlineDisabled
    | _ => .error (.unknownMode mode)
  | .document found => .error (.notExactlyOne found)
  | found => .error (.wrongType found)

/-- Whether the results take the place of what was there. -/
def isCleared (o : Output) : Bool := o.mode == .replace || o.mode == .inline

/-- Makes sure that the destination exists. -/
def init (o : Output) : StoreM Unit := do
  StoreM.create o.collection
  if o.isCleared then
    let _ ← StoreM.removeAll o.collection

/-- Fails for the first result whose id is already there. -/
def checkNew (o : Output) : List Document → StoreM Unit
  | [] => return
  | d :: rest => do
    match Document.get? d "_id" with
    | some id =>
      if ← StoreM.containsId o.collection id then
        throw (.output (.cannotCombine id o.collection))
    | none => pure ()
    checkNew o rest

def upsertAll (o : Output) : List Document → StoreM Unit
  | [] => return
  | d :: rest => do
    let _ ← StoreM.upsert o.collection d
    upsertAll o rest

/-- Writes results. -/
def addAll (o : Output) (results : List Document) : StoreM Unit := do
  match o.mode with
  | .replace | .inline =>
    let _ ← StoreM.insertMany o.collection results
  | .merge => o.upsertAll results
  | .reduce =>
    o.checkNew results
    let _ ← StoreM.insertMany o.collection results

def add (o : Output) (result : Document) : StoreM Unit := o.addAll [result]

/-- Inline results are read back in the order of their ids. -/
def results (o : Output) (db : String) : StoreM Results := do
  match o.mode with
  | .inline =>
    let docs ← StoreM.scan o.collection
    return .inline ((SortSpec.mk [⟨Path.ofText "_id", .ascending⟩]).sort docs)
  | _ => return .collection o.collection db

/-- Runs an action, after which a temporary collection goes away however the action ends. -/
def during (o : Output) (x : StoreM α) : StoreM α :=
  if o.mode = .inline then
    fun s =>
      match x s with
      | .ok a s => .ok a (s.drop o.collection).2
      | .error e s => .error e (s.drop o.collection).2
  else x

end Output

end MapReduce

end Docbase
