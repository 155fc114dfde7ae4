import Docbase.Store

/-!
Stores under use. A store of any kind is given by its operations; a call that fails leaves it
as it was. Ids may also leave the supply between two calls, for other uses or because a batch
that failed had drawn them.
-/
namespace Docbase.Store

/-- What a store offers, for states of any kind. -/
structure Operations (State : Type) where
  create : State → String → State
  drop : State → String → Bool × State
  has : State → String → Bool
  names : State → List String
  scan : State → String → Except StoreError (List Document)
  containsId : State → String → Value → Except StoreError Bool
  insert : State → String → Document → Except StoreError (Value × State)
  insertMany : State → String → List Document → Except StoreError (List Value × State)
  upsert : State → String → Document → Except StoreError (Upsert × State)
  removeAll : State → String → Except StoreError (Nat × State)
  takeId : State → State

inductive Call where
  | create (name : String)
  | drop (name : String)
  | has (name : String)
  | names
  | scan (name : String)
  | containsId (name : String) (id : Value)
  | insert (name : String) (d : Document)
  | insertMany (name : String) (docs : List Document)
  | upsert (name : String) (d : Document)
  | removeAll (name : String)
  | takeId

inductive Answer where
  | done
  | flag (b : Bool)
  | names (names : List String)
  | documents (docs : List Document)
  | id (id : Value)
  | ids (ids : List Value)
  | written (outcome : Upsert)
  | count (n : Nat)
  | failed (e : StoreError)

namespace Operations

variable {State : Type}

/-- The answer to a call that only reads. -/
def read {α : Type} (s : State) (answer : α → Answer) : Except StoreError α → Answer × State
  | .ok a => (answer a, s)
  | .error e => (.failed e, s)

/-- The answer to a call that writes, and the state after it. -/
def write {α : Type} (s : State) (answer : α → Answer) :
    Except StoreError (α × State) → Answer × State
  | .ok (a, s') => (answer a, s')
  | .error e => (.failed e, s)

def step (o : Operations State) (s : State) : Call → Answer × State
  | .create name => (.done, o.create s name)
  | .drop name => (.flag (o.drop s name).1, (o.drop s name).2)
  | .has name => (.flag (o.has s name), s)
  | .names => (.names (o.names s), s)
  | .scan name => read s .documents (o.scan s name)
  | .containsId name id => read s .flag (o.containsId s name id)
  | .insert name d => write s .id (o.insert s name d)
  | .insertMany name docs => write s .ids (o.insertMany s name docs)
  | .upsert name d => write s .written (o.upsert s name d)
  | .removeAll name => write s .count (o.removeAll s name)
  | .takeId => (.done, o.takeId s)

/-- All answers in order, and the last state. -/
def run (o : Operations State) (s : State) : List Call → List Answer × State
  | [] => ([], s)
  | call :: calls =>
    ((o.step s call).1 :: (o.run (o.step s call).2 calls).1, (o.run (o.step s call).2 calls).2)

end Operations

def operations : Operations Store where
  create := create
  drop := drop
  has := has
  names := names
  scan := scan
  containsId := containsId
  insert := insert
  insertMany := insertMany
  upsert := upsert
  removeAll := removeAll
  takeId s := { s with ids := s.ids.advance }

end Docbase.Store
