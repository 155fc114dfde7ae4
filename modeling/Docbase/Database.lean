import Docbase.MapReduce.Job
import Docbase.Query.Match

/-!
A database: documents are inserted, found and put through jobs.
-/
namespace Docbase

/-- What to find: which documents, in which order, and how many at most; 0 is no limit. -/
structure FindOptions where
  filter : Document := []
  sort : Document := []
  limit : Nat := 0

namespace Database

/-- Inserts documents into a collection, which is made if there is none. -/
def insertMany (name : String) (docs : List Document) : StoreM (List Value) := do
  StoreM.create name
  StoreM.insertMany name docs

/-- The first documents that match, in order; a collection that does not exist holds none. -/
def select (name : String) (filter : Filter) (sort : SortSpec) (limit : Nat) :
    StoreM (List Document) := fun s =>
  let docs :=
    match s.scan name with
    | .ok docs => docs
    | .error _ => []
  match filter.select docs with
  | .error e => .error (.script e) s
  | .ok matched =>
    let sorted := sort.sort matched
    .ok (if limit = 0 then sorted else sorted.take limit) s

def compileFilter (query : Document) : StoreM Filter :=
  StoreM.ofExcept ((Filter.compile query).mapError .ofQuery)

def parseSort (spec : Document) : StoreM SortSpec :=
  StoreM.ofExcept ((SortSpec.parse spec).mapError .query)

def find (name : String) (options : FindOptions) : StoreM (List Document) := do
  let filter ← compileFilter options.filter
  let sort ← parseSort options.sort
  select name filter sort options.limit

open MapReduce

/-- Evaluates a job on documents and writes its results. -/
def runJob (settings : Settings) (job : Job) (output : Output) (docs : List Document) :
    StoreM Outcome := do
  output.init
  let (results, emitted) ←
    StoreM.ofExcept ((job.evaluate settings.scriptBatchChars docs).mapError .script)
  output.addAll results
  return {
    results := ← output.results settings.name
    counts := ⟨docs.length, emitted, results.length, results.length⟩ }

/-- The id that a temporary collection is named after. -/
def spareId : StoreM ObjectId := fun s => .ok s.ids.next s

/-- Runs a job over a collection. Everything about the job is checked before the store is
changed, and results are written only after all scripts have succeeded. -/
def mapReduce (settings : Settings) (name : String) (job : Job) : StoreM Outcome := do
  StoreM.ofExcept (job.validate.mapError .invalidJob)
  let output ← StoreM.ofExcept ((Output.parse (← spareId) job.out).mapError .output)
  let filter ← compileFilter job.query
  let sort ← parseSort job.sort
  let docs ← select name filter sort job.limit
  output.during (runJob settings job output docs)

end Database

end Docbase
