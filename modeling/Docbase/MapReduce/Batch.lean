/-!
Calls are put together into units of script of a bounded size. A call that is longer than the
bound is a unit of its own.
-/
namespace Docbase.MapReduce

structure Batch where
  limit : Nat
  current : String

namespace Batch

def empty (limit : Nat) : Batch := ⟨limit, ""⟩

/-- Adds a call; the unit so far is given back if the call would make it too long. -/
def push (b : Batch) (call : String) : Option String × Batch :=
  if !b.current.isEmpty && b.limit < b.current.utf8ByteSize + call.utf8ByteSize then
    (some b.current, { b with current := call })
  else (none, { b with current := b.current ++ call })

/-- The last unit. -/
def finish (b : Batch) : Option String :=
  if b.current.isEmpty then none else some b.current

def unitsFrom (b : Batch) : List String → List String
  | [] => b.finish.toList
  | call :: rest =>
    let (unit, b) := b.push call
    unit.toList ++ b.unitsFrom rest

/-- All units of a list of calls. -/
def units (limit : Nat) (calls : List String) : List String := (empty limit).unitsFrom calls

end Batch

end Docbase.MapReduce
