import Docbase.Proofs.Database.InlineOrder
import Docbase.Proofs.MapReduce.Replay

/-!
The results that a job writes: one for each key that its map phase registered, in the order of the
keys. Keys and values are read apart and put together afterwards, and they fit as long as the
functions of the job leave alone what the phases work with.
-/
namespace Docbase

namespace Database

open MapReduce

/-- The document that is there. -/
def oneInput : List Document := [[("_id", .int32 1)]]

end Database

end Docbase
