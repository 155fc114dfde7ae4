import Docbase.Script.Library.Basic
import Docbase.Script.Library.Numeric
import Docbase.Script.Library.Sequence
import Docbase.Script.Library.Text

/-!
The host library: what each of its functions does, and the heap in which scripts find them.
-/
namespace Docbase.Script

namespace Primitive

/-- Applies a library function; `call` is how it calls functions in turn, and `trace` tells
who called it. -/
def apply (call : Callee) (trace : Trace) (p : Primitive) (args : List Datum) :
    Run (List Datum) :=
  match p with
  | .assert => Library.assert trace args
  | .error => Library.error trace args
  | .getmetatable => Library.getmetatable args
  | .ipairs => Library.ipairs args
  | .ipairsStep => Library.ipairsStep call args
  | .next => Library.next args
  | .pairs => Library.pairs call args
  | .pcall => Library.pcall call args
  | .print => return []
  | .rawequal => Library.rawequal args
  | .rawget => Library.rawget args
  | .rawlen => Library.rawlen args
  | .rawset => Library.rawset args
  | .select => Library.select args
  | .setmetatable => Library.setmetatable args
  | .tonumber => Library.tonumber args
  | .tostring => Library.tostring call args
  | .type => Library.type args
  | .stringByte => Library.Text.byte args
  | .stringChar => Library.Text.char args
  | .stringFormat => Library.Text.format call args
  | .stringLen => Library.Text.len args
  | .stringLower => Library.Text.lower args
  | .stringRep => Library.Text.rep args
  | .stringReverse => Library.Text.reverse args
  | .stringSub => Library.Text.sub args
  | .stringUpper => Library.Text.upper args
  | .tableConcat => Library.Sequence.concat call args
  | .tableInsert => Library.Sequence.insert call args
  | .tablePack => Library.Sequence.pack args
  | .tableRemove => Library.Sequence.remove call args
  | .tableSort => Library.Sequence.sort call args
  | .tableUnpack => Library.Sequence.unpack call args
  | .mathAbs => Library.Numeric.abs args
  | .mathCeil => Library.Numeric.ceil args
  | .mathFloor => Library.Numeric.floor args
  | .mathMax => Library.Numeric.max call args
  | .mathMin => Library.Numeric.min call args
  | .mathToInteger => Library.Numeric.toInteger args
  | .mathType => Library.Numeric.type args
  | .coroutineCreate => do
    let _ ← Library.function args 1
    return [← Run.newThread]

end Primitive

namespace Library

private def functions (names : List (String × Primitive)) : List (String × Datum) :=
  names.map fun entry => (entry.1, .primitive entry.2)

def texts : List (String × Datum) :=
  functions [("byte", .stringByte), ("char", .stringChar), ("format", .stringFormat),
    ("len", .stringLen), ("lower", .stringLower), ("rep", .stringRep),
    ("reverse", .stringReverse), ("sub", .stringSub), ("upper", .stringUpper)]

def sequences : List (String × Datum) :=
  functions [("concat", .tableConcat), ("insert", .tableInsert), ("pack", .tablePack),
    ("remove", .tableRemove), ("sort", .tableSort), ("unpack", .tableUnpack)]

def numerics : List (String × Datum) :=
  functions [("abs", .mathAbs), ("ceil", .mathCeil), ("floor", .mathFloor), ("max", .mathMax),
    ("min", .mathMin), ("tointeger", .mathToInteger), ("type", .mathType)] ++
  [("huge", .double .infinity), ("maxinteger", .int Int64.maxValue),
    ("mininteger", .int Int64.minValue),
    ("pi", .double (.ofDecimal false 3141592653589793 (-15)))]

def globals : List (String × Datum) :=
  functions [("assert", .assert), ("error", .error), ("getmetatable", .getmetatable),
    ("ipairs", .ipairs), ("next", .next), ("pairs", .pairs), ("pcall", .pcall),
    ("print", .print), ("rawequal", .rawequal), ("rawget", .rawget), ("rawlen", .rawlen),
    ("rawset", .rawset), ("select", .select), ("setmetatable", .setmetatable),
    ("tonumber", .tonumber), ("tostring", .tostring), ("type", .type)] ++
  [("_G", .table Heap.globals), ("string", .table 2), ("table", .table 3), ("math", .table 4),
    ("coroutine", .table 5), ("_VERSION", .ofText "Lua 5.4")]

def tableOf (entries : List (String × Datum)) : Table :=
  entries.foldl (fun t entry => t.setText entry.1 entry.2) .empty

end Library

/-- The heap with the library only: the globals, the metatable of texts, the tables of functions
on texts, sequences, numbers and coroutines, and the variable that holds the globals. -/
def Heap.ofLibrary : Heap where
  tables := #[Library.tableOf Library.globals, Library.tableOf [("__index", .table 2)],
    Library.tableOf Library.texts, Library.tableOf Library.sequences,
    Library.tableOf Library.numerics,
    Library.tableOf [("create", .primitive .coroutineCreate)]]
  cells := #[.table Heap.globals]
  closures := #[]
  threads := 0

end Docbase.Script
