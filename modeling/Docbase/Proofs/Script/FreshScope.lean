import Docbase.Proofs.Script.Equality
import Docbase.Proofs.Script.Heap
import Docbase.Proofs.Script.Table

/-!
What a fresh scope holds: the constructors that literals call, each with the variables that its
body uses, and the names that the metatables give.
-/
namespace Docbase.Script

open Docbase.Script.Expr (ofName callName tableOf)

/-- A function that makes a table and gives it a metatable. -/
structure Constructor where
  params : List String
  fields : Expr
  metatable : Expr

namespace Constructor

def result (k : Constructor) : Expr := callName "setmetatable" [k.fields, k.metatable]

def date : Constructor :=
  ⟨["ms"], tableOf [.field "ms"
    (.or (((ofName "math").field "tointeger").apply [ofName "ms"]) (ofName "ms"))],
    ofName "DateType"⟩

def objectId : Constructor :=
  ⟨["hex"], tableOf [.field "hex" (((ofName "string").field "lower").apply [ofName "hex"])],
    ofName "ObjectIdType"⟩

def regExp : Constructor :=
  ⟨["pattern", "options"], tableOf [.field "pattern" (ofName "pattern"),
    .field "options" (.or (ofName "options") (.string ""))], ofName "RegExpType"⟩

def binData : Constructor :=
  ⟨["subtype", "bytes"], tableOf [.field "subtype" (ofName "subtype"),
    .field "bytes" (ofName "bytes")], ofName "BinDataType"⟩

def reference : Constructor :=
  ⟨["collection", "id", "db"], tableOf [.field "$ref" (ofName "collection"),
    .field "$id" (ofName "id"), .field "$db" (ofName "db")], ofName "DBRefType"⟩

def array : Constructor :=
  ⟨["_", "items"], .or (ofName "items") (tableOf []), ofName "ArrayType"⟩

def document : Constructor :=
  ⟨["fields", "keys"], .or (ofName "fields") (tableOf []),
    tableOf [.field "__name" (.string "Document"),
      .field "__keys" (.or (ofName "keys") (tableOf []))]⟩

end Constructor

/-- Whether a function is a constructor, sees the globals and the library, and finds its
metatable in a cell if it has a name for it. -/
def Closure.isOf (c : Closure) (k : Constructor) (type : Option (String × ℕ)) : Bool :=
  c.unit.isNone && c.params == k.params && !c.variadic &&
    (match c.body with
      | [.giveBack [e]] => e.same k.result
      | _ => false) &&
    c.captured.lookup Env.globalsName == some 0 &&
    ["setmetatable", "math", "string"].all (fun x => c.captured.lookup x == none) &&
    type.all (fun t => c.captured.lookup t.1 == some t.2)

/-- What `Closure.isOf` tells. -/
structure Closure.IsOf (c : Closure) (k : Constructor) (type : Option (String × ℕ)) : Prop where
  eq : c = ⟨none, k.params, false, [.giveBack [k.result]], c.captured⟩
  globals : c.captured.lookup Env.globalsName = some 0
  library : ∀ x ∈ ["setmetatable", "math", "string"], c.captured.lookup x = none
  type : ∀ t ∈ type, c.captured.lookup t.1 = some t.2

theorem Closure.isOf_spec (c : Closure) (k : Constructor) (type : Option (String × ℕ))
    (h : c.isOf k type = true) : c.IsOf k type := by
  obtain ⟨unit, params, variadic, body, captured⟩ := c
  simp only [isOf, Bool.and_eq_true, beq_iff_eq, List.all_eq_true, Option.all_eq_true] at h
  obtain ⟨⟨⟨⟨⟨⟨hunit, hparams⟩, hvariadic⟩, hbody⟩, hglobals⟩, hlibrary⟩, htype⟩ := h
  refine ⟨?_, hglobals, hlibrary, htype⟩
  split at hbody
  · next e =>
    obtain rfl := Expr.eq_of_same e k.result hbody
    obtain rfl : unit = none := by simpa using hunit
    obtain rfl : variadic = false := by simpa using hvariadic
    rw [hparams]
  · exact absurd hbody (by simp)

namespace Literal

/-- The globals that literals and the constructors use, and what a fresh scope has there. -/
def globals : List (String × Datum) :=
  [("_G", .table 0), ("null", .table 6), ("MinKey", .table 8), ("MaxKey", .table 10),
    ("Date", .closure 13), ("ObjectId", .closure 17), ("RegExp", .closure 19),
    ("BinData", .closure 20), ("DBRef", .closure 21), ("Array", .table 20),
    ("Document", .closure 24), ("math", .table 4), ("string", .table 2),
    ("setmetatable", .primitive .setmetatable)]

/-- The constructors at their places, with the variables that hold their metatables. -/
def constructors : List (ℕ × Constructor × Option (String × ℕ)) :=
  [(13, .date, some ("DateType", 12)), (17, .objectId, some ("ObjectIdType", 13)),
    (19, .regExp, some ("RegExpType", 14)), (20, .binData, some ("BinDataType", 15)),
    (21, .reference, some ("DBRefType", 16)), (23, .array, some ("ArrayType", 17)),
    (24, .document, none)]

/-- The cells that the constructors read. -/
def cells : List (ℕ × Datum) :=
  [(0, .table 0), (12, .table 12), (13, .table 14), (14, .table 16), (15, .table 17),
    (16, .table 18), (17, .table 19)]

/-- Fields of the tables of the prelude and the library. -/
def fields : List (ℕ × String × Datum) :=
  [(7, "__name", .ofText "null"), (9, "__name", .ofText "MinKey"),
    (11, "__name", .ofText "MaxKey"), (12, "__name", .ofText "Date"),
    (14, "__name", .ofText "ObjectId"), (16, "__name", .ofText "RegExp"),
    (17, "__name", .ofText "BinData"), (18, "__name", .ofText "DBRef"),
    (19, "__name", .ofText "Array"), (21, "__call", .closure 23),
    (2, "lower", .primitive .stringLower), (4, "tointeger", .primitive .mathToInteger),
    (4, "huge", .double .infinity), (4, "mininteger", .int Int64.minValue)]

/-- The metatables of tables of the prelude. -/
def metatables : List (ℕ × Option ℕ) :=
  [(0, none), (6, some 7), (8, some 9), (10, some 11), (20, some 21)]

end Literal

/-- Whether a heap holds what literals need, at the places where a fresh scope has it. -/
def Heap.holdsPrelude (h : Heap) : Bool :=
  h.tables.size == 24 && h.cells.size == 19 && h.closures.size == 28 &&
    Literal.globals.all (fun g => (h.table 0).getText g.1 == g.2) &&
    Literal.constructors.all (fun k => (h.closure k.1).isOf k.2.1 k.2.2) &&
    Literal.cells.all (fun c => h.cell c.1 == c.2) &&
    Literal.fields.all (fun f => (h.table f.1).getText f.2.1 == f.2.2) &&
    Literal.metatables.all (fun m => (h.table m.1).metatable == m.2) &&
    (h.table 0).isRecord

theorem fresh_holdsPrelude : Heap.fresh.holdsPrelude = true := by decide +kernel

/-- What a fresh scope has of what literals need. -/
structure Heap.HoldsPrelude (h : Heap) : Prop where
  tables_size : h.tables.size = 24
  cells_size : h.cells.size = 19
  closures_size : h.closures.size = 28
  global : ∀ g ∈ Literal.globals, (h.table 0).getText g.1 = g.2
  constructor : ∀ k ∈ Literal.constructors, (h.closure k.1).IsOf k.2.1 k.2.2
  cell : ∀ c ∈ Literal.cells, h.cell c.1 = c.2
  field : ∀ f ∈ Literal.fields, (h.table f.1).getText f.2.1 = f.2.2
  metatable : ∀ m ∈ Literal.metatables, (h.table m.1).metatable = m.2
  globals : (h.table 0).isRecord = true

theorem holdsPrelude_fresh : Heap.fresh.HoldsPrelude := by
  have h := fresh_holdsPrelude
  simp only [Heap.holdsPrelude, Bool.and_eq_true, beq_iff_eq, List.all_eq_true] at h
  obtain ⟨⟨⟨⟨⟨⟨⟨⟨ht, hc⟩, hf⟩, hglobal⟩, hconstructor⟩, hcell⟩, hfield⟩, hmetatable⟩,
    hrecord⟩ := h
  exact ⟨ht, hc, hf, hglobal, fun k hk => Closure.isOf_spec _ _ _ (hconstructor k hk), hcell,
    hfield, hmetatable, hrecord⟩

end Docbase.Script
