import Docbase.Binary64.Basic
import Docbase.Text.Utf8

/-!
The syntax of scripts. A text is a string of bytes. A function declaration and a method
declaration are assignments of function expressions, so they have no form of their own. What
may fail tells its line.
-/
namespace Docbase.Script

inductive BinaryOp where
  | add | sub | mul | div | floorDiv | mod | pow | concat
  | eq | ne | lt | le | gt | ge
  | bitAnd | bitOr | bitXor | shiftLeft | shiftRight
  deriving DecidableEq, Repr

inductive UnaryOp where
  | negate | not | length | bitNot
  deriving DecidableEq, Repr

/-- A local name and whether it may be assigned to only once. -/
structure LocalName where
  name : String
  constant : Bool
  deriving DecidableEq, Repr

mutual

inductive Expr where
  | nil
  | boolean (b : Bool)
  | int (n : Int64)
  | double (x : Binary64)
  | text (s : Bytes)
  | varargs
  | function (params : List String) (variadic : Bool) (body : List Stmt)
  | name (line : Nat) (x : String)
  | index (line : Nat) (object key : Expr)
  | call (line : Nat) (f : Expr) (args : List Expr)
  | method (line : Nat) (object : Expr) (name : String) (args : List Expr)
  | unary (line : Nat) (op : UnaryOp) (a : Expr)
  | binary (line : Nat) (op : BinaryOp) (a b : Expr)
  | and (a b : Expr)
  | or (a b : Expr)
  | table (line : Nat) (items : List Item)
  /-- An expression in parentheses has one value. -/
  | paren (e : Expr)

inductive Item where
  | positional (e : Expr)
  | keyed (key value : Expr)

inductive Target where
  | name (x : String)
  | index (object key : Expr)

inductive Stmt where
  | declare (names : List LocalName) (values : List Expr)
  | assign (line : Nat) (targets : List Target) (values : List Expr)
  | call (e : Expr)
  | block (body : List Stmt)
  | whileLoop (condition : Expr) (body : List Stmt)
  | repeatLoop (body : List Stmt) (condition : Expr)
  | branch (condition : Expr) (whenTrue whenFalse : List Stmt)
  | numericFor (line : Nat) (x : String) (start limit : Expr) (step : Option Expr)
    (body : List Stmt)
  | genericFor (line : Nat) (names : List String) (values : List Expr) (body : List Stmt)
  | localFunction (name : String) (params : List String) (variadic : Bool) (body : List Stmt)
  | giveBack (values : List Expr)
  | leave
  | jump (label : String)
  | label (name : String)

end

abbrev Block := List Stmt

namespace Expr

/-! What an expression is before any evaluation. -/

/-- Whether a constant expression counts as true. -/
def truth? : Expr → Option Bool
  | .nil => some false
  | .boolean b => some b
  | .int _ | .double _ | .text _ => some true
  | .unary _ .not a => a.truth?.map (!·)
  | .and a b => if a.truth? = some true then b.truth? else none
  | .or a b => if a.truth? = some false then b.truth? else none
  | .paren e => e.truth?
  | _ => none

/-- The variable that an expression is nothing but the name of. -/
def nameOnly? : Expr → Option String
  | .name _ x => some x
  | .and a b => if a.truth? = some true then b.nameOnly? else none
  | .or a b => if a.truth? = some false then b.nameOnly? else none
  | .paren e => e.nameOnly?
  | _ => none

/-- The most bytes of a text that is a short one. -/
def shortSize : Nat := 40

def isShortText : Expr → Bool
  | .text s => s.length ≤ shortSize
  | _ => false

/-! Expressions of scripts that are given as syntax. -/

def ofName (x : String) : Expr := .name 0 x

def string (s : String) : Expr := .text (Utf8.encode s)

def item (object key : Expr) : Expr := .index 0 object key

/-- A field by its name. -/
def field (object : Expr) (key : String) : Expr := object.item (.string key)

def apply (f : Expr) (args : List Expr) : Expr := .call 0 f args

/-- A call of a function by its name. -/
def callName (f : String) (args : List Expr) : Expr := (ofName f).apply args

def operation (op : BinaryOp) (a b : Expr) : Expr := .binary 0 op a b

def eq (a b : Expr) : Expr := operation .eq a b

def ne (a b : Expr) : Expr := operation .ne a b

def isNil (a : Expr) : Expr := a.eq .nil

def length (a : Expr) : Expr := .unary 0 .length a

def tableOf (items : List Item) : Expr := .table 0 items

end Expr

/-- An item with a name for a key. -/
def Item.field (key : String) (value : Expr) : Item := .keyed (.string key) value

namespace Stmt

/-- A local variable with its value. -/
def bind (x : String) (value : Expr) : Stmt := .declare [⟨x, false⟩] [value]

def set (x : String) (value : Expr) : Stmt := .assign 0 [.name x] [value]

def setField (object : Expr) (key : String) (value : Expr) : Stmt :=
  .assign 0 [.index object (.string key)] [value]

def setIndex (object key value : Expr) : Stmt := .assign 0 [.index object key] [value]

/-- A global function. -/
def define (f : String) (params : List String) (body : List Stmt) : Stmt :=
  .assign 0 [.name f] [.function params false body]

def when (condition : Expr) (body : List Stmt) : Stmt := .branch condition body []

def giveOne (value : Expr) : Stmt := .giveBack [value]

end Stmt

instance : Inhabited Expr := ⟨.nil⟩
instance : Inhabited Stmt := ⟨.leave⟩

end Docbase.Script
