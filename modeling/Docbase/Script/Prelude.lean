import Docbase.Script.Evaluate

/-!
What every scope knows before any script runs: constructors for the values that scripts have no
notation for, each with a metatable that names it, the comparison of such values as numbers,
and the variables of the document at hand.
-/
namespace Docbase.Script.Prelude

open Docbase.Script.Expr (field callName tableOf operation)

private def name (x : String) : Expr := .ofName x
private def lambda (params : List String) (body : Block) : Expr := .function params false body
private def tagged (fields metatable : Expr) : Expr := callName "setmetatable" [fields, metatable]
private def orElse (x : String) (e : Expr) : Expr := .or (name x) e

/-- `sentinel(name)` makes a table that has the given name and is written by it. -/
def sentinel : Stmt :=
  .localFunction "sentinel" ["name"] false
    [.giveOne (tagged (tableOf [])
      (tableOf [.field "__name" (name "name"),
        .field "__tostring" (lambda [] [.giveOne (name "name")])]))]

/-- `null`, `MinKey` and `MaxKey`. -/
def sentinels : Block :=
  sentinel :: ["null", "MinKey", "MaxKey"].map fun x =>
    .set x (callName "sentinel" [.string x])

/-- `coerce(v)` is the number a value compares as: a number itself, 0 for `null`, its
milliseconds for a date, 0 for an empty array and the number of its item for an array of one;
nil for all else. -/
def coerce : Stmt :=
  let v := name "v"
  let tag := field (name "meta") "__name"
  .localFunction "coerce" ["v"] false
    [.when (.eq (callName "type" [v]) (.string "number")) [.giveOne v],
      .when (callName "rawequal" [v, name "null"]) [.giveOne (.int 0)],
      .bind "meta" (callName "getmetatable" [v]),
      .when (.ne (callName "type" [name "meta"]) (.string "table")) [.giveOne .nil],
      .when (.eq tag (.string "Date")) [.giveOne (field v "ms")],
      .when (.eq tag (.string "Array"))
        [.branch (.eq v.length (.int 0)) [.giveOne (.int 0)]
          [.when (.eq v.length (.int 1))
            [.giveOne (callName "coerce" [v.item (.int 1)])]]],
      .giveOne .nil]

/-- `ordered(op)` compares by the numbers of both sides, and is false if one has none. -/
def ordered : Stmt :=
  .localFunction "ordered" ["op"] false
    [.giveOne (lambda ["a", "b"]
      [.declare [⟨"x", false⟩, ⟨"y", false⟩]
        [callName "coerce" [name "a"], callName "coerce" [name "b"]],
        .when (.or (.isNil (name "x")) (.isNil (name "y"))) [.giveOne (.boolean false)],
        .giveOne (callName "op" [name "x", name "y"])])]

private def comparison (op : BinaryOp) : Expr :=
  callName "ordered" [lambda ["x", "y"] [.giveOne (operation op (name "x") (name "y"))]]

/-- `less` and `less_equal`, which `null` compares by. -/
def comparisons : Block :=
  [coerce, ordered, .bind "less" (comparison .lt), .bind "less_equal" (comparison .le),
    .bind "null_meta" (callName "getmetatable" [name "null"]),
    .setField (name "null_meta") "__lt" (name "less"),
    .setField (name "null_meta") "__le" (name "less_equal")]

private def sameField (key : String) : Expr :=
  lambda ["a", "b"] [.giveOne (.eq (field (name "a") key) (field (name "b") key))]

private def getter (key : String) : Expr :=
  lambda ["self"] [.giveOne (field (name "self") key)]

/-- `Date(ms)`: milliseconds, as an integer if they are whole. -/
def dates : Block :=
  let type := name "DateType"
  let milliseconds := field (name "self") "ms"
  [.bind "DateType" (tableOf [.field "__name" (.string "Date")]),
    .setField type "__index" (tableOf [.field "getTime" (getter "ms")]),
    .setField type "__eq" (sameField "ms"),
    .setField type "__lt" (name "less"),
    .setField type "__le" (name "less_equal"),
    .setField type "__tostring" (lambda ["self"]
      [.giveOne (operation .concat (.string "Date(")
        (operation .concat (callName "tostring" [milliseconds]) (.string ")")))]),
    .define "Date" ["ms"]
      [.giveOne (tagged
        (tableOf [.field "ms"
          (.or ((field (name "math") "tointeger").apply [name "ms"]) (name "ms"))])
        type)]]

/-- `ObjectId(hex)`: 24 digits, in lower case. -/
def objectIds : Block :=
  let type := name "ObjectIdType"
  [.bind "ObjectIdType" (tableOf [.field "__name" (.string "ObjectId")]),
    .setField type "__index" (tableOf [.field "str" (getter "hex")]),
    .setField type "__eq" (sameField "hex"),
    .setField type "__tostring" (getter "hex"),
    .define "ObjectId" ["hex"]
      [.giveOne (tagged
        (tableOf [.field "hex" ((field (name "string") "lower").apply [name "hex"])]) type)]]

/-- `RegExp(pattern, options)`. -/
def patterns : Block :=
  let pattern := field (name "self") "pattern"
  let options := field (name "self") "options"
  [.bind "RegExpType" (tableOf
      [.field "__name" (.string "RegExp"),
        .field "__tostring" (lambda ["self"]
          [.giveOne (operation .concat (.string "/")
            (operation .concat pattern (operation .concat (.string "/") options)))])]),
    .define "RegExp" ["pattern", "options"]
      [.giveOne (tagged
        (tableOf [.field "pattern" (name "pattern"),
          .field "options" (orElse "options" (.string ""))])
        (name "RegExpType"))]]

/-- `BinData(subtype, bytes)`. -/
def binaries : Block :=
  [.bind "BinDataType" (tableOf [.field "__name" (.string "BinData")]),
    .define "BinData" ["subtype", "bytes"]
      [.giveOne (tagged
        (tableOf [.field "subtype" (name "subtype"), .field "bytes" (name "bytes")])
        (name "BinDataType"))]]

/-- `DBRef(collection, id, db)`. -/
def references : Block :=
  [.bind "DBRefType" (tableOf [.field "__name" (.string "DBRef")]),
    .define "DBRef" ["collection", "id", "db"]
      [.giveOne (tagged
        (tableOf [.field "$ref" (name "collection"), .field "$id" (name "id"),
          .field "$db" (name "db")])
        (name "DBRefType"))]]

/-- `Array(items)`, and `Array.sum(values)`, which adds the items up. -/
def arrays : Block :=
  [.bind "ArrayType" (tableOf
      [.field "__name" (.string "Array"), .field "__lt" (name "less"),
        .field "__le" (name "less_equal")]),
    .set "Array" (tagged
      (tableOf [.field "sum" (lambda ["values"]
        [.bind "total" (.int 0),
          .numericFor 0 "i" (.int 1) (name "values").length none
            [.set "total"
              (operation .add (name "total") ((name "values").item (name "i")))],
          .giveOne (name "total")])])
      (tableOf [.field "__call" (lambda ["_", "items"]
        [.giveOne (tagged (orElse "items" (tableOf [])) (name "ArrayType"))])]))]

/-- `Document(fields, keys)`, where `keys` gives the order of the fields. -/
def documents : Block :=
  [.define "Document" ["fields", "keys"]
    [.giveOne (tagged (orElse "fields" (tableOf []))
      (tableOf [.field "__name" (.string "Document"),
        .field "__keys" (orElse "keys" (tableOf []))]))]]

/-- `__bindings`, the variables of bound functions: `this` is the document at hand, its fields
come before globals of the same name, and writes go to the globals. -/
def bindings : Block :=
  [.bind "current" .nil,
    .set "__bindings" (tagged (tableOf [])
      (tableOf
        [.field "__index" (lambda ["_", "name"]
          [.when (.eq (name "name") (.string "this")) [.giveOne (name "current")],
            .when (.eq (callName "type" [name "current"]) (.string "table"))
              [.bind "field" (callName "rawget" [name "current", name "name"]),
                .when (.ne (name "field") .nil) [.giveOne (name "field")]],
            .giveOne ((name "_G").item (name "name"))]),
        .field "__newindex" (lambda ["_", "name", "value"]
          [.setIndex (name "_G") (name "name") (name "value")])]))]

/-- `__with_document(doc, fn, ...)` calls a function with a document at hand and takes up the
previous one again however the call ends. -/
def withDocument : Stmt :=
  .assign 0 [.name "__with_document"] [.function ["doc", "fn"] true
    [.bind "previous" (name "current"),
      .set "current" (name "doc"),
      .declare [⟨"ok", false⟩, ⟨"result", false⟩] [callName "pcall" [name "fn", .varargs]],
      .set "current" (name "previous"),
      .when (.unary 0 .not (name "ok")) [.call (callName "error" [name "result", .int 0])],
      .giveOne (name "result")]]

/-- All of it as one script, so that later parts see the local variables of earlier ones. -/
def script : Block :=
  sentinels ++ comparisons ++ dates ++ objectIds ++ patterns ++ binaries ++ references ++
    arrays ++ documents ++ bindings ++ [withDocument]

end Docbase.Script.Prelude
