import Docbase.Script.Numeral
import Docbase.Text.Json

/-!
The settings of a database. As JSON they are an object with any of the settings, where names
that are no settings are passed over, or an array of the settings in order.
-/
namespace Docbase

structure Settings where
  /-- The name that results of jobs give for the database. -/
  name : String := "test"
  /-- How many bytes of calls go into one unit of script. -/
  scriptBatchChars : Nat := 65536
  deriving DecidableEq, Repr

namespace Settings

def text? : Json → Option String
  | .string s => s
  | _ => none

/-- A whole number of 64 bits. -/
def count? : Json → Option Nat
  | .number text =>
    let digits := text.toList
    if digits.all Char.isDigit then
      let n := Script.Numeral.decimalValue digits
      if n < pow2 64 then some n else none
    else none
  | _ => none

/-- The settings read so far. -/
structure Draft where
  name : Option String
  scriptBatchChars : Option Nat

/-- Takes one field of an object; a setting may be given only once. -/
def Draft.add (p : Draft) (key : Option String) (value : Json) : Option Draft := do
  match ← key with
  | "name" => if p.name.isSome then none else return { p with name := some (← text? value) }
  | "script_batch_chars" =>
    if p.scriptBatchChars.isSome then none
    else return { p with scriptBatchChars := some (← count? value) }
  | _ => return p

def Draft.settings (p : Draft) : Settings :=
  let unset : Settings := {}
  ⟨p.name.getD unset.name, p.scriptBatchChars.getD unset.scriptBatchChars⟩

def ofJson? : Json → Option Settings
  | .object fields => do
    let p ← fields.foldlM (fun (p : Draft) field => p.add field.1 field.2) ⟨none, none⟩
    return p.settings
  | .array [] => some {}
  | .array [name] => do return { name := ← text? name }
  | .array [name, count] => do return ⟨← text? name, ← count? count⟩
  | _ => none

def parse? (text : String) : Option Settings := do ofJson? (← Json.parse? text)

end Settings

end Docbase
