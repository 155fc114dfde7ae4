import Docbase.Unicode.Age
import Docbase.Unicode.Folding
import Docbase.Unicode.ScriptExtension
import Docbase.Unicode.Segmentation

/-!
Sets of characters by the names that the Unicode standard gives them. Names are compared without
regard to case, blanks, hyphens and underscores, and without a leading `is`.
-/
namespace Docbase.Unicode

private def isSeparator (c : Char) : Bool := c == ' ' || c == '_' || c == '-'

/-- A name as the tables have it. Characters beyond ASCII do not count, and `isc` is a name of
its own. -/
def normalizeName (name : List Char) : String :=
  let plain (cs : List Char) : List Char :=
    (cs.filter fun c => decide (c.toNat < 0x80) && !isSeparator c).map Char.toLower
  match name with
  | 'i' :: 's' :: rest | 'i' :: 'S' :: rest | 'I' :: 's' :: rest | 'I' :: 'S' :: rest =>
    if plain rest = ['c'] then "isc" else String.ofList (plain rest)
  | cs => String.ofList (plain cs)

/-- The categories that a group of categories unites. -/
private def categoryGroup? (name : String) : Option (List String) :=
  match name with
  | "l" | "letter" => some ["lu", "ll", "lt", "lm", "lo"]
  | "lc" | "casedletter" => some ["lu", "ll", "lt"]
  | "m" | "mark" | "combiningmark" => some ["mn", "mc", "me"]
  | "n" | "number" => some ["nd", "nl", "no"]
  | "p" | "punctuation" | "punct" => some ["pc", "pd", "ps", "pe", "pi", "pf", "po"]
  | "s" | "symbol" => some ["sm", "sc", "sk", "so"]
  | "z" | "separator" => some ["zs", "zl", "zp"]
  | _ => none

/-- Surrogates are no characters, so there is no category of them. -/
def category? (name : String) : Option CharSet :=
  match name with
  | "any" => some .all
  | "ascii" => some (.range 0 0x7F)
  | "assigned" => some unassigned.complement
  | "cn" | "unassigned" => some unassigned
  | "c" | "other" => some ((inCategories ["cc", "cf", "co"]).union unassigned)
  | _ => (categoryGroup? name).map inCategories <|> lookUp categories name

def script? (name : String) : Option CharSet := lookUp scripts name

/-- The characters that a script is written with: those given to it in the table, and of its own
ones those that the table does not mention. -/
def scriptExtension? (name : String) : Option CharSet :=
  (scripts.find? fun row => row.1.contains name).map fun row =>
    let (mine, others) := scriptExtensions.partition fun ext => row.1.any ext.1.contains
    let sets := CharSet.unionAll (mine.map fun ext => CharSet.ofText ext.2)
    let elsewhere := CharSet.unionAll (others.map fun ext => CharSet.ofText ext.2)
    ((CharSet.ofText row.2).diff elsewhere).union sets

/-- The characters of a version of the standard and of those before it. -/
def age? (name : String) : Option CharSet :=
  let earlier := ages.takeWhile fun row => !row.1.contains name
  (lookUp ages name).map fun s =>
    s.union (.unionAll (earlier.map fun row => CharSet.ofText row.2))

/-- A property, a category or a script. Three short names of properties mean a category. -/
def named? (name : String) : Option CharSet :=
  let property := if name = "cf" ∨ name = "sc" ∨ name = "lc" then none else property? name
  property <|> category? name <|> script? name

/-- A value of a property with values, such as `script=greek`. -/
def valued? (property value : String) : Option CharSet :=
  match property with
  | "gc" | "generalcategory" => category? value
  | "sc" | "script" => script? value
  | "scx" | "scriptextensions" => scriptExtension? value
  | "age" => age? value
  | "gcb" | "graphemeclusterbreak" => graphemeBreak? value
  | "wb" | "wordbreak" => wordBreak? value
  | "sb" | "sentencebreak" => sentenceBreak? value
  | _ => none

def whiteSpace : CharSet := having "wspace"

def decimalDigits : CharSet := inCategories ["nd"]

/-- Letters, marks, decimal digits, connectors and joiners. -/
def wordCharacters : CharSet :=
  .unionAll [alphabetic, marks, decimalDigits, inCategories ["pc"], having "joinc"]

private def readGroup (cs : List Char) : List Nat :=
  let (done, current) := cs.foldl (fun (state : List Nat × Nat) c =>
    if c = '=' then (state.2 :: state.1, 0)
    else (state.1, 16 * state.2 + (Hex.digitValue? c).getD 0)) ([], 0)
  (current :: done).reverse

/-- Groups of characters that differ in case only. -/
def caseOrbits : List (List Nat) :=
  (caseGroups.toList.splitBy fun _ c => c != ' ' && c != '\n').filterMap fun group =>
    let letters := group.filter fun c => c != ' ' && c != '\n'
    if letters.isEmpty then none else some (readGroup letters)

/-- The members of a set and all characters that differ from one in case only. -/
def CharSet.folded (s : CharSet) : CharSet :=
  let touched := caseOrbits.filter fun g => g.any s.contains && !g.all s.contains
  if touched.isEmpty then s else s.union (.ofCodes touched.flatten)

end Docbase.Unicode
