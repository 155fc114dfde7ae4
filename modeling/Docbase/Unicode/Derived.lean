import Docbase.Unicode.Category
import Docbase.Unicode.CharSet
import Docbase.Unicode.Property

/-!
Sets of characters that follow from the categories and the basic properties by a rule.
-/
namespace Docbase.Unicode

/-- The row of a table that has a name. -/
def lookUp (table : List (List String × String)) (name : String) : Option CharSet :=
  (table.find? fun row => row.1.contains name).map fun row => CharSet.ofText row.2

def surrogates : CharSet := .range 0xD800 0xDFFF

/-- The code points of some categories, given by their short names. -/
def inCategories (names : List String) : CharSet :=
  .unionAll (names.map fun name => (lookUp categories name).getD .empty)

/-- The code points with a basic property. -/
def having (name : String) : CharSet := (lookUp properties name).getD .empty

/-- Code points that no character has; surrogates are not counted. -/
def unassigned : CharSet :=
  (CharSet.unionAll (surrogates :: categories.map fun row => CharSet.ofText row.2)).complement

def letters : CharSet := inCategories ["lu", "ll", "lt", "lm", "lo"]

def marks : CharSet := inCategories ["mn", "mc", "me"]

def lowercase : CharSet := (inCategories ["ll"]).union (having "olower")

def uppercase : CharSet := (inCategories ["lu"]).union (having "oupper")

def alphabetic : CharSet := .unionAll [letters, inCategories ["nl"], having "oalpha"]

def math : CharSet := (inCategories ["sm"]).union (having "omath")

def cased : CharSet := .unionAll [lowercase, uppercase, inCategories ["lt"]]

/-- Letters with marks, signs and punctuation that may stand inside a word. -/
def caseIgnorable : CharSet :=
  (inCategories ["mn", "me", "cf", "lm", "sk"]).union
    (.ofText "27 2E 3A B7 387 55F 5F4 2018-2019 2024 2027 FE13 FE52 FE55 FF07 FF0E FF1A")

private def patternCharacters : CharSet := (having "patsyn").union (having "patws")

def idStart : CharSet :=
  (CharSet.unionAll [letters, inCategories ["nl"], having "oids"]).diff patternCharacters

def idContinue : CharSet :=
  (CharSet.unionAll
    [idStart, inCategories ["mn", "mc", "nd", "pc"], having "oidc"]).diff patternCharacters

/-- Characters whose compatible forms would not continue a name. -/
private def incompatible : CharSet :=
  .ofText "37A 309B-309C FC5E-FC63 FDFA-FDFB FE70 FE72 FE74 FE76 FE78 FE7A FE7C FE7E"

def xidStart : CharSet :=
  (idStart.diff incompatible).diff (.ofText "E33 EB3 FF9E-FF9F")

def xidContinue : CharSet := idContinue.diff incompatible

/-- Marks that belong to the character before them. -/
def graphemeExtend : CharSet := (inCategories ["mn", "me"]).union (having "ogrext")

def graphemeBase : CharSet :=
  (CharSet.unionAll [inCategories ["cc", "cf", "co", "zl", "zp"], surrogates, unassigned,
    graphemeExtend]).complement

/-- Characters that are not shown where a font lacks them. -/
def defaultIgnorable : CharSet :=
  (CharSet.unionAll [having "odi", inCategories ["cf"], having "vs"]).diff
    (.unionAll [having "wspace", having "pcm", .ofText "FFF9-FFFB 13430-13440"])

/-- Digraphs in the case of titles change in upper case, those in upper case in that of titles;
Georgian letters have no case for titles. -/
def changesWhenTitlecased : CharSet :=
  ((having "cwu").diff
    (.ofText "1C5 1C8 1CB 1F2 10D0-10FA 10FD-10FF 1F88-1F8F 1F98-1F9F 1FA8-1FAF 1FBC 1FCC
      1FFC")).union (.ofText "1C4 1C7 1CA 1F1")

/-- Beside what changes in lower case, variants of small letters; Cherokee folds to capitals. -/
def changesWhenCasefolded : CharSet :=
  ((having "cwl").diff (.ofText "13A0-13F5")).union
    (.ofText "B5 DF 149 17F 345 3C2 3D0-3D1 3D5-3D6 3F0-3F1 3F5 587 13F8-13FD 1C80-1C88
      1E9A-1E9B 1F80-1F87 1F90-1F97 1FA0-1FA7 1FB2-1FB4 1FB7 1FC2-1FC4 1FC7 1FF2-1FF4 1FF7
      AB70-ABBF FB00-FB06 FB13-FB17")

def changesWhenCasemapped : CharSet :=
  .unionAll [having "cwl", having "cwu", changesWhenTitlecased]

/-- A derived property by a name of it, in lower case and without separators. -/
def derived? (name : String) : Option CharSet :=
  match name with
  | "alpha" | "alphabetic" => some alphabetic
  | "lower" | "lowercase" => some lowercase
  | "upper" | "uppercase" => some uppercase
  | "math" => some math
  | "cased" => some cased
  | "ci" | "caseignorable" => some caseIgnorable
  | "ids" | "idstart" => some idStart
  | "idc" | "idcontinue" => some idContinue
  | "xids" | "xidstart" => some xidStart
  | "xidc" | "xidcontinue" => some xidContinue
  | "grext" | "graphemeextend" => some graphemeExtend
  | "grbase" | "graphemebase" => some graphemeBase
  | "di" | "defaultignorablecodepoint" => some defaultIgnorable
  | "cwt" | "changeswhentitlecased" => some changesWhenTitlecased
  | "cwcf" | "changeswhencasefolded" => some changesWhenCasefolded
  | "cwcm" | "changeswhencasemapped" => some changesWhenCasemapped
  | _ => none

def property? (name : String) : Option CharSet := derived? name <|> lookUp properties name

end Docbase.Unicode
