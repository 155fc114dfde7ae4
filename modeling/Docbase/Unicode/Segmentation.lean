import Docbase.Unicode.Derived
import Docbase.Unicode.Script

/-!
How characters stand to the borders of what readers take for one character, of words and of
sentences. A value of each of the three properties is given by a name in lower case and without
separators; characters with no value of a property are in none of its sets.
-/
namespace Docbase.Unicode

private def hangulSyllables : CharSet := .range 0xAC00 0xD7A3

/-- Syllables without a final consonant: every twenty-eighth. -/
private def openSyllables : CharSet :=
  .ofRanges ((List.range 399).map fun i => (0xAC00 + 28 * i, 0xAC00 + 28 * i))

/-- The parts that a character seen as one is made of. -/
def graphemeBreak? (name : String) : Option CharSet :=
  let joining := graphemeExtend.union (having "emod")
  match name with
  | "cr" => some (.single 0x0D)
  | "lf" => some (.single 0x0A)
  | "cn" | "control" =>
    some ((CharSet.unionAll
      [inCategories ["zl", "zp", "cc", "cf"], unassigned.inter defaultIgnorable]).diff
      (.unionAll [.ofText "A D 200C-200D", having "pcm", graphemeExtend]))
  | "ex" | "extend" => some joining
  | "zwj" => some (.single 0x200D)
  | "ri" | "regionalindicator" => some (having "ri")
  | "pp" | "prepend" =>
    some ((having "pcm").union
      (.ofText "D4E 111C2-111C3 113D1 1193F 11941 11A3A 11A84-11A89 11D46 11F02"))
  | "sm" | "spacingmark" =>
    some (((inCategories ["mc"]).union (.ofText "E33 EB3")).diff
      (joining.union (.ofText "102B-102C 1038 1062-1064 1067-106D 1083 1087-108C 108F 109A-109C
        1A61 1A63-1A64 AA7B AA7D 11720-11721")))
  | "l" => some (.ofText "1100-115F A960-A97C")
  | "v" => some (.ofText "1160-11A7 D7B0-D7C6 16D63 16D67-16D6A")
  | "t" => some (.ofText "11A8-11FF D7CB-D7FB")
  | "lv" => some openSyllables
  | "lvt" => some (hangulSyllables.diff openSyllables)
  | _ => none

private def fullStops : CharSet := .ofText "2E 2024 FE52 FF0E"

private def sentenceExtend : CharSet :=
  .unionAll [graphemeExtend, inCategories ["mc"], .single 0x200D]

private def sentenceLower : CharSet :=
  (lowercase.diff graphemeExtend).diff (.ofText "10D0-10FA 10FD-10FF")

private def sentenceUpper : CharSet :=
  ((inCategories ["lt"]).union uppercase).diff (.ofText "1C90-1CBA 1CBD-1CBF")

def sentenceBreak? (name : String) : Option CharSet :=
  match name with
  | "cr" => some (.single 0x0D)
  | "lf" => some (.single 0x0A)
  | "ex" | "extend" => some sentenceExtend
  | "se" | "sep" => some (.ofText "85 2028-2029")
  | "fo" | "format" => some ((inCategories ["cf"]).diff sentenceExtend)
  | "sp" => some ((having "wspace").diff (.ofText "A D 85 2028-2029"))
  | "lo" | "lower" => some sentenceLower
  | "up" | "upper" => some sentenceUpper
  | "le" | "oletter" =>
    some ((alphabetic.union (.single 0x5F3)).diff
      (.unionAll [sentenceLower, sentenceUpper, sentenceExtend]))
  | "nu" | "numeric" => some ((inCategories ["nd"]).union (.ofText "66B-66C 19DA"))
  | "at" | "aterm" => some fullStops
  | "sc" | "scontinue" =>
    some (.ofText "2C-2D 3A-3B 37E 55D 60C-60D 7F8 1802 1808 2013-2014 3001 FE10-FE11 FE13-FE14
      FE31-FE32 FE50-FE51 FE54-FE55 FE58 FE63 FF0C-FF0D FF1A-FF1B FF64")
  | "st" | "sterm" => some ((having "sterm").diff fullStops)
  | "cl" | "close" =>
    some ((inCategories ["ps", "pe", "pi", "pf"]).union
      (.ofText "22 27 275B-2760 2E00-2E01 2E06-2E08 2E0B 1F676-1F678"))
  | _ => none

private def joinedWords : CharSet :=
  (CharSet.unionAll [graphemeExtend, inCategories ["mc"], having "emod"]).diff
    (.single 0x200D)

private def katakana : CharSet :=
  ((lookUp scripts "kana").getD .empty).union
    (.ofText "3031-3035 309B-309C 30A0 30FC FF70")

private def hebrewLetters : CharSet :=
  ((lookUp scripts "hebr").getD .empty).inter (inCategories ["lo"])

/-- Letters of scripts whose words are found by a dictionary. -/
private def undividedLetters : CharSet :=
  .ofText "E01-E30 E32-E33 E40-E46 E81-E82 E84 E86-E8A E8C-EA3 EA5 EA7-EB0 EB2-EB3 EBD EC0-EC4
    EC6 EDC-EDF 1000-102A 103F 1050-1055 105A-105D 1061 1065-1066 106E-1070 1075-1081 108E
    1780-17B3 17D7 17DC 1950-196D 1970-1974 1980-19AB 19B0-19C9 1A20-1A54 1AA7 A9E0-A9E4
    A9E6-A9EF A9FA-A9FE AA60-AA76 AA7A AA7E-AAAF AAB1 AAB5-AAB6 AAB9-AABD AAC0 AAC2 AADB-AADD
    11700-1171A 11740-11746"

private def numericSigns : CharSet := .ofText "600-605 66B 6DD 890-891 8E2 19DA 110BD 110CD"

def wordBreak? (name : String) : Option CharSet :=
  match name with
  | "cr" => some (.single 0x0D)
  | "lf" => some (.single 0x0A)
  | "nl" | "newline" => some (.ofText "B-C 85 2028-2029")
  | "extend" => some joinedWords
  | "zwj" => some (.single 0x200D)
  | "fo" | "format" =>
    some ((inCategories ["cf"]).diff
      (.unionAll [.ofText "70F 200B-200D", joinedWords, numericSigns]))
  | "ka" | "katakana" => some katakana
  | "hl" | "hebrewletter" => some hebrewLetters
  | "nu" | "numeric" => some ((inCategories ["nd"]).union numericSigns)
  | "ex" | "extendnumlet" => some ((inCategories ["pc"]).union (.single 0x202F))
  | "le" | "aletter" =>
    some (CharSet.union
      (alphabetic.diff (.unionAll [having "ideo", katakana, joinedWords, hebrewLetters,
        (lookUp scripts "hira").getD .empty, undividedLetters]))
      (.ofText "B8 2C2-2C5 2D2-2D7 2DE-2DF 2E5-2EB 2ED 2EF-2FF 55A-55C 55E 58A 5F3 70F A708-A716
        A720-A721 A789-A78A AB5B"))
  | "ml" | "midletter" => some (.ofText "3A B7 387 55F 5F4 2027 FE13 FE55 FF1A")
  | "mn" | "midnum" =>
    some (.ofText "2C 3B 37E 589 60C-60D 66C 7F8 2044 FE50 FE54 FF0C FF1B")
  | "mb" | "midnumlet" => some (.ofText "2E 2018-2019 2024 FE52 FF07 FF0E")
  | "sq" | "singlequote" => some (.single 0x27)
  | "dq" | "doublequote" => some (.single 0x22)
  | "wsegspace" => some (.ofText "20 1680 2000-2006 2008-200A 205F 3000")
  | "ri" | "regionalindicator" => some (having "ri")
  | _ => none

end Docbase.Unicode
