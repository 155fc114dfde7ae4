import Docbase.Unicode.Later

/-!
Text in quotes for messages. Quotes, backslashes and the usual control characters get a
backslash; all other characters that cannot be seen on their own are written by their code.
-/
namespace Docbase.Quoted

/-- Marks that belong to the character before them. Two signs of halfwidth kana stand alone. -/
def joining : Unicode.CharSet :=
  (Unicode.graphemeExtend.union Unicode.addedMarks).diff (.range 0xFF9E 0xFF9F)

/-- Characters without a glyph: controls, blanks, fillers and codes that no character has. -/
def invisible : Unicode.CharSet :=
  (Unicode.CharSet.unionAll
    [Unicode.inCategories ["cc", "cf", "co", "zs", "zl", "zp"], Unicode.unassigned,
      .ofText "115F-1160 3164 FFA0"]).diff Unicode.added

def char (c : Char) : List Char :=
  if c = '\x00' then ['\\', '0']
  else if c = '\t' then ['\\', 't']
  else if c = '\n' then ['\\', 'n']
  else if c = '\r' then ['\\', 'r']
  else if c = '"' then ['\\', '"']
  else if c = '\\' then ['\\', '\\']
  else if ' ' ≤ c ∧ c ≤ '~' then [c]
  else if joining.contains c.toNat || invisible.contains c.toNat then
    "\\u\x7b".toList ++ (Hex.ofNat c.toNat).toList ++ ['\x7d']
  else [c]

def quote (s : String) : String := "\"" ++ String.ofList (s.toList.flatMap char) ++ "\""

end Docbase.Quoted
