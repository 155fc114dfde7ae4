import Docbase.Proofs.MapReduce.Calls
import Docbase.Proofs.Script.Printable

/-!
The text of a call. Whatever the document holds, the call that maps it is one line of printable
ASCII, and each text that it quotes is read back as one token.
-/
namespace Docbase.MapReduce

open Script

/-- The line of a call. -/
def callLine (d : Document) : String :=
  "__with_document(" ++ Literal.document d ++ ", " ++ mapName ++ ")"

theorem mapCall_eq (d : Document) : mapCall d = callLine d ++ "\n" := by
  have hend : ")\n" = ")" ++ "\n" := by decide
  unfold mapCall callLine
  rw [hend]
  exact String.append_assoc.symm

theorem printable_callLine (d : Document) : Printable (callLine d).toList := by
  have hliteral := Literal.printable_document d
  unfold callLine
  simp only [String.toList_append, printable_append]
  exact ⟨⟨⟨⟨by decide, hliteral⟩, by decide⟩, by decide⟩, by decide⟩

theorem utf8ByteSize_mapCall (d : Document) : (mapCall d).utf8ByteSize = (mapCall d).length := by
  rw [mapCall_eq, String.utf8ByteSize_append, (printable_callLine d).utf8ByteSize,
    String.length_append]
  rfl

/-- A quoted text is one token of the bytes that were quoted, and the tokens after it are those of
what follows; literals and calls are printable, so their sizes in bytes are their lengths. -/
theorem literals_inescapable :
    (∀ (bytes : Bytes) (line : ℕ) (rest : List Char),
      Lexer.tokensFrom ((Literal.quoted bytes ++ rest).length + 1) line
          (Literal.quoted bytes ++ rest) =
        (.text bytes, line) :: Lexer.tokensFrom (rest.length + 1) line rest) ∧
      (∀ v : Value, Printable (Literal.value v).toList ∧
        (Literal.value v).utf8ByteSize = (Literal.value v).length) ∧
      (∀ d : Document, Printable (Literal.document d).toList ∧
        (Literal.document d).utf8ByteSize = (Literal.document d).length) ∧
      ∀ d : Document, (∃ line : String, mapCall d = line ++ "\n" ∧ Printable line.toList) ∧
        (mapCall d).utf8ByteSize = (mapCall d).length := by
  refine ⟨?_, ?_, ?_, ?_⟩
  · intro bytes line rest
    exact Lexer.tokensFrom_quoted line bytes rest
  · intro v
    have hprintable := Literal.printable_value v
    exact ⟨hprintable, hprintable.utf8ByteSize⟩
  · intro d
    have hprintable := Literal.printable_document d
    exact ⟨hprintable, hprintable.utf8ByteSize⟩
  · intro d
    exact ⟨⟨callLine d, mapCall_eq d, printable_callLine d⟩, utf8ByteSize_mapCall d⟩

end Docbase.MapReduce
