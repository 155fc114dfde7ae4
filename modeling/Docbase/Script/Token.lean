import Docbase.Binary64.Basic
import Docbase.Text.Utf8

/-!
The tokens of scripts.
-/
namespace Docbase.Script

inductive Keyword where
  | andK | breakK | doK | elseK | elseifK | endK | falseK | forK | functionK | gotoK | ifK | inK
  | localK | nilK | notK | orK | repeatK | returnK | thenK | trueK | untilK | whileK
  deriving DecidableEq, Repr

namespace Keyword

def ofText? (s : String) : Option Keyword :=
  match s with
  | "and" => some .andK
  | "break" => some .breakK
  | "do" => some .doK
  | "else" => some .elseK
  | "elseif" => some .elseifK
  | "end" => some .endK
  | "false" => some .falseK
  | "for" => some .forK
  | "function" => some .functionK
  | "goto" => some .gotoK
  | "if" => some .ifK
  | "in" => some .inK
  | "local" => some .localK
  | "nil" => some .nilK
  | "not" => some .notK
  | "or" => some .orK
  | "repeat" => some .repeatK
  | "return" => some .returnK
  | "then" => some .thenK
  | "true" => some .trueK
  | "until" => some .untilK
  | "while" => some .whileK
  | _ => none

end Keyword

inductive Symbol where
  | plus | minus | star | slash | slashSlash | percent | caret | hash
  | ampersand | tilde | bar | shiftLeft | shiftRight
  | equal | notEqual | lessEqual | greaterEqual | less | greater | assign
  | openParen | closeParen | openBrace | closeBrace | openBracket | closeBracket
  | colonColon | semicolon | colon | comma | dot | dotDot | dots
  deriving DecidableEq, Repr

inductive Token where
  | name (x : String)
  | keyword (k : Keyword)
  | symbol (s : Symbol)
  | int (n : Int64)
  | double (x : Binary64)
  | text (s : Bytes)
  /-- Where the source goes on with no token. -/
  | invalid
  deriving DecidableEq, Repr

/-- A token and the line it ends at. -/
abbrev Located := Token × Nat

end Docbase.Script
