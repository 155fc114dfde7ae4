import Docbase.Script.Numeral
import Docbase.Script.Token

/-!
Cutting script source into tokens. Blanks and comments separate tokens and are dropped. Where
no well-formed token follows, the tokens end with an invalid one.
-/
namespace Docbase.Script.Lexer

def isNameStart (c : Char) : Bool := c.isAlpha || c == '_'

def isNameChar (c : Char) : Bool := c.isAlphanum || c == '_'

/-! Texts in long brackets and comments. -/

/-- How many equals signs an opening long bracket has, after its first bracket. -/
def longLevel? (cs : List Char) : Option (Nat × List Char) :=
  let level := (cs.takeWhile (· == '=')).length
  match cs.drop level with
  | '[' :: rest => some (level, rest)
  | _ => none

/-- Whether a closing long bracket of a level follows, after its first bracket. -/
def closesLong? (level : Nat) (cs : List Char) : Option (List Char) :=
  if cs.take level = List.replicate level '=' then
    match cs.drop level with
    | ']' :: rest => some rest
    | _ => none
  else none

/-- A line break of one or two characters and what follows it. -/
def lineBreak? : List Char → Option (List Char)
  | '\r' :: '\n' :: rest | '\n' :: '\r' :: rest => some rest
  | '\r' :: rest | '\n' :: rest => some rest
  | _ => none

/-- How many line breaks there are. -/
def lineBreaks : List Char → Nat
  | [] => 0
  | '\r' :: '\n' :: rest | '\n' :: '\r' :: rest => lineBreaks rest + 1
  | c :: rest => if c = '\r' ∨ c = '\n' then lineBreaks rest + 1 else lineBreaks rest

/-- The inside of a long bracket; line breaks count as one newline. -/
def longBody (level : Nat) : Nat → List Char → Option (List Char × List Char)
  | 0, _ => none
  | _ + 1, [] => none
  | fuel + 1, c :: rest =>
    match if c = ']' then closesLong? level rest else none with
    | some rest => some ([], rest)
    | none =>
      match lineBreak? (c :: rest) with
      | some rest => (longBody level fuel rest).map fun (body, rest) => ('\n' :: body, rest)
      | none => (longBody level fuel rest).map fun (body, rest) => (c :: body, rest)

/-- What follows a line break right after the opening bracket, which is dropped. -/
def longStart (cs : List Char) : List Char := (lineBreak? cs).getD cs

/-- A text in long brackets with the number of lines it goes on for. -/
def longText (level fuel : Nat) (cs : List Char) : Option (List Char × Nat × List Char) :=
  let dropped := if (lineBreak? cs).isSome then 1 else 0
  (longBody level fuel (longStart cs)).map fun (body, rest) =>
    (body, dropped + body.count '\n', rest)

def lineEnd : List Char → List Char
  | [] => []
  | c :: rest => if c = '\n' ∨ c = '\r' then c :: rest else lineEnd rest

/-- How many lines a comment goes on for and what follows it, after its two hyphens. -/
def comment (fuel : Nat) (cs : List Char) : Option (Nat × List Char) :=
  match cs with
  | '[' :: rest =>
    match longLevel? rest with
    | some (level, rest) => (longText level fuel rest).map Prod.snd
    | none => some (0, lineEnd cs)
  | cs => some (0, lineEnd cs)

/-! Quoted texts. -/

def byte (n : Nat) : UInt8 := UInt8.ofNat n

/-- The bytes of a code given in braces, by the scheme of UTF-8 extended to 31 bits. -/
def codeBytes (n : Nat) : Bytes :=
  let tail (i : Nat) : UInt8 := byte (0x80 + n / pow2 (6 * i) % 64)
  if n < 0x80 then [byte n]
  else if n < 0x800 then [byte (0xC0 + n / 64), tail 0]
  else if n < 0x10000 then [byte (0xE0 + n / pow2 12), tail 1, tail 0]
  else if n < 0x200000 then [byte (0xF0 + n / pow2 18), tail 2, tail 1, tail 0]
  else if n < 0x4000000 then [byte (0xF8 + n / pow2 24), tail 3, tail 2, tail 1, tail 0]
  else [byte (0xFC + n / pow2 30), tail 4, tail 3, tail 2, tail 1, tail 0]

/-- The bytes of an escape, its line breaks, and what follows it, after the backslash. -/
def escape (cs : List Char) : Option (Bytes × Nat × List Char) :=
  match cs with
  | [] => none
  | 'a' :: rest => some ([7], 0, rest)
  | 'b' :: rest => some ([8], 0, rest)
  | 'f' :: rest => some ([12], 0, rest)
  | 'n' :: rest => some ([10], 0, rest)
  | 'r' :: rest => some ([13], 0, rest)
  | 't' :: rest => some ([9], 0, rest)
  | 'v' :: rest => some ([11], 0, rest)
  | '\\' :: rest => some ([0x5C], 0, rest)
  | '"' :: rest => some ([0x22], 0, rest)
  | '\'' :: rest => some ([0x27], 0, rest)
  | 'z' :: rest =>
    some ([], lineBreaks (rest.takeWhile Numeral.isBlank), rest.dropWhile Numeral.isBlank)
  | 'x' :: h :: l :: rest => do
    let high ← Hex.digitValue? h
    let low ← Hex.digitValue? l
    return ([byte (16 * high + low)], 0, rest)
  | 'u' :: '\x7b' :: rest =>
    let digits := rest.takeWhile Numeral.isHexDigit
    match rest.drop digits.length with
    | '\x7d' :: rest =>
      let n := Numeral.hexValue digits
      if digits.isEmpty || decide (pow2 31 ≤ n) then none else some (codeBytes n, 0, rest)
    | _ => none
  | cs =>
    match lineBreak? cs with
    | some rest => some ([10], 1, rest)
    | none =>
      let digits := (cs.take 3).takeWhile Char.isDigit
      let n := Numeral.decimalValue digits
      if digits.isEmpty || decide (255 < n) then none
      else some ([byte n], 0, cs.drop digits.length)

/-- The bytes of a quoted text up to its closing quote, its line breaks, and what follows the
quote. -/
def quoted (quote : Char) : Nat → List Char → Option (Bytes × Nat × List Char)
  | 0, _ => none
  | _ + 1, [] => none
  | fuel + 1, c :: rest =>
    if c = quote then some ([], 0, rest)
    else if c = '\n' ∨ c = '\r' then none
    else if c = '\\' then do
      let (bytes, lines, rest) ← escape rest
      let (body, more, rest) ← quoted quote fuel rest
      return (bytes ++ body, lines + more, rest)
    else do
      let (body, lines, rest) ← quoted quote fuel rest
      return (String.utf8EncodeChar c ++ body, lines, rest)

/-! Numerals, names and symbols. -/

/-- The characters that belong to a numeral: digits, points, and exponents with a sign. -/
def numeralBody (isMark : Char → Bool) : Nat → List Char → List Char × List Char
  | 0, cs => ([], cs)
  | _ + 1, [] => ([], [])
  | fuel + 1, c :: rest =>
    if isMark c then
      match rest with
      | s :: tail =>
        if s = '-' ∨ s = '+' then
          let (body, rest) := numeralBody isMark fuel tail
          (c :: s :: body, rest)
        else
          let (body, rest) := numeralBody isMark fuel rest
          (c :: body, rest)
      | [] => ([c], [])
    else if Numeral.isHexDigit c || c == '.' then
      let (body, rest) := numeralBody isMark fuel rest
      (c :: body, rest)
    else ([], c :: rest)

/-- A numeral may not touch a name. -/
def numeral (fuel : Nat) (cs : List Char) : Option (Token × List Char) :=
  let hex := (Numeral.hexBody? cs).isSome
  let isMark (c : Char) : Bool := if hex then c.toLower == 'p' else c.toLower == 'e'
  let lead := if hex then cs.take 2 else []
  let (body, rest) := numeralBody isMark fuel (cs.drop lead.length)
  if (rest.head?.map isNameStart).getD false then none
  else
    match Numeral.literal? (lead ++ body) with
    | some (.int n) => some (.int n, rest)
    | some (.double x) => some (.double x, rest)
    | none => none

def word (cs : List Char) : Token × List Char :=
  let name := String.ofList (cs.takeWhile isNameChar)
  let token :=
    match Keyword.ofText? name with
    | some k => .keyword k
    | none => .name name
  (token, cs.dropWhile isNameChar)

/-- The longest symbol that the characters start with. -/
def symbol? : List Char → Option (Symbol × List Char)
  | '.' :: '.' :: '.' :: rest => some (.dots, rest)
  | '.' :: '.' :: rest => some (.dotDot, rest)
  | '.' :: rest => some (.dot, rest)
  | '=' :: '=' :: rest => some (.equal, rest)
  | '=' :: rest => some (.assign, rest)
  | '~' :: '=' :: rest => some (.notEqual, rest)
  | '~' :: rest => some (.tilde, rest)
  | '<' :: '=' :: rest => some (.lessEqual, rest)
  | '<' :: '<' :: rest => some (.shiftLeft, rest)
  | '<' :: rest => some (.less, rest)
  | '>' :: '=' :: rest => some (.greaterEqual, rest)
  | '>' :: '>' :: rest => some (.shiftRight, rest)
  | '>' :: rest => some (.greater, rest)
  | '/' :: '/' :: rest => some (.slashSlash, rest)
  | '/' :: rest => some (.slash, rest)
  | ':' :: ':' :: rest => some (.colonColon, rest)
  | ':' :: rest => some (.colon, rest)
  | '+' :: rest => some (.plus, rest)
  | '-' :: rest => some (.minus, rest)
  | '*' :: rest => some (.star, rest)
  | '%' :: rest => some (.percent, rest)
  | '^' :: rest => some (.caret, rest)
  | '#' :: rest => some (.hash, rest)
  | '&' :: rest => some (.ampersand, rest)
  | '|' :: rest => some (.bar, rest)
  | '(' :: rest => some (.openParen, rest)
  | ')' :: rest => some (.closeParen, rest)
  | '\x7b' :: rest => some (.openBrace, rest)
  | '\x7d' :: rest => some (.closeBrace, rest)
  | '[' :: rest => some (.openBracket, rest)
  | ']' :: rest => some (.closeBracket, rest)
  | ';' :: rest => some (.semicolon, rest)
  | ',' :: rest => some (.comma, rest)
  | _ => none

def startsWithDigit (cs : List Char) : Bool := (cs.head?.map Char.isDigit).getD false

/-- The token that starts with a character that is neither blank nor part of a comment, and
how many lines it goes on for; the fuel is more than there are characters. -/
def next (fuel : Nat) (c : Char) (rest : List Char) : Option (Token × Nat × List Char) :=
  if isNameStart c then
    let (token, rest) := word (c :: rest)
    some (token, 0, rest)
  else if c.isDigit || (c == '.' && startsWithDigit rest) then
    (numeral fuel (c :: rest)).map fun (token, rest) => (token, 0, rest)
  else if c = '"' ∨ c = '\'' then
    (quoted c fuel rest).map fun (bytes, lines, rest) => (.text bytes, lines, rest)
  else
    match if c = '[' then longLevel? rest else none with
    | some (level, rest) =>
      (longText level fuel rest).map fun (body, lines, rest) =>
        (.text (Utf8.encodeChars body), lines, rest)
    | none =>
      -- A bracket with an equals sign opens a long text or nothing.
      if c = '[' ∧ rest.head? = some '=' then none
      else (symbol? (c :: rest)).map fun (s, rest) => (.symbol s, 0, rest)

/-- The tokens from a line on. -/
def tokensFrom : Nat → Nat → List Char → List Located
  | 0, _, _ => []
  | _ + 1, _, [] => []
  | fuel + 1, line, c :: rest =>
    match lineBreak? (c :: rest) with
    | some rest => tokensFrom fuel (line + 1) rest
    | none =>
      if Numeral.isBlank c then tokensFrom fuel line rest
      else
        match c, rest with
        | '-', '-' :: rest =>
          match comment (fuel + 1) rest with
          | some (lines, rest) => tokensFrom fuel (line + lines) rest
          | none => [(.invalid, line)]
        | c, rest =>
          match next (fuel + 1) c rest with
          | some (token, lines, rest) =>
            (token, line + lines) :: tokensFrom fuel (line + lines) rest
          | none => [(.invalid, line)]

end Docbase.Script.Lexer

namespace Docbase.Script

/-- All tokens of a source, whose lines count from 1. -/
def tokens (source : List Char) : List Located :=
  Lexer.tokensFrom (source.length + 1) 1 source

end Docbase.Script
