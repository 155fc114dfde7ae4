import Docbase.Proofs.Script.NumberText

/-!
The tokens of pieces of source. A piece is read to its token whatever follows it, as long as
the next character does not go on with it, so the tokens of a text are those of its pieces.
-/
namespace Docbase.Script

/-- Tokens on a line. -/
def located (line : ℕ) (ts : List Token) : List Located := ts.map fun t => (t, line)

namespace Lexer

/-- Characters have these tokens on the line where they start, and then those of the lines
after it. -/
def LexesTo (line : ℕ) (after : List Located) (cs : List Char) (ts : List Token) : Prop :=
  ∀ fuel, cs.length < fuel → tokensFrom fuel line cs = located line ts ++ after

variable {line : ℕ} {after : List Located} {cs rest : List Char} {ts : List Token}

theorem LexesTo.tokens (h : LexesTo 1 after cs ts) : tokens cs = located 1 ts ++ after :=
  h _ (Nat.lt_succ_self _)

theorem lexesTo_nil : LexesTo line [] [] [] := by
  intro fuel hfuel
  obtain ⟨fuel, rfl⟩ := Nat.exists_eq_add_of_lt hfuel
  rfl

theorem lineBreak?_eq_none (c : Char) (cs : List Char) (hn : c ≠ '\n') (hr : c ≠ '\r') :
    lineBreak? (c :: cs) = none := by
  unfold lineBreak?
  split
  · next heq => exact absurd (List.cons.inj heq).1 hr
  · next heq => exact absurd (List.cons.inj heq).1 hn
  · next heq => exact absurd (List.cons.inj heq).1 hr
  · next heq => exact absurd (List.cons.inj heq).1 hn
  · rfl

theorem LexesTo.blank (h : LexesTo line after cs ts) : LexesTo line after (' ' :: cs) ts := by
  intro fuel hfuel
  obtain ⟨fuel, rfl⟩ := Nat.exists_eq_add_of_lt hfuel
  rw [tokensFrom.eq_def]
  dsimp only
  rw [lineBreak?_eq_none ' ' cs (by decide) (by decide)]
  simp only [show Numeral.isBlank ' ' = true from rfl, if_true]
  exact h _ (by simp only [List.length_cons]; omega)

/-- A character that starts a token: no blank, and no hyphen before another one. -/
structure Starts (c : Char) (cs : List Char) : Prop where
  notBlank : Numeral.isBlank c = false
  noComment : c = '-' → ∀ d ∈ cs.head?, d ≠ '-'

theorem LexesTo.token {c : Char} {t : Token} (hstart : Starts c cs)
    (hnext : ∀ fuel, cs.length + 1 < fuel → next fuel c cs = some (t, 0, rest))
    (hlength : rest.length ≤ cs.length) (h : LexesTo line after rest ts) :
    LexesTo line after (c :: cs) (t :: ts) := by
  have hbreak : lineBreak? (c :: cs) = none := by
    have hblank := hstart.notBlank
    refine lineBreak?_eq_none c cs ?_ ?_ <;> rintro rfl <;> simp [Numeral.isBlank] at hblank
  intro fuel hfuel
  obtain ⟨fuel, rfl⟩ := Nat.exists_eq_add_of_lt hfuel
  rw [tokensFrom.eq_def]
  dsimp only
  rw [hbreak]
  simp only [hstart.notBlank, Bool.false_eq_true, if_false]
  split
  · next d tail heq => exact absurd rfl (hstart.noComment rfl '-' rfl)
  · rw [hnext _ (by simp only [List.length_cons]; omega)]
    simp only [Nat.add_zero]
    rw [h _ (by simp only [List.length_cons]; omega)]
    rfl

/-! Symbols. -/

/-- The symbols that are one character whatever follows. -/
def single? : Char → Option Symbol
  | '(' => some .openParen
  | ')' => some .closeParen
  | '\x7b' => some .openBrace
  | '\x7d' => some .closeBrace
  | ']' => some .closeBracket
  | ',' => some .comma
  | _ => none

theorem single?_cases (c : Char) (s : Symbol) (h : single? c = some s) :
    (c, s) ∈ [('(', Symbol.openParen), (')', .closeParen), ('\x7b', .openBrace),
      ('\x7d', .closeBrace), (']', .closeBracket), (',', .comma)] := by
  unfold single? at h
  split at h <;> simp_all

theorem next_single (c : Char) (s : Symbol) (h : single? c = some s) (fuel : ℕ) :
    next fuel c cs = some (.symbol s, 0, cs) := by
  have hcases := single?_cases c s h
  simp only [List.mem_cons, Prod.mk.injEq, List.not_mem_nil, or_false] at hcases
  obtain ⟨rfl, rfl⟩ | ⟨rfl, rfl⟩ | ⟨rfl, rfl⟩ | ⟨rfl, rfl⟩ | ⟨rfl, rfl⟩ | ⟨rfl, rfl⟩ := hcases <;>
    rfl

theorem LexesTo.symbol {c : Char} {s : Symbol} (hs : single? c = some s)
    (h : LexesTo line after cs ts) : LexesTo line after (c :: cs) (.symbol s :: ts) := by
  refine LexesTo.token ⟨?_, ?_⟩ (fun fuel _ => next_single c s hs fuel) le_rfl h
  · exact (by decide : ∀ p ∈ [('(', Symbol.openParen), (')', .closeParen), ('\x7b', .openBrace),
      ('\x7d', .closeBrace), (']', .closeBracket), (',', .comma)], Numeral.isBlank p.1 = false)
      _ (single?_cases c s hs)
  · rintro rfl
    simp [single?] at hs

theorem LexesTo.minus (hcs : ∀ d ∈ cs.head?, d ≠ '-') (h : LexesTo line after cs ts) :
    LexesTo line after ('-' :: cs) (.symbol .minus :: ts) :=
  LexesTo.token ⟨rfl, fun _ => hcs⟩ (fun _ _ => rfl) le_rfl h

theorem LexesTo.slash (h : LexesTo line after ('0' :: cs) ts) :
    LexesTo line after ('/' :: '0' :: cs) (.symbol .slash :: ts) :=
  LexesTo.token ⟨rfl, nofun⟩ (fun _ _ => rfl) le_rfl h

theorem LexesTo.assign (h : LexesTo line after (' ' :: cs) ts) :
    LexesTo line after ('=' :: ' ' :: cs) (.symbol .assign :: ts) :=
  LexesTo.token ⟨rfl, nofun⟩ (fun _ _ => rfl) le_rfl h

/-- A point before a name starts no numeral. -/
theorem LexesTo.dot {c : Char} (hdigit : c.isDigit = false) (hdot : c ≠ '.')
    (h : LexesTo line after (c :: cs) ts) :
    LexesTo line after ('.' :: c :: cs) (.symbol .dot :: ts) := by
  refine LexesTo.token ⟨rfl, nofun⟩ (fun fuel _ => ?_) le_rfl h
  simp [next, startsWithDigit, hdigit, symbol?, hdot, isNameStart]

/-! Words. -/

theorem span_name (w rest : List Char) (hw : ∀ c ∈ w, isNameChar c = true)
    (hrest : ∀ c ∈ rest.head?, isNameChar c = false) :
    (w ++ rest).takeWhile isNameChar = w ∧ (w ++ rest).dropWhile isNameChar = rest := by
  induction w with
  | nil =>
    cases rest with
    | nil => simp
    | cons c rest => simp [hrest c rfl]
  | cons c w ih =>
    have hc := hw c List.mem_cons_self
    have htail := ih fun c' hc' => hw c' (List.mem_cons_of_mem _ hc')
    simp [hc, htail]

/-- The token of a word. -/
def wordToken (w : String) : Token :=
  match Keyword.ofText? w with
  | some k => .keyword k
  | none => .name w

/-- A name or a keyword. -/
structure IsWord (w : String) : Prop where
  start : ∀ c ∈ w.toList.head?, isNameStart c = true
  chars : ∀ c ∈ w.toList, isNameChar c = true
  nonempty : w.toList ≠ []

instance (w : String) : Decidable (IsWord w) :=
  decidable_of_iff (w.toList.head?.all isNameStart = true ∧ w.toList.all isNameChar = true ∧
      w.toList ≠ [])
    ⟨fun ⟨hs, hc, hn⟩ => ⟨(Option.all_eq_true _ _).mp hs, List.all_eq_true.mp hc, hn⟩,
      fun ⟨hs, hc, hn⟩ => ⟨(Option.all_eq_true _ _).mpr hs, List.all_eq_true.mpr hc, hn⟩⟩

theorem LexesTo.word {w : String} (hw : IsWord w)
    (hrest : ∀ c ∈ rest.head?, isNameChar c = false) (h : LexesTo line after rest ts) :
    LexesTo line after (w.toList ++ rest) (wordToken w :: ts) := by
  obtain ⟨c, tail, hcs⟩ := List.exists_cons_of_ne_nil hw.nonempty
  have hstart : isNameStart c = true := hw.start c (by rw [hcs]; rfl)
  have hspan := span_name w.toList rest hw.chars hrest
  have hblank : Numeral.isBlank c = false ∧ c ≠ '-' := by
    have hne (d : Char) (hd : isNameStart d = false) : c ≠ d := by
      rintro rfl
      simp [hd] at hstart
    simp only [Numeral.isBlank, Bool.or_eq_false_iff, beq_eq_false_iff_ne]
    exact ⟨⟨⟨⟨⟨⟨hne _ rfl, hne _ rfl⟩, hne _ rfl⟩, hne _ rfl⟩, hne _ rfl⟩, hne _ rfl⟩, hne _ rfl⟩
  have hword : Lexer.word (c :: (tail ++ rest)) = (wordToken w, rest) := by
    rw [← List.cons_append, ← hcs, Lexer.word, hspan.1, hspan.2, String.ofList_toList]
    rfl
  rw [hcs, List.cons_append]
  refine LexesTo.token ⟨hblank.1, fun hc => absurd hc hblank.2⟩ (fun fuel _ => ?_) ?_ h
  · rw [next, if_pos hstart, hword]
  · rw [List.length_append]
    omega

/-! Quoted texts. -/

theorem isDigit_digit (n : ℕ) (hn : n < 10) :
    (Literal.digit n).isDigit = true ∧ (Literal.digit n).toNat - '0'.toNat = n := by
  interval_cases n <;> decide

/-- Three digits after a backslash are the byte that they number. -/
theorem escape_digits (a b c : ℕ) (ha : a < 3) (hb : b < 10) (hc : c < 10)
    (hn : 100 * a + 10 * b + c < 256) :
    escape (Literal.digit a :: Literal.digit b :: Literal.digit c :: rest) =
      some ([UInt8.ofNat (100 * a + 10 * b + c)], 0, rest) := by
  obtain ⟨hdigitA, hvalueA⟩ := isDigit_digit a (by omega)
  obtain ⟨hdigitB, hvalueB⟩ := isDigit_digit b hb
  obtain ⟨hdigitC, hvalueC⟩ := isDigit_digit c hc
  have hdigits : ([Literal.digit a, Literal.digit b, Literal.digit c]).takeWhile Char.isDigit =
      [Literal.digit a, Literal.digit b, Literal.digit c] := by
    simp [hdigitA, hdigitB, hdigitC]
  have hvalue : Numeral.decimalValue [Literal.digit a, Literal.digit b, Literal.digit c] =
      100 * a + 10 * b + c := by
    simp only [Numeral.decimalValue, List.foldl_cons, List.foldl_nil, hvalueA, hvalueB, hvalueC]
    ring
  have hbound : ¬255 < 100 * a + 10 * b + c := by omega
  have hescape : escape (Literal.digit a :: Literal.digit b :: Literal.digit c :: rest) =
      (let digits := ([Literal.digit a, Literal.digit b, Literal.digit c]).takeWhile Char.isDigit
       let n := Numeral.decimalValue digits
       if digits.isEmpty || decide (255 < n) then none
       else some ([UInt8.ofNat n], 0,
        (Literal.digit a :: Literal.digit b :: Literal.digit c :: rest).drop digits.length)) := by
    interval_cases a <;> rfl
  rw [hescape, hdigits]
  simp [hvalue, hbound]

/-- A printable byte is a character of its own. -/
theorem quoted_printable (n : ℕ) (hlow : 0x20 ≤ n) (hhigh : n ≤ 0x7E) (hquote : n ≠ 0x22)
    (hslash : n ≠ 0x5C) (fuel : ℕ) (cs : List Char) :
    quoted '"' (fuel + 1) (Char.ofNat n :: cs) =
      (quoted '"' fuel cs).map fun (body, lines, rest) => (UInt8.ofNat n :: body, lines, rest) := by
  have hchar : Char.ofNat n ≠ '"' ∧ Char.ofNat n ≠ '\n' ∧ Char.ofNat n ≠ '\r' ∧
      Char.ofNat n ≠ '\\' ∧ String.utf8EncodeChar (Char.ofNat n) = [UInt8.ofNat n] := by
    interval_cases n <;> first | exact absurd rfl hquote | exact absurd rfl hslash | decide
  obtain ⟨hq, hn, hr, hs, hencode⟩ := hchar
  rw [quoted]
  simp only [hq, hn, hr, hs, or_self, if_false, hencode]
  cases quoted '"' fuel cs <;> rfl

theorem quoted_escapeByte (b : UInt8) (fuel : ℕ) (cs : List Char) :
    quoted '"' (fuel + 1) (Literal.escapeByte b ++ cs) =
      (quoted '"' fuel cs).map fun (body, lines, rest) => (b :: body, lines, rest) := by
  have hsize : b.toNat < 256 := b.toNat_lt
  unfold Literal.escapeByte
  split_ifs with hquote hslash hprintable
  · subst hquote
    cases h : quoted '"' fuel cs <;> simp [quoted, escape, h]
  · subst hslash
    cases h : quoted '"' fuel cs <;> simp [quoted, escape, h]
  · have hlow : 0x20 ≤ b.toNat := UInt8.le_iff_toNat_le.mp hprintable.1
    have hhigh : b.toNat ≤ 0x7E := UInt8.le_iff_toNat_le.mp hprintable.2
    have hne (k : UInt8) (hk : b ≠ k) : b.toNat ≠ k.toNat := fun h => hk (UInt8.toNat_inj.mp h)
    have hread := quoted_printable b.toNat hlow hhigh (hne _ hquote) (hne _ hslash) fuel cs
    rwa [UInt8.ofNat_toNat] at hread
  · have hdigits := @escape_digits cs (b.toNat / 100) (b.toNat / 10 % 10) (b.toNat % 10)
      (by omega) (by omega) (by omega) (by omega)
    rw [show 100 * (b.toNat / 100) + 10 * (b.toNat / 10 % 10) + b.toNat % 10 = b.toNat by omega,
      UInt8.ofNat_toNat] at hdigits
    cases h : quoted '"' fuel cs <;> simp [quoted, hdigits, h]

theorem length_escapeByte (b : UInt8) : 1 ≤ (Literal.escapeByte b).length := by
  unfold Literal.escapeByte
  split_ifs <;> simp

theorem quoted_bytes (bytes : Bytes) (rest : List Char) (fuel : ℕ) (hfuel : bytes.length < fuel) :
    quoted '"' fuel (bytes.flatMap Literal.escapeByte ++ '"' :: rest) = some (bytes, 0, rest) := by
  induction bytes generalizing fuel with
  | nil =>
    obtain ⟨fuel, rfl⟩ := Nat.exists_eq_add_of_lt hfuel
    simp [quoted]
  | cons b bytes ih =>
    obtain ⟨fuel, rfl⟩ : ∃ f, fuel = f + 1 := ⟨fuel - 1, by omega⟩
    rw [List.flatMap_cons, List.append_assoc, quoted_escapeByte,
      ih fuel (by simp only [List.length_cons] at hfuel; omega)]
    rfl

theorem length_escaped (bytes : Bytes) :
    bytes.length ≤ (bytes.flatMap Literal.escapeByte).length := by
  induction bytes with
  | nil => simp
  | cons b bytes ih =>
    have hb := length_escapeByte b
    rw [List.flatMap_cons, List.length_append, List.length_cons]
    omega

theorem LexesTo.quoted (bytes : Bytes) (h : LexesTo line after rest ts) :
    LexesTo line after (Literal.quoted bytes ++ rest) (.text bytes :: ts) := by
  have hlength := length_escaped bytes
  have hcs : Literal.quoted bytes ++ rest =
      '"' :: (bytes.flatMap Literal.escapeByte ++ '"' :: rest) := by
    simp [Literal.quoted]
  rw [hcs]
  refine LexesTo.token ⟨rfl, nofun⟩ (fun fuel hfuel => ?_) ?_ h
  · rw [List.length_append, List.length_cons] at hfuel
    have hquoted := quoted_bytes bytes rest fuel (by omega)
    have hnext : next fuel '"' (bytes.flatMap Literal.escapeByte ++ '"' :: rest) =
        (Lexer.quoted '"' fuel (bytes.flatMap Literal.escapeByte ++ '"' :: rest)).map
          fun (bytes, lines, rest) => (Token.text bytes, lines, rest) := rfl
    rw [hnext, hquoted]
    rfl
  · rw [List.length_append, List.length_cons]
    omega

/-- A bracket before a quote opens no long text. -/
theorem LexesTo.bracket (bytes : Bytes) (h : LexesTo line after rest ts) :
    LexesTo line after ('[' :: (Literal.quoted bytes ++ rest))
      (.symbol .openBracket :: .text bytes :: ts) := by
  have hquoted := h.quoted bytes
  have hcs : Literal.quoted bytes ++ rest =
      '"' :: (bytes.flatMap Literal.escapeByte ++ '"' :: rest) := by
    simp [Literal.quoted]
  rw [hcs] at hquoted ⊢
  exact LexesTo.token ⟨rfl, nofun⟩ (fun _ _ => rfl) le_rfl hquoted

/-! Numerals. -/

theorem LexesTo.numeral {whole : List Char} {fraction : Option (List Char)} {exponent : Option ℤ}
    (hn : Numeral.IsNumeral whole fraction) (n : Number)
    (hvalue : Numeral.signed? (Numeral.numeralText whole fraction exponent) = some n)
    (hends : Numeral.Ends rest) (h : LexesTo line after rest ts) :
    LexesTo line after (Numeral.numeralText whole fraction exponent ++ rest)
      (Numeral.token n :: ts) := by
  obtain ⟨c, tail, hcs⟩ := List.exists_cons_of_ne_nil (Numeral.numeralText_ne_nil hn exponent)
  have hdigit : c.isDigit = true := Numeral.isDigit_head hn exponent c (by rw [hcs]; rfl)
  have hclass : Numeral.isBlank c = false ∧ c ≠ '-' ∧ isNameStart c = false :=
    Numeral.forall_isDigit
      (fun c => Numeral.isBlank c = false ∧ c ≠ '-' ∧ isNameStart c = false) (by decide) c hdigit
  have hread (fuel : ℕ) (hfuel : (tail ++ rest).length + 1 < fuel) :
      next fuel c (tail ++ rest) = some (Numeral.token n, 0, rest) := by
    have hlength : (Numeral.numeralText whole fraction exponent).length < fuel := by
      rw [hcs, List.length_cons]
      rw [List.length_append] at hfuel
      omega
    have hnumeral := Numeral.lexer_numeral hn exponent fuel hlength rest hends
    rw [hvalue, hcs, List.cons_append] at hnumeral
    simp [next, hclass.2.2, hdigit, hnumeral]
  rw [hcs, List.cons_append]
  exact LexesTo.token ⟨hclass.1, fun hc => absurd hc hclass.2.1⟩ hread
    (by rw [List.length_append]; omega) h

end Lexer

end Docbase.Script
