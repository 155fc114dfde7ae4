import Docbase.Proofs.Script.Lexing

/-!
The fuel of the lexer. No reader leaves more characters than it was given, so with more fuel than
there are characters the tokens do not depend on the fuel, and those after a piece of source are
the tokens of what follows it.
-/
namespace Docbase.Script.Lexer

variable {level fuel line lines : ℕ} {c : Char} {cs rest body : List Char} {bytes : Bytes}
variable {token : Token}

/-! What a reader leaves. -/

theorem length_lineBreak? (h : lineBreak? cs = some rest) : rest.length < cs.length := by
  unfold lineBreak? at h
  split at h <;> simp only [Option.some.injEq, reduceCtorEq] at h
  all_goals
    subst h
    simp only [List.length_cons]
    omega

theorem length_closesLong? (h : closesLong? level cs = some rest) : rest.length ≤ cs.length := by
  unfold closesLong? at h
  split_ifs at h
  split at h
  · next tail heq =>
    have hlength := congrArg List.length heq
    rw [Option.some.injEq] at h
    subst h
    rw [List.length_drop, List.length_cons] at hlength
    omega
  · contradiction

theorem length_longLevel? (h : longLevel? cs = some (level, rest)) : rest.length ≤ cs.length := by
  unfold longLevel? at h
  dsimp only at h
  split at h
  · next tail heq =>
    have hlength := congrArg List.length heq
    rw [Option.some.injEq, Prod.mk.injEq] at h
    rw [← h.2]
    rw [List.length_drop, List.length_cons] at hlength
    omega
  · contradiction

theorem length_longBody (h : longBody level fuel cs = some (body, rest)) :
    rest.length ≤ cs.length := by
  induction fuel generalizing cs body rest with
  | zero => simp [longBody] at h
  | succ fuel ih =>
    cases cs with
    | nil => simp [longBody] at h
    | cons c tail =>
      rw [longBody] at h
      split at h
      · next closed hclose =>
        split_ifs at hclose
        have hclosed := length_closesLong? hclose
        rw [Option.some.injEq, Prod.mk.injEq] at h
        rw [← h.2, List.length_cons]
        omega
      · split at h
        · next next hbreak =>
          have hnext := length_lineBreak? hbreak
          obtain ⟨⟨inner, after⟩, hinner, heq⟩ := Option.map_eq_some_iff.mp h
          have hafter := ih hinner
          rw [Prod.mk.injEq] at heq
          rw [← heq.2]
          omega
        · obtain ⟨⟨inner, after⟩, hinner, heq⟩ := Option.map_eq_some_iff.mp h
          have hafter := ih hinner
          rw [Prod.mk.injEq] at heq
          rw [← heq.2, List.length_cons]
          omega

theorem length_longStart (cs : List Char) : (longStart cs).length ≤ cs.length := by
  unfold longStart
  cases hbreak : lineBreak? cs with
  | none => rfl
  | some rest => exact (length_lineBreak? hbreak).le

theorem length_longText (h : longText level fuel cs = some (body, lines, rest)) :
    rest.length ≤ cs.length := by
  obtain ⟨⟨inner, after⟩, hinner, heq⟩ := Option.map_eq_some_iff.mp h
  have hafter := length_longBody hinner
  have hstart := length_longStart cs
  simp only [Prod.mk.injEq] at heq
  rw [← heq.2.2]
  omega

theorem length_lineEnd (cs : List Char) : (lineEnd cs).length ≤ cs.length := by
  induction cs with
  | nil => rfl
  | cons c cs ih =>
    rw [lineEnd]
    split_ifs
    · rfl
    · rw [List.length_cons]
      omega

theorem length_comment (h : comment fuel cs = some (lines, rest)) : rest.length ≤ cs.length := by
  have hend := length_lineEnd cs
  unfold comment at h
  split at h
  · next tail =>
    split at h
    · next level after hlevel =>
      have hafter := length_longLevel? hlevel
      obtain ⟨⟨inner, broken, found⟩, hinner, heq⟩ := Option.map_eq_some_iff.mp h
      have hfound := length_longText hinner
      have hrest : found = rest := congrArg Prod.snd heq
      rw [hrest] at hfound
      rw [List.length_cons]
      omega
    · rw [Option.some.injEq, Prod.mk.injEq] at h
      rwa [← h.2]
  · rw [Option.some.injEq, Prod.mk.injEq] at h
    rwa [← h.2]

theorem length_escape (h : escape cs = some (bytes, lines, rest)) : rest.length ≤ cs.length := by
  unfold escape at h
  split at h
  case h_1 => contradiction
  case h_12 tail =>
    simp only [Option.some.injEq, Prod.mk.injEq] at h
    have hdrop : (tail.dropWhile Numeral.isBlank).length ≤ tail.length :=
      (List.dropWhile_suffix Numeral.isBlank).length_le
    rw [← h.2.2, List.length_cons]
    omega
  case h_13 tail =>
    obtain ⟨high, hhigh, h⟩ := Option.bind_eq_some_iff.mp h
    obtain ⟨low, hlow, h⟩ := Option.bind_eq_some_iff.mp h
    simp only [Option.pure_def, Option.some.injEq, Prod.mk.injEq] at h
    rw [← h.2.2]
    simp only [List.length_cons]
    omega
  case h_14 tail =>
    dsimp only at h
    split at h
    · next after heq =>
      have hlength := congrArg List.length heq
      split_ifs at h
      simp only [Option.some.injEq, Prod.mk.injEq] at h
      rw [List.length_drop, List.length_cons] at hlength
      rw [← h.2.2]
      simp only [List.length_cons]
      omega
    · contradiction
  case h_15 =>
    split at h
    · next after hbreak =>
      have hafter := length_lineBreak? hbreak
      simp only [Option.some.injEq, Prod.mk.injEq] at h
      rw [← h.2.2]
      omega
    · dsimp only at h
      split_ifs at h
      simp only [Option.some.injEq, Prod.mk.injEq] at h
      rw [← h.2.2, List.length_drop]
      omega
  all_goals
    simp only [Option.some.injEq, Prod.mk.injEq] at h
    rw [← h.2.2, List.length_cons]
    omega

theorem length_quoted {quote : Char} (h : quoted quote fuel cs = some (bytes, lines, rest)) :
    rest.length ≤ cs.length := by
  induction fuel generalizing cs bytes lines rest with
  | zero => simp [quoted] at h
  | succ fuel ih =>
    cases cs with
    | nil => simp [quoted] at h
    | cons c tail =>
      rw [quoted] at h
      split_ifs at h
      · simp only [Option.some.injEq, Prod.mk.injEq] at h
        rw [← h.2.2, List.length_cons]
        omega
      · obtain ⟨⟨escaped, broken, middle⟩, hescape, h⟩ := Option.bind_eq_some_iff.mp h
        obtain ⟨⟨inner, more, after⟩, hinner, h⟩ := Option.bind_eq_some_iff.mp h
        have hmiddle := length_escape hescape
        have hafter := ih hinner
        simp only [Option.pure_def, Option.some.injEq, Prod.mk.injEq] at h
        rw [← h.2.2, List.length_cons]
        omega
      · obtain ⟨⟨inner, more, after⟩, hinner, h⟩ := Option.bind_eq_some_iff.mp h
        have hafter := ih hinner
        simp only [Option.pure_def, Option.some.injEq, Prod.mk.injEq] at h
        rw [← h.2.2, List.length_cons]
        omega

theorem length_numeralBody (isMark : Char → Bool) (fuel : ℕ) (cs : List Char) :
    (numeralBody isMark fuel cs).2.length ≤ cs.length := by
  induction fuel using Nat.strong_induction_on generalizing cs with
  | _ fuel ih =>
    unfold numeralBody
    split
    · rfl
    · rfl
    · next fuel c tail =>
      have htail := ih fuel (Nat.lt_succ_self fuel) tail
      split_ifs
      · split
        · next s tail =>
          have hshort := ih fuel (Nat.lt_succ_self fuel) tail
          simp only [List.length_cons] at htail ⊢
          split_ifs <;> dsimp only <;> omega
        · exact Nat.zero_le _
      · dsimp only
        rw [List.length_cons]
        omega
      · rfl

/-- The first digit or point is a part of the numeral. -/
theorem length_numeralBody_cons (isMark : Char → Bool) (hmark : isMark c = false)
    (hc : Numeral.isHexDigit c = true ∨ c = '.') (fuel : ℕ) (cs : List Char) :
    (numeralBody isMark (fuel + 1) (c :: cs)).2.length ≤ cs.length := by
  have hbody : (Numeral.isHexDigit c || c == '.') = true := by simpa using hc
  rw [numeralBody.eq_def]
  dsimp only
  rw [if_neg (by simp [hmark]), if_pos hbody]
  exact length_numeralBody isMark fuel cs

theorem isHexDigit_of_isDigit (hc : c.isDigit = true) : Numeral.isHexDigit c = true :=
  Numeral.forall_isDigit (fun c => Numeral.isHexDigit c = true) (by decide) c hc

theorem not_isExponent_of_isDigit (hc : c.isDigit = true ∨ c = '.') :
    (c.toLower == 'e') = false := by
  rcases hc with hc | hc
  · exact Numeral.forall_isDigit (fun c => (c.toLower == 'e') = false) (by decide) c hc
  · subst hc
    decide

theorem length_numeral (hc : c.isDigit = true ∨ c = '.')
    (h : numeral (fuel + 1) (c :: cs) = some (token, rest)) : rest.length ≤ cs.length := by
  unfold numeral at h
  dsimp only at h
  split_ifs at h with hhex
  · have hlead : ((c :: cs).drop ((c :: cs).take 2).length).length ≤ cs.length := by
      rw [List.length_drop, List.length_take, List.length_cons]
      omega
    have hbody := length_numeralBody (fun c => c.toLower == 'p') (fuel + 1)
      ((c :: cs).drop ((c :: cs).take 2).length)
    split at h
    all_goals simp only [Option.some.injEq, Prod.mk.injEq, reduceCtorEq] at h
    all_goals
      rw [← h.2]
      omega
  · have hdigit : Numeral.isHexDigit c = true ∨ c = '.' := hc.imp_left isHexDigit_of_isDigit
    have hbody := length_numeralBody_cons (fun c => c.toLower == 'e')
      (not_isExponent_of_isDigit hc) hdigit fuel cs
    split at h
    all_goals simp only [Option.some.injEq, Prod.mk.injEq, reduceCtorEq] at h
    all_goals
      rw [← h.2]
      exact hbody

theorem length_word (hc : isNameStart c = true) : (word (c :: cs)).2.length ≤ cs.length := by
  have hchar : isNameChar c = true := by
    simp only [isNameStart, Bool.or_eq_true] at hc
    simp only [isNameChar, Char.isAlphanum, Bool.or_eq_true]
    tauto
  rw [word]
  dsimp only
  rw [List.dropWhile_cons, if_pos hchar]
  exact (List.dropWhile_suffix isNameChar).length_le

theorem length_symbol? {s : Symbol} (h : symbol? cs = some (s, rest)) :
    rest.length < cs.length := by
  unfold symbol? at h
  split at h <;> simp only [Option.some.injEq, Prod.mk.injEq, reduceCtorEq] at h
  all_goals
    rw [← h.2]
    simp only [List.length_cons]
    omega

theorem length_next (h : next (fuel + 1) c cs = some (token, lines, rest)) :
    rest.length ≤ cs.length := by
  unfold next at h
  by_cases hname : isNameStart c = true
  · have hword : (word (c :: cs)).2.length ≤ cs.length := length_word hname
    rw [if_pos hname] at h
    simp only [Option.some.injEq, Prod.mk.injEq] at h
    rwa [h.2.2] at hword
  rw [if_neg hname] at h
  split at h
  · next hdigit =>
    obtain ⟨⟨found, after⟩, hfound, heq⟩ := Option.map_eq_some_iff.mp h
    have hstart : c.isDigit = true ∨ c = '.' := by
      simp only [Bool.or_eq_true, Bool.and_eq_true, beq_iff_eq] at hdigit
      tauto
    have hafter := length_numeral hstart hfound
    simp only [Prod.mk.injEq] at heq
    rwa [heq.2.2] at hafter
  split at h
  · obtain ⟨⟨found, broken, after⟩, hfound, heq⟩ := Option.map_eq_some_iff.mp h
    have hafter := length_quoted hfound
    simp only [Prod.mk.injEq] at heq
    rwa [heq.2.2] at hafter
  split at h
  · next level start hlevel =>
    split_ifs at hlevel
    have hstart := length_longLevel? hlevel
    obtain ⟨⟨found, broken, after⟩, hfound, heq⟩ := Option.map_eq_some_iff.mp h
    have hafter := length_longText hfound
    simp only [Prod.mk.injEq] at heq
    rw [← heq.2.2]
    omega
  · split_ifs at h
    obtain ⟨⟨found, after⟩, hfound, heq⟩ := Option.map_eq_some_iff.mp h
    have hafter := length_symbol? hfound
    simp only [Prod.mk.injEq, List.length_cons] at heq hafter
    rw [← heq.2.2]
    omega

/-! More fuel than there are characters. -/

theorem longBody_succ (h : cs.length < fuel) :
    longBody level (fuel + 1) cs = longBody level fuel cs := by
  induction fuel generalizing cs with
  | zero => omega
  | succ fuel ih =>
    cases cs with
    | nil => rfl
    | cons c tail =>
      rw [List.length_cons] at h
      rw [longBody, longBody]
      cases hclose : (if c = ']' then closesLong? level tail else none) with
      | some closed => rfl
      | none =>
        cases hbreak : lineBreak? (c :: tail) with
        | some next =>
          have hnext := length_lineBreak? hbreak
          rw [List.length_cons] at hnext
          dsimp only
          rw [ih (by omega)]
        | none =>
          dsimp only
          rw [ih (by omega)]

theorem longText_succ (h : cs.length < fuel) :
    longText level (fuel + 1) cs = longText level fuel cs := by
  have hstart := length_longStart cs
  rw [longText, longText, longBody_succ (by omega)]

theorem comment_succ (h : cs.length < fuel) : comment (fuel + 1) cs = comment fuel cs := by
  unfold comment
  split
  · next tail =>
    rw [List.length_cons] at h
    cases hlevel : longLevel? tail with
    | none => rfl
    | some found =>
      obtain ⟨level, after⟩ := found
      have hafter := length_longLevel? hlevel
      dsimp only
      rw [longText_succ (by omega)]
  · rfl

theorem quoted_succ {quote : Char} (h : cs.length < fuel) :
    quoted quote (fuel + 1) cs = quoted quote fuel cs := by
  induction fuel generalizing cs with
  | zero => omega
  | succ fuel ih =>
    cases cs with
    | nil => rfl
    | cons c tail =>
      rw [List.length_cons] at h
      rw [quoted, quoted, ih (show tail.length < fuel by omega)]
      cases hescape : escape tail with
      | none => rfl
      | some found =>
        obtain ⟨escaped, broken, middle⟩ := found
        have hmiddle := length_escape hescape
        simp only [Option.bind_eq_bind, Option.bind_some]
        rw [ih (show middle.length < fuel by omega)]

theorem numeralBody_succ {isMark : Char → Bool} (h : cs.length < fuel) :
    numeralBody isMark (fuel + 1) cs = numeralBody isMark fuel cs := by
  induction fuel generalizing cs with
  | zero => omega
  | succ fuel ih =>
    cases cs with
    | nil => rfl
    | cons c tail =>
      rw [List.length_cons] at h
      rw [numeralBody.eq_def, numeralBody.eq_def isMark (fuel + 1)]
      dsimp only
      rw [ih (show tail.length < fuel by omega)]
      cases tail with
      | nil => rfl
      | cons s tail =>
        rw [List.length_cons] at h
        dsimp only
        rw [ih (show tail.length < fuel by omega)]

theorem numeral_succ (h : cs.length < fuel) : numeral (fuel + 1) cs = numeral fuel cs := by
  unfold numeral
  dsimp only
  rw [numeralBody_succ (by rw [List.length_drop]; omega)]

theorem next_succ (h : cs.length + 1 < fuel) : next (fuel + 1) c cs = next fuel c cs := by
  unfold next
  rw [numeral_succ (by rwa [List.length_cons]), quoted_succ (by omega)]
  cases hlevel : (if c = '[' then longLevel? cs else none) with
  | none => rfl
  | some found =>
    obtain ⟨level, start⟩ := found
    split_ifs at hlevel
    have hstart := length_longLevel? hlevel
    dsimp only
    rw [longText_succ (by omega)]

theorem tokensFrom_succ (h : cs.length < fuel) :
    tokensFrom (fuel + 1) line cs = tokensFrom fuel line cs := by
  induction fuel generalizing line cs with
  | zero => omega
  | succ fuel ih =>
    cases cs with
    | nil => rfl
    | cons c tail =>
      rw [List.length_cons] at h
      rw [tokensFrom.eq_def, tokensFrom.eq_def (fuel + 1)]
      dsimp only
      cases hbreak : lineBreak? (c :: tail) with
      | some below =>
        have hbelow := length_lineBreak? hbreak
        rw [List.length_cons] at hbelow
        exact ih (by omega)
      | none =>
        dsimp only
        rw [ih (show tail.length < fuel by omega)]
        split
        · rfl
        split
        · next inside _ =>
          rw [List.length_cons] at h
          rw [comment_succ (by omega)]
          cases hcomment : comment (fuel + 1) inside with
          | none => rfl
          | some found =>
            obtain ⟨lines, after⟩ := found
            have hafter := length_comment hcomment
            exact ih (by omega)
        · rw [next_succ (by omega)]
          cases hnext : next (fuel + 1) c tail with
          | none => rfl
          | some found =>
            obtain ⟨token, lines, after⟩ := found
            have hafter := length_next hnext
            dsimp only
            rw [ih (show after.length < fuel by omega)]

theorem tokensFrom_eq (h : cs.length < fuel) :
    tokensFrom fuel line cs = tokensFrom (cs.length + 1) line cs := by
  induction fuel, h using Nat.le_induction with
  | base => rfl
  | succ fuel h ih => rw [tokensFrom_succ h, ih]

/-- Every text lexes to its tokens, which may be said to come after no others. -/
theorem lexesTo_self (line : ℕ) (cs : List Char) :
    LexesTo line (tokensFrom (cs.length + 1) line cs) cs [] := fun _ h => tokensFrom_eq h

/-- A quoted text is one token of its bytes, and the tokens of what follows it come next. -/
theorem tokensFrom_quoted (line : ℕ) (bytes : Bytes) (rest : List Char) :
    tokensFrom ((Literal.quoted bytes ++ rest).length + 1) line (Literal.quoted bytes ++ rest) =
      (.text bytes, line) :: tokensFrom (rest.length + 1) line rest :=
  (lexesTo_self line rest).quoted bytes _ (Nat.lt_succ_self _)

end Docbase.Script.Lexer
