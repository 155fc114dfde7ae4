import Docbase.Proofs.Binary64.Decimal
import Docbase.Script.Lexer
import Docbase.Script.Literal

/-!
Numerals as literals write them: digits, perhaps a point and more digits, perhaps an exponent.
They are read to their end and spell the number that was written.
-/
namespace Docbase.Script.Numeral

def IsDigits (cs : List Char) : Prop := ∀ c ∈ cs, c.isDigit = true

theorem isDigit_mem (c : Char) (h : c.isDigit = true) :
    c ∈ ['0', '1', '2', '3', '4', '5', '6', '7', '8', '9'] := by
  have hrange : 48 ≤ c.toNat ∧ c.toNat ≤ 57 := by
    simpa [Char.isDigit, UInt32.le_iff_toNat_le] using h
  rw [← Char.ofNat_toNat c]
  generalize c.toNat = n at hrange
  obtain ⟨hlow, hhigh⟩ := hrange
  interval_cases n <;> decide

/-- What is checked of the ten digits holds of every digit. -/
theorem forall_isDigit (p : Char → Prop) [DecidablePred p]
    (h : ['0', '1', '2', '3', '4', '5', '6', '7', '8', '9'].all (fun c => decide (p c)) = true)
    (c : Char) (hc : c.isDigit = true) : p c :=
  of_decide_eq_true (List.all_eq_true.mp h c (isDigit_mem c hc))

theorem isDigits_toDigits (n : ℕ) : IsDigits (Nat.toDigits 10 n) := fun _ hc =>
  Nat.isDigit_of_mem_toDigits (by norm_num) le_rfl hc

theorem decimalValue_eq (cs : List Char) : decimalValue cs = Nat.ofDigitChars 10 cs 0 :=
  Nat.ofDigitChars_eq_foldl.symm

theorem decimalValue_append (cs ds : List Char) :
    decimalValue (cs ++ ds) = 10 ^ ds.length * decimalValue cs + decimalValue ds := by
  rw [decimalValue_eq, decimalValue_eq, decimalValue_eq, Nat.ofDigitChars_append,
    Nat.ofDigitChars_eq_ofDigitChars_zero]

theorem decimalValue_toDigits (n : ℕ) : decimalValue (Nat.toDigits 10 n) = n := by
  rw [decimalValue_eq, Nat.ofDigitChars_ten_toDigits]

theorem decimalValue_zeros (n : ℕ) : decimalValue (List.replicate n '0') = 0 := by
  rw [decimalValue_eq, Nat.ofDigitChars_replicate_zero, mul_zero]

/-! The text of an integer. -/

theorem toList_toString (k : ℤ) :
    (toString k).toList = (if k < 0 then ['-'] else []) ++ Nat.toDigits 10 k.natAbs := by
  cases k with
  | ofNat n => simp [toString, Int.repr, Nat.toList_repr]
  | negSucc n =>
    have hneg : Int.negSucc n < 0 := Int.negSucc_lt_zero n
    simp [toString, Int.repr, Nat.toList_repr]

/-! Reading a numeral. -/

/-- What ends a literal where it stands inside another one. -/
def Ends (rest : List Char) : Prop := ∀ c ∈ rest.head?, c ∈ [',', ')', '\x7d', '/']

theorem Ends.forall_head {rest : List Char} (h : Ends rest) (p : Char → Prop) [DecidablePred p]
    (hp : [',', ')', '\x7d', '/'].all (fun c => decide (p c)) = true) (c : Char)
    (hc : c ∈ rest.head?) : p c :=
  of_decide_eq_true (List.all_eq_true.mp hp c (h c hc))

/-- The mark of an exponent. -/
def isExponentMark (c : Char) : Bool := c.toLower == 'e'

theorem numeralBody_end (fuel : ℕ) (rest : List Char) (h : Ends rest) :
    Lexer.numeralBody isExponentMark fuel rest = ([], rest) := by
  cases fuel with
  | zero => rfl
  | succ fuel =>
    cases rest with
    | nil => rfl
    | cons c rest =>
      have hc : isExponentMark c = false ∧ (isHexDigit c || c == '.') = false :=
        h.forall_head (fun c => isExponentMark c = false ∧ (isHexDigit c || c == '.') = false)
          (by decide) c rfl
      rw [Lexer.numeralBody.eq_def]
      dsimp only
      rw [hc.1, hc.2]
      rfl

/-- Digits and points belong to a numeral. -/
theorem numeralBody_append (cs : List Char) (hcs : ∀ c ∈ cs, c.isDigit = true ∨ c = '.')
    (fuel : ℕ) (rest : List Char) :
    Lexer.numeralBody isExponentMark (cs.length + fuel) (cs ++ rest) =
      (cs ++ (Lexer.numeralBody isExponentMark fuel rest).1,
        (Lexer.numeralBody isExponentMark fuel rest).2) := by
  induction cs with
  | nil => simp
  | cons c cs ih =>
    have hc : isExponentMark c = false ∧ (isHexDigit c || c == '.') = true := by
      rcases hcs c List.mem_cons_self with hdigit | rfl
      · exact forall_isDigit
          (fun c => isExponentMark c = false ∧ (isHexDigit c || c == '.') = true) (by decide) c
          hdigit
      · decide
    have hrest := ih fun c' hc' => hcs c' (List.mem_cons_of_mem _ hc')
    rw [List.length_cons, show cs.length + 1 + fuel = cs.length + fuel + 1 by omega,
      List.cons_append, Lexer.numeralBody.eq_def]
    dsimp only
    rw [hc.1, hc.2, hrest]
    rfl

/-- After the mark of an exponent a sign belongs to it. -/
theorem numeralBody_exponent (k : ℤ) (fuel : ℕ) (hfuel : (toString k).toList.length < fuel)
    (rest : List Char) (h : Ends rest) :
    Lexer.numeralBody isExponentMark fuel ('e' :: (toString k).toList ++ rest) =
      ('e' :: (toString k).toList, rest) := by
  have hdigits (c : Char) (hc : c ∈ Nat.toDigits 10 k.natAbs) : c.isDigit = true ∨ c = '.' :=
    .inl (isDigits_toDigits _ c hc)
  have hmark : isExponentMark 'e' = true := by decide
  rw [toList_toString] at hfuel ⊢
  obtain ⟨fuel, rfl⟩ : ∃ f, fuel = f + 1 := ⟨fuel - 1, by omega⟩
  by_cases hneg : k < 0
  · rw [if_pos hneg] at hfuel ⊢
    simp only [List.singleton_append, List.length_cons] at hfuel
    obtain ⟨more, hmore⟩ := Nat.exists_eq_add_of_le
      (show (Nat.toDigits 10 k.natAbs).length ≤ fuel by omega)
    have hbody := numeralBody_append _ hdigits more rest
    rw [numeralBody_end more rest h] at hbody
    rw [Lexer.numeralBody.eq_def, hmore]
    simp [hmark, hbody]
  · rw [if_neg hneg] at hfuel ⊢
    simp only [List.nil_append] at hfuel ⊢
    obtain ⟨more, hmore⟩ := Nat.exists_eq_add_of_le
      (show (Nat.toDigits 10 k.natAbs).length ≤ fuel by omega)
    have hbody := numeralBody_append _ hdigits more rest
    rw [numeralBody_end more rest h] at hbody
    have hne : Nat.toDigits 10 k.natAbs ≠ [] := Nat.toDigits_ne_nil
    obtain ⟨c, cs, hcs⟩ := List.exists_cons_of_ne_nil hne
    have hc : c ≠ '-' ∧ c ≠ '+' := by
      have := isDigits_toDigits k.natAbs c (by rw [hcs]; exact List.mem_cons_self)
      exact forall_isDigit (fun c => c ≠ '-' ∧ c ≠ '+') (by decide) c this
    rw [Lexer.numeralBody.eq_def, hmore]
    rw [hcs] at hbody ⊢
    simp [hmark, hc]
    simp at hbody
    rw [hbody]
    simp

/-- Digits, a point with digits after it, and an exponent. -/
def numeralText (whole : List Char) (fraction : Option (List Char)) (exponent : Option ℤ) :
    List Char :=
  whole ++ (fraction.map ('.' :: ·)).getD [] ++
    (exponent.map fun k => 'e' :: (toString k).toList).getD []

/-- There are digits on both sides of the point, if there is one. -/
structure IsNumeral (whole : List Char) (fraction : Option (List Char)) : Prop where
  digits : IsDigits whole
  nonempty : whole ≠ []
  fractionDigits : ∀ f ∈ fraction, IsDigits f

variable {whole : List Char} {fraction : Option (List Char)}

theorem numeralBody_numeralText (h : IsNumeral whole fraction) (exponent : Option ℤ) (fuel : ℕ)
    (hfuel : (numeralText whole fraction exponent).length < fuel) (rest : List Char)
    (hends : Ends rest) :
    Lexer.numeralBody isExponentMark fuel (numeralText whole fraction exponent ++ rest) =
      (numeralText whole fraction exponent, rest) := by
  have hmantissa (c : Char) (hc : c ∈ whole ++ (fraction.map ('.' :: ·)).getD []) :
      c.isDigit = true ∨ c = '.' := by
    rcases List.mem_append.mp hc with hc | hc
    · exact .inl (h.digits c hc)
    · cases fraction with
      | none => simp at hc
      | some f =>
        rcases List.mem_cons.mp hc with rfl | hc
        · exact .inr rfl
        · exact .inl (h.fractionDigits f rfl c hc)
  unfold numeralText at hfuel ⊢
  rw [List.length_append] at hfuel
  obtain ⟨more, hmore⟩ := Nat.exists_eq_add_of_le
    (show (whole ++ (fraction.map ('.' :: ·)).getD []).length ≤ fuel by omega)
  rw [hmore, List.append_assoc, numeralBody_append _ hmantissa]
  cases exponent with
  | none =>
    rw [Option.map_none, Option.getD_none, List.nil_append, numeralBody_end more rest hends,
      List.append_nil]
  | some k =>
    rw [Option.map_some, Option.getD_some] at hfuel ⊢
    simp only [List.length_cons] at hfuel
    rw [numeralBody_exponent k more (by omega) rest hends]

theorem span_digits (cs rest : List Char) (h : IsDigits cs)
    (hrest : ∀ c ∈ rest.head?, c.isDigit = false) :
    (cs ++ rest).takeWhile Char.isDigit = cs ∧ (cs ++ rest).dropWhile Char.isDigit = rest := by
  induction cs with
  | nil =>
    cases rest with
    | nil => simp
    | cons c rest => simp [hrest c rfl]
  | cons c cs ih =>
    have hc := h c List.mem_cons_self
    have hcs := ih fun c' hc' => h c' (List.mem_cons_of_mem _ hc')
    simp [hc, hcs]

/-- Digits have no sign before them. -/
theorem sign_digits (cs rest : List Char) (h : IsDigits cs) (hne : cs ≠ []) :
    sign (cs ++ rest) = (false, cs ++ rest) := by
  obtain ⟨c, tail, rfl⟩ := List.exists_cons_of_ne_nil hne
  have hc : c ≠ '-' ∧ c ≠ '+' :=
    forall_isDigit (fun c => c ≠ '-' ∧ c ≠ '+') (by decide) c (h c List.mem_cons_self)
  rw [List.cons_append, sign.eq_def]
  split
  · next heq => exact absurd (List.cons.inj heq).1 hc.1
  · next heq => exact absurd (List.cons.inj heq).1 hc.2
  · rfl

theorem exponent?_toString (k : ℤ) : exponent? 'e' ('e' :: (toString k).toList) = some k := by
  have hdigits := isDigits_toDigits k.natAbs
  have hall : (Nat.toDigits 10 k.natAbs).all Char.isDigit = true := List.all_eq_true.mpr hdigits
  have hempty : (Nat.toDigits 10 k.natAbs).isEmpty = false := by simp
  rw [toList_toString]
  by_cases hneg : k < 0
  · simp only [exponent?, if_pos hneg, List.singleton_append, sign, decimalValue_toDigits, hall,
      hempty]
    simp [negateIf, abs_of_neg hneg]
  · have hsign := sign_digits _ [] hdigits Nat.toDigits_ne_nil
    rw [List.append_nil] at hsign
    simp only [exponent?, if_neg hneg, List.nil_append, hsign, decimalValue_toDigits, hall,
      hempty]
    simp [negateIf, abs_of_nonneg (not_lt.mp hneg)]

/-- The exponent of a numeral starts with no digit. -/
theorem head_exponent (exponent : Option ℤ) :
    ∀ c ∈ ((exponent.map fun k => 'e' :: (toString k).toList).getD []).head?,
      c.isDigit = false := by
  cases exponent with
  | none => simp
  | some k => simp

theorem mantissa_numeralText (h : IsNumeral whole fraction) (exponent : Option ℤ) :
    mantissa Char.isDigit (numeralText whole fraction exponent) =
      (whole ++ fraction.getD [], (fraction.getD []).length,
        (exponent.map fun k => 'e' :: (toString k).toList).getD []) := by
  have htail := head_exponent exponent
  unfold numeralText
  set tail := (exponent.map fun k => 'e' :: (toString k).toList).getD [] with htaildef
  cases fraction with
  | none =>
    have hspan := span_digits whole tail h.digits htail
    simp only [Option.map_none, Option.getD_none, List.append_nil, mantissa, hspan]
    rw [htaildef]
    cases exponent <;> rfl
  | some f =>
    have hfraction := span_digits f tail (h.fractionDigits f rfl) htail
    have hspan := span_digits whole ('.' :: f ++ tail) h.digits (by simp)
    simp only [Option.map_some, Option.getD_some, List.append_assoc, mantissa, hspan]
    simp [hfraction]

theorem hexBody?_append (cs rest : List Char) (hcs : ∀ c ∈ cs, c ≠ 'x' ∧ c ≠ 'X')
    (hne : cs ≠ []) (hends : Ends rest) : hexBody? (cs ++ rest) = none := by
  obtain ⟨a, tail, rfl⟩ := List.exists_cons_of_ne_nil hne
  have hsecond : ∀ b ∈ (tail ++ rest).head?, b ≠ 'x' ∧ b ≠ 'X' := by
    intro b hb
    cases tail with
    | nil =>
      exact hends.forall_head (fun b => b ≠ 'x' ∧ b ≠ 'X') (by decide) b hb
    | cons b' tail =>
      cases hb
      exact hcs b (by simp)
  rw [List.cons_append]
  unfold hexBody?
  split
  · next heq => exact absurd rfl (hsecond 'x' (by simp [(List.cons.inj heq).2])).1
  · next heq => exact absurd rfl (hsecond 'X' (by simp [(List.cons.inj heq).2])).2
  · rfl

theorem mem_toString (k : ℤ) (c : Char) (hc : c ∈ (toString k).toList) :
    c = '-' ∨ c.isDigit = true := by
  rw [toList_toString] at hc
  rcases List.mem_append.mp hc with hc | hc
  · split at hc
    · exact .inl (List.mem_singleton.mp hc)
    · simp at hc
  · exact .inr (isDigits_toDigits _ c hc)

theorem ne_x_of_mem (h : IsNumeral whole fraction) (exponent : Option ℤ) :
    ∀ c ∈ numeralText whole fraction exponent, c ≠ 'x' ∧ c ≠ 'X' := by
  have hdigit (c : Char) (hc : c.isDigit = true) : c ≠ 'x' ∧ c ≠ 'X' :=
    forall_isDigit (fun c => c ≠ 'x' ∧ c ≠ 'X') (by decide) c hc
  intro c hc
  rcases List.mem_append.mp hc with hc | hc
  · rcases List.mem_append.mp hc with hc | hc
    · exact hdigit c (h.digits c hc)
    · cases fraction with
      | none => simp at hc
      | some f =>
        rcases List.mem_cons.mp hc with rfl | hc
        · decide
        · exact hdigit c (h.fractionDigits f rfl c hc)
  · cases exponent with
    | none => simp at hc
    | some k =>
      rcases List.mem_cons.mp hc with rfl | hc
      · decide
      · rcases mem_toString k c hc with rfl | hc
        · decide
        · exact hdigit c hc

theorem numeralText_ne_nil (h : IsNumeral whole fraction) (exponent : Option ℤ) :
    numeralText whole fraction exponent ≠ [] := by
  simp [numeralText, h.nonempty]

theorem isDigit_head (h : IsNumeral whole fraction) (exponent : Option ℤ) :
    ∀ c ∈ (numeralText whole fraction exponent).head?, c.isDigit = true := by
  obtain ⟨c, tail, hwhole⟩ := List.exists_cons_of_ne_nil h.nonempty
  have hc := h.digits c (by rw [hwhole]; exact List.mem_cons_self)
  simpa [numeralText, hwhole] using hc

theorem literal?_numeralText (h : IsNumeral whole fraction) (exponent : Option ℤ) :
    literal? (numeralText whole fraction exponent) =
      signed? (numeralText whole fraction exponent) := by
  obtain ⟨c, tail, hcs⟩ := List.exists_cons_of_ne_nil h.nonempty
  have hc : c ≠ '-' ∧ c ≠ '+' :=
    forall_isDigit (fun c => c ≠ '-' ∧ c ≠ '+') (by decide) c
      (h.digits c (by rw [hcs]; exact List.mem_cons_self))
  unfold literal?
  split
  · next heq => simp [numeralText, hcs, hc] at heq
  · next heq => simp [numeralText, hcs, hc] at heq
  · rfl

/-- The token of a number. -/
def token : Number → Token
  | .int n => .int n
  | .double x => .double x

/-- The lexer takes a numeral to its end. -/
theorem lexer_numeral (h : IsNumeral whole fraction) (exponent : Option ℤ) (fuel : ℕ)
    (hfuel : (numeralText whole fraction exponent).length < fuel) (rest : List Char)
    (hends : Ends rest) :
    Lexer.numeral fuel (numeralText whole fraction exponent ++ rest) =
      (signed? (numeralText whole fraction exponent)).map fun n => (token n, rest) := by
  have hhex := hexBody?_append _ rest (ne_x_of_mem h exponent) (numeralText_ne_nil h exponent) hends
  have hbody : Lexer.numeralBody (fun c => c.toLower == 'e') fuel
      (numeralText whole fraction exponent ++ rest) = (numeralText whole fraction exponent, rest) :=
    numeralBody_numeralText h exponent fuel hfuel rest hends
  have hname : (rest.head?.map Lexer.isNameStart).getD false = false := by
    cases rest with
    | nil => rfl
    | cons c rest =>
      exact hends.forall_head (fun c => Lexer.isNameStart c = false) (by decide) c rfl
  unfold Lexer.numeral
  rw [hhex]
  simp only [Option.isSome_none, Bool.false_eq_true, if_false, List.length_nil, List.drop_zero,
    List.nil_append, hbody, hname, literal?_numeralText h exponent]
  cases signed? (numeralText whole fraction exponent) with
  | none => rfl
  | some n => cases n <;> rfl

theorem sign_numeralText (h : IsNumeral whole fraction) (exponent : Option ℤ) :
    sign (numeralText whole fraction exponent) = (false, numeralText whole fraction exponent) := by
  unfold numeralText
  rw [List.append_assoc]
  exact sign_digits whole _ h.digits h.nonempty

theorem double?_numeralText (h : IsNumeral whole fraction) (exponent : Option ℤ) :
    double? (numeralText whole fraction exponent) =
      some (Binary64.ofDecimal false (decimalValue (whole ++ fraction.getD []))
        (exponent.getD 0 - (fraction.getD []).length)) := by
  have hhex := hexBody?_append _ [] (ne_x_of_mem h exponent) (numeralText_ne_nil h exponent)
    (by simp [Ends])
  rw [List.append_nil] at hhex
  unfold double?
  rw [sign_numeralText h exponent]
  simp only [hhex, mantissa_numeralText h exponent]
  have hne : (whole ++ fraction.getD []).isEmpty = false := by simp [h.nonempty]
  rw [hne]
  cases exponent with
  | none => simp [exponent?]
  | some k =>
    have := exponent?_toString k
    simp only [Option.map_some, Option.getD_some, this]
    simp

theorem int?_eq_none (h : IsNumeral whole fraction) (exponent : Option ℤ)
    (hdouble : fraction.isSome ∨ exponent.isSome) :
    int? (numeralText whole fraction exponent) = none := by
  have hhex := hexBody?_append _ [] (ne_x_of_mem h exponent) (numeralText_ne_nil h exponent)
    (by simp [Ends])
  rw [List.append_nil] at hhex
  have hall : (numeralText whole fraction exponent).all Char.isDigit = false := by
    rw [List.all_eq_false]
    rcases hdouble with hf | he
    · obtain ⟨f, rfl⟩ := Option.isSome_iff_exists.mp hf
      exact ⟨'.', by simp [numeralText], by decide⟩
    · obtain ⟨k, rfl⟩ := Option.isSome_iff_exists.mp he
      exact ⟨'e', by simp [numeralText], by decide⟩
  unfold int?
  rw [sign_numeralText h exponent]
  simp only [hhex, hall, Bool.not_false, Bool.or_true, if_true]

theorem int?_digits (n : ℕ) (hn : n < 2 ^ 63) :
    int? (Nat.toDigits 10 n) = some (Int64.ofInt n) := by
  have h : IsNumeral (Nat.toDigits 10 n) none :=
    ⟨isDigits_toDigits n, Nat.toDigits_ne_nil, by simp⟩
  have htext : numeralText (Nat.toDigits 10 n) none none = Nat.toDigits 10 n := by
    simp [numeralText]
  have hhex := hexBody?_append _ [] (ne_x_of_mem h none) (numeralText_ne_nil h none)
    (by simp [Ends])
  have hsign := sign_numeralText h none
  rw [List.append_nil, htext] at hhex
  rw [htext] at hsign
  have hall : (Nat.toDigits 10 n).all Char.isDigit = true :=
    List.all_eq_true.mpr (isDigits_toDigits n)
  have hlimit : n ≤ pow2 63 - 1 := by
    rw [pow2_eq]
    omega
  unfold int?
  rw [hsign]
  simp [hhex, hall, decimalValue_toDigits, hlimit, negateIf]

end Docbase.Script.Numeral
