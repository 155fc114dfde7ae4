import Docbase.Binary64.Scientific
import Docbase.Proofs.Binary64.Shortest

/-!
What is read from a double in scientific notation. Every step of the reading has a result where
the decimal is an integer below the limit: there are no more places after the point than the
exponent counts, and all counts and products stay below their bounds.
-/
namespace Docbase

namespace Decimal

theorem length_digitText (n : ℕ) (hn : 0 < n) : (digitText n).length = digitCount n := by
  obtain ⟨hpos, hlow, hhigh⟩ := digitCount_spec n hn
  have hle : (Nat.toDigits 10 n).length ≤ digitCount n :=
    (Nat.length_toDigits_le_iff (by norm_num) hpos).mpr hhigh
  have hge : ¬(Nat.toDigits 10 n).length ≤ digitCount n - 1 := by
    intro hshort
    rcases Nat.eq_zero_or_pos (digitCount n - 1) with hzero | hmore
    · have hne : (Nat.toDigits 10 n).length ≠ 0 := by simp
      omega
    · exact absurd ((Nat.length_toDigits_le_iff (by norm_num) hmore).mp hshort) (by omega)
  unfold digitText
  omega

theorem isDigit_digitText (n : ℕ) (c : Char) (hc : c ∈ digitText n) : c.isDigit = true :=
  Nat.isDigit_of_mem_toDigits (by norm_num) le_rfl hc

theorem digitText_ne_nil (n : ℕ) : digitText n ≠ [] := Nat.toDigits_ne_nil

/-! The steps of the reading. -/

theorem splitOnce?_append (mark : Char) (before after : List Char) (h : mark ∉ before) :
    splitOnce? mark (before ++ mark :: after) = some (before, after) := by
  induction before with
  | nil => exact if_pos rfl
  | cons c before ih =>
    rw [List.mem_cons, not_or] at h
    rw [List.cons_append, splitOnce?, if_neg (Ne.symm h.1), ih h.2]
    rfl

theorem below?_eq {limit n : ℕ} (h : n < limit) : below? limit n = some n := if_pos h

theorem natural?_digitText {limit n : ℕ} (h : n < limit) :
    natural? limit (digitText n) = some n := by
  have hdigits : (digitText n).all Char.isDigit = true :=
    List.all_eq_true.mpr (isDigit_digitText n)
  have hvalue : Nat.ofDigitChars 10 (digitText n) 0 = n := Nat.ofDigitChars_ten_toDigits
  rw [natural?, List.isEmpty_eq_false_iff.mpr (digitText_ne_nil n), hdigits, hvalue]
  exact below?_eq h

/-- The digits in a mantissa, with a sign or without, are those that it was made of. -/
theorem filter_mantissa (sign digits : List Char) (hsign : ∀ c ∈ sign, c.isDigit = false)
    (hdigits : ∀ c ∈ digits, c.isDigit = true) :
    (sign ++ (mantissa digits).toList).filter Char.isDigit = digits := by
  have hall : digits.filter Char.isDigit = digits := List.filter_eq_self.mpr hdigits
  have hnone : sign.filter Char.isDigit = [] :=
    List.filter_eq_nil_iff.mpr fun c hc => by simp [hsign c hc]
  rw [List.filter_append, hnone, List.nil_append]
  match digits, hall with
  | [], _ => rfl
  | [c], hall => simpa [mantissa] using hall
  | c :: d :: rest, hall =>
    have hpoint : Char.isDigit '.' = false := by decide
    simpa [mantissa, List.filter_cons, hpoint] using hall

theorem not_mem_mantissa (mark : Char) (hdigit : mark.isDigit = false) (hpoint : mark ≠ '.')
    (digits : List Char) (hdigits : ∀ c ∈ digits, c.isDigit = true) :
    mark ∉ (mantissa digits).toList := by
  have hnot : mark ∉ digits := fun hmem => by simp [hdigits mark hmem] at hdigit
  match digits, hnot with
  | [], _ => simp [mantissa]
  | [c], hnot => simpa [mantissa] using hnot
  | c :: d :: rest, hnot => simpa [mantissa, hpoint] using hnot

/-- The first character of a mantissa, behind a sign if there is one. -/
theorem head_sign (negative : Bool) (digits : List Char)
    (hdigits : ∀ c ∈ digits, c.isDigit = true) :
    ((if negative then ['-'] else []) ++ (mantissa digits).toList).head? = some '-' ↔
      negative = true := by
  cases negative with
  | true => simp
  | false =>
    have hnot := not_mem_mantissa '-' (by decide) (by decide) digits hdigits
    simp only [Bool.false_eq_true, if_false, List.nil_append, iff_false]
    exact fun hhead => hnot (List.mem_of_head? hhead)

/-- An integer below the limit is read from the notation of its decimal. -/
theorem integerOf?_scientific (d : Decimal) (negative : Bool) (hdigits : 0 < d.digits) (k : ℕ)
    (hk : d.exponent = k) (hlimit : d.digits * pow10 k < 10 ^ 19) :
    integerOf? ((if negative then "-" else "") ++ d.scientific) =
      some (if negative then -((d.digits * pow10 k : ℕ) : ℤ) else (d.digits * pow10 k : ℕ)) := by
  obtain ⟨hcount, hlow, -⟩ := digitCount_spec d.digits hdigits
  have hlength := length_digitText d.digits hdigits
  have hsign : ((if negative then "-" else "") : String).toList =
      if negative then ['-'] else [] := by cases negative <;> rfl
  set count := digitCount d.digits
  -- The exponent counts the places after the first digit, to the end of the zeros.
  have hplaces : d.point - 1 = ((k + (count - 1) : ℕ) : ℤ) := by
    rw [point, hk]
    omega
  have hexponent : (toString (d.point - 1)).toList = digitText (k + (count - 1)) := by
    rw [hplaces, digitText, ← Nat.toList_repr]
    rfl
  have hsmall : k + (count - 1) < 19 := by
    rw [← Nat.pow_lt_pow_iff_right (show 1 < 10 by norm_num), pow_add, mul_comm]
    exact (Nat.mul_le_mul_right (10 ^ k) hlow).trans_lt hlimit
  have hpower : pow10 k ≤ d.digits * pow10 k := Nat.le_mul_of_pos_left _ hdigits
  have hself : d.digits ≤ d.digits * pow10 k :=
    Nat.le_mul_of_pos_right _ (Nat.pow_pos (by norm_num))
  have hbound : 10 ^ 19 < integerLimit := by norm_num [integerLimit, pow2]
  have hcounts : 19 < countLimit := by norm_num [countLimit, pow2]
  have htext : ((if negative then "-" else "") ++ d.scientific).toList =
      ((if negative then ['-'] else []) ++ (mantissa (digitText d.digits)).toList) ++
        'e' :: digitText (k + (count - 1)) := by
    rw [scientific, String.toList_append, String.toList_append, String.toList_append, hexponent,
      hsign]
    simp
  have hmark : 'e' ∉
      (if negative then ['-'] else []) ++ (mantissa (digitText d.digits)).toList := by
    rw [List.mem_append, not_or]
    refine ⟨by cases negative <;> decide, ?_⟩
    exact not_mem_mantissa 'e' (by decide) (by decide) _ (isDigit_digitText _)
  have hfilter := filter_mantissa (if negative then ['-'] else []) (digitText d.digits)
    (by cases negative <;> simp) (isDigit_digitText _)
  have hhead := head_sign negative (digitText d.digits) (isDigit_digitText _)
  have hafter : minus? (k + (count - 1)) (count - 1) = some k := by
    rw [minus?, if_pos (Nat.le_add_left _ _), Nat.add_sub_cancel]
  have hbehind : minus? (digitText d.digits).length 1 = some (count - 1) := by
    rw [minus?, hlength]
    exact if_pos hcount
  have hread := natural?_digitText (show d.digits < integerLimit by omega)
  have hcounted := natural?_digitText (show k + (count - 1) < countLimit by omega)
  have hfew := below?_eq (show count - 1 < countLimit by omega)
  have hpow := below?_eq (show pow10 k < integerLimit by omega)
  have hproduct := below?_eq (show d.digits * pow10 k < integerLimit by omega)
  simp only [integerOf?, htext, splitOnce?_append 'e' _ _ hmark, Option.bind_eq_bind,
    Option.bind_some, hcounted, hfilter, hbehind, hfew, hafter, hread, hpow, hproduct, hhead]
  rfl

end Decimal

namespace Binary64

/-- A double other than zero has digits. -/
theorem digits_shortest_pos (x : Binary64) (hx : 0 < x.magnitude) : 0 < x.shortest.digits := by
  rw [Nat.pos_iff_ne_zero]
  intro hdigits
  have hrat : x.shortest.toRat = 0 := by rw [Decimal.toRat, hdigits]; simp
  have hpos := (shortest_roundsTo x).pos hx
  rw [hrat] at hpos
  exact hpos.false

/-- The integer of a finite double whose decimal is an integer below the limit. -/
theorem shortestInt?_eq (x : Binary64) (hx : 0 < x.magnitude) (hfinite : x.isFinite = true) (k : ℕ)
    (hk : x.shortest.exponent = k) (hlimit : x.shortest.digits * pow10 k < 10 ^ 19) :
    x.shortestInt? = some (if x.isNegative then -((x.shortest.digits * pow10 k : ℕ) : ℤ)
      else (x.shortest.digits * pow10 k : ℕ)) := by
  have hmagnitude : x.magnitude < infinityWord := of_decide_eq_true hfinite
  have hnan : x.isNaN = false := by
    rw [isNaN, decide_eq_false_iff_not]
    omega
  have hinfinite : x.isInfinite = false := by
    rw [isInfinite, beq_eq_false_iff_ne]
    omega
  have hzero : x.isZero = false := by
    rw [isZero, beq_eq_false_iff_ne]
    omega
  have htext : x.scientific = (if x.isNegative then "-" else "") ++ x.shortest.scientific := by
    rw [scientific, hnan, hinfinite, hzero]
    rfl
  rw [shortestInt?, htext]
  exact x.shortest.integerOf?_scientific _ (digits_shortest_pos x hx) k hk hlimit

end Binary64

end Docbase
