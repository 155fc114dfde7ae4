import Docbase.Proofs.Binary64.Scientific
import Docbase.Proofs.Script.Numeral

/-!
The numerals that numbers are written as. The digits of an integer are its own numeral, and the
literal of a double, whichever of its forms is taken, is a numeral that rounds to the double.
-/
namespace Docbase

namespace Script.Numeral

/-- A numeral of a double with the value that its digits and its exponent spell. -/
structure IsDouble (cs : List Char) (q : ℚ) (whole : List Char) (fraction : Option (List Char))
    (exponent : Option ℤ) : Prop extends IsNumeral whole fraction where
  text : cs = numeralText whole fraction exponent
  double : fraction.isSome ∨ exponent.isSome
  value : (decimalValue (whole ++ fraction.getD []) : ℚ) *
    10 ^ (exponent.getD 0 - (fraction.getD []).length) = q

/-- The text of a numeral, with a point or an exponent, of a value. -/
def Spells (cs : List Char) (q : ℚ) : Prop :=
  ∃ whole fraction exponent, IsDouble cs q whole fraction exponent

theorem Spells.isNumeral {cs : List Char} {q : ℚ} (h : Spells cs q) :
    ∃ whole fraction exponent, IsNumeral whole fraction ∧
      cs = numeralText whole fraction exponent := by
  obtain ⟨whole, fraction, exponent, hdouble⟩ := h
  exact ⟨whole, fraction, exponent, hdouble.toIsNumeral, hdouble.text⟩

theorem signed?_of_spells {cs : List Char} {q : ℚ} {w : ℕ} (h : Spells cs q)
    (hround : Binary64.RoundsTo q w) (hw : w < Binary64.infinityWord) :
    signed? cs = some (.double (.ofMagnitude false w)) := by
  obtain ⟨whole, fraction, exponent, hdouble⟩ := h
  have hint := int?_eq_none hdouble.toIsNumeral exponent hdouble.double
  have hvalue := double?_numeralText hdouble.toIsNumeral exponent
  rw [← hdouble.value] at hround
  rw [Binary64.ofDecimal_eq false _ _ w hw hround] at hvalue
  rw [hdouble.text, signed?, hint, hvalue]
  rfl

theorem isDigits_append {cs ds : List Char} (hcs : IsDigits cs) (hds : IsDigits ds) :
    IsDigits (cs ++ ds) := fun c hc =>
  (List.mem_append.mp hc).elim (hcs c) (hds c)

theorem isDigits_zeros (n : ℕ) : IsDigits (List.replicate n '0') := by
  intro c hc
  rw [List.eq_of_mem_replicate hc]
  rfl

/-! The forms of a decimal. Each has its digits in order, zeros apart. -/

theorem isDigits_zero : IsDigits ['0'] := isDigits_zeros 1

theorem spells_zero : Spells "0.0".toList 0 :=
  ⟨['0'], some ['0'], none, ⟨isDigits_zero, by simp, by simp [isDigits_zero]⟩, rfl, .inl rfl, by
    simp [decimalValue]⟩

theorem spells_mantissa (cs : List Char) (hdigits : IsDigits cs) (hne : cs ≠ []) (point : ℤ) :
    Spells ((Decimal.mantissa cs).toList ++ 'e' :: (toString (point - 1)).toList)
      (decimalValue cs * 10 ^ (point - cs.length)) := by
  match cs, hne with
  | [c], _ =>
    refine ⟨[c], none, some (point - 1), ⟨hdigits, by simp, by simp⟩, ?_, .inr rfl, ?_⟩
    · simp [Decimal.mantissa, numeralText]
    · simp
  | c :: c' :: rest, _ =>
    refine ⟨[c], some (c' :: rest), some (point - 1), ⟨fun a ha => hdigits a ?_, by simp, ?_⟩, ?_,
      .inl rfl, ?_⟩
    · simp [List.mem_singleton.mp ha]
    · rintro f ⟨⟩ a ha
      exact hdigits a (List.mem_cons_of_mem c ha)
    · simp [Decimal.mantissa, numeralText]
    · have hplaces : point - 1 - (rest.length + 1 : ℕ) = point - (rest.length + 1 + 1 : ℕ) := by
        push_cast
        ring
      simp only [List.singleton_append, Option.getD_some, List.length_cons, hplaces]

theorem spells_positional (cs : List Char) (hdigits : IsDigits cs) (hne : cs ≠ []) (point : ℤ) :
    Spells (Decimal.positional cs point ".0").toList
      (decimalValue cs * 10 ^ (point - cs.length)) := by
  have hzero : decimalValue ['0'] = 0 := rfl
  unfold Decimal.positional
  dsimp only
  split_ifs with hsmall hwhole
  · obtain ⟨k, hk⟩ : ∃ k : ℕ, point = -k := ⟨point.natAbs, by omega⟩
    have hpadding : (-point).toNat = k := by omega
    rw [hpadding]
    refine ⟨['0'], some (List.replicate k '0' ++ cs), none, ⟨isDigits_zero, by simp, ?_⟩, ?_,
      .inl rfl, ?_⟩
    · rintro f ⟨⟩
      exact isDigits_append (isDigits_zeros k) hdigits
    · simp [numeralText]
    · simp only [Option.getD_some, Option.getD_none, List.length_append, List.length_replicate,
        decimalValue_append, decimalValue_zeros, hzero, hk]
      push_cast
      ring_nf
  · have hlong : cs.length ≤ point.toNat := by simpa using hwhole
    obtain ⟨k, hk⟩ : ∃ k : ℕ, point = cs.length + k := ⟨point.toNat - cs.length, by omega⟩
    have hpadding : point.toNat - cs.length = k := by omega
    rw [hpadding, List.take_of_length_le hlong]
    refine ⟨cs ++ List.replicate k '0', some ['0'], none,
      ⟨isDigits_append hdigits (isDigits_zeros k), by simp [hne], by simp [isDigits_zero]⟩, ?_,
      .inl rfl, ?_⟩
    · simp [numeralText]
    · have hshift : point - cs.length = k := by omega
      simp only [Option.getD_some, Option.getD_none, decimalValue_append, decimalValue_zeros,
        hzero, hshift, List.length_replicate, List.length_singleton, zpow_natCast]
      push_cast
      ring
  · have hshort : point.toNat < cs.length := by simpa using hwhole
    refine ⟨cs.take point.toNat, some (cs.drop point.toNat), none,
      ⟨fun c hc => hdigits c (List.mem_of_mem_take hc), ?_, ?_⟩, ?_, .inl rfl, ?_⟩
    · rw [ne_eq, List.take_eq_nil_iff]
      rintro (hzero | hnil)
      · omega
      · exact hne hnil
    · rintro f ⟨⟩ c hc
      exact hdigits c (List.mem_of_mem_drop hc)
    · simp [numeralText]
    · have hplaces : (0 : ℤ) - (cs.length - point.toNat : ℕ) = point - cs.length := by omega
      simp only [Option.getD_some, Option.getD_none, List.take_append_drop, List.length_drop,
        hplaces]

theorem toRat_eq (d : Decimal) (hd : 0 < d.digits) :
    d.toRat = decimalValue (Decimal.digitText d.digits) *
      10 ^ (d.point - (Decimal.digitText d.digits).length) := by
  have hvalue : decimalValue (Decimal.digitText d.digits) = d.digits := decimalValue_toDigits _
  rw [hvalue, Decimal.length_digitText d.digits hd, Decimal.point, add_sub_cancel_right]
  rfl

/-- What follows the sign in the literal of a finite double. -/
theorem literal_eq (x : Binary64) (hfinite : x.magnitude < Binary64.infinityWord) :
    ∃ body, x.literal.toList = (if x.isNegative then ['-'] else []) ++ body ∧
      Spells body x.shortest.toRat := by
  have hnan : x.isNaN = false := by
    rw [Binary64.isNaN, decide_eq_false_iff_not]
    omega
  have hinfinite : x.isInfinite = false := by
    rw [Binary64.isInfinite, beq_eq_false_iff_ne]
    omega
  have hsign : x.signText.toList = if x.isNegative then ['-'] else [] := by
    unfold Binary64.signText
    split <;> rfl
  unfold Binary64.literal
  rw [hnan, hinfinite, ← hsign]
  simp only [Bool.false_eq_true, if_false]
  by_cases hzero : x.isZero = true
  · have hsignificand : x.significand = 0 :=
      (Binary64.significand_eq_zero_iff x).mpr (by simpa [Binary64.isZero] using hzero)
    have hvalue : x.shortest.toRat = 0 := by
      rw [Binary64.shortest, if_pos hsignificand, Decimal.toRat]
      simp
    rw [if_pos hzero, hvalue]
    exact ⟨"0.0".toList, by simp, spells_zero⟩
  · rw [if_neg hzero]
    have hpos : 0 < x.shortest.digits := x.digits_shortest_pos <| by
      rw [Nat.pos_iff_ne_zero]
      simpa [Binary64.isZero] using hzero
    have hdigits : IsDigits (Decimal.digitText x.shortest.digits) := isDigits_toDigits _
    have hne : Decimal.digitText x.shortest.digits ≠ [] := Nat.toDigits_ne_nil
    rw [toRat_eq x.shortest hpos]
    split_ifs
    · exact ⟨_, by simp [String.toList_append], spells_mantissa _ hdigits hne x.shortest.point⟩
    · exact ⟨_, by rw [String.toList_append], spells_positional _ hdigits hne x.shortest.point⟩

end Script.Numeral

end Docbase
