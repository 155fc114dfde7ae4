import Docbase.Text.Utf8
import Mathlib.Tactic

/-!
Text encoded as UTF-8 decodes to itself.
-/
namespace Docbase.Utf8

/-- The numbers of characters leave out the surrogates. -/
theorem char_range (c : Char) : c.toNat < 0xD800 ∨ 0xDFFF < c.toNat ∧ c.toNat < 0x110000 :=
  c.valid

theorem between_ofNat (low high : UInt8) (n : ℕ) (h : n < 256) :
    between low high (UInt8.ofNat n) = decide (low.toNat ≤ n ∧ n ≤ high.toNat) := by
  rw [between, Bool.decide_and]
  simp [UInt8.le_iff_toNat_le, Nat.mod_eq_of_lt h]

theorem isContinuation_ofNat (n : ℕ) (h : n < 64) :
    isContinuation (UInt8.ofNat (n + 128)) = true := by
  rw [isContinuation, between_ofNat _ _ _ (by omega)]
  simp
  omega

theorem payload_ofNat (n : ℕ) (h : n < 64) : payload (UInt8.ofNat (n + 128)) = n := by
  rw [payload, UInt8.toNat_ofNat']
  omega

theorem ofNat_of_eq (c : Char) (n : ℕ) (h : n = c.toNat) : Char.ofNat n = c := by
  rw [h, Char.ofNat_toNat]

theorem lt_ofNat (n : ℕ) (h : n < 256) : UInt8.ofNat n < 0x80 ↔ n < 128 := by
  rw [UInt8.lt_iff_toNat_lt, UInt8.toNat_ofNat', Nat.mod_eq_of_lt h]
  rfl

theorem ofNat_eq_iff (n k : ℕ) (hn : n < 256) (hk : k < 256) :
    UInt8.ofNat n = UInt8.ofNat k ↔ n = k := by
  rw [← UInt8.toNat_inj, UInt8.toNat_ofNat', UInt8.toNat_ofNat', Nat.mod_eq_of_lt hn,
    Nat.mod_eq_of_lt hk]

/-- What may follow a first byte, in numbers. -/
theorem secondRange_ofNat (first second : ℕ) (hf : first < 256) (hs : second < 64)
    (hE0 : first = 0xE0 → 0x20 ≤ second) (hED : first = 0xED → second ≤ 0x1F)
    (hF0 : first = 0xF0 → 0x10 ≤ second) (hF4 : first = 0xF4 → second ≤ 0xF) :
    secondRange (UInt8.ofNat first) (UInt8.ofNat (second + 128)) = true := by
  have hfirst (k : ℕ) (hk : k < 256) : UInt8.ofNat first = UInt8.ofNat k ↔ first = k :=
    ofNat_eq_iff first k hf hk
  have hsecond : second + 128 < 256 := by omega
  unfold secondRange
  split_ifs with h1 h2 h3 h4
  · have := hE0 ((hfirst 0xE0 (by omega)).mp h1)
    rw [between_ofNat _ _ _ hsecond, decide_eq_true_eq]
    simp
    omega
  · have := hED ((hfirst 0xED (by omega)).mp h2)
    rw [between_ofNat _ _ _ hsecond, decide_eq_true_eq]
    simp
    omega
  · have := hF0 ((hfirst 0xF0 (by omega)).mp h3)
    rw [between_ofNat _ _ _ hsecond, decide_eq_true_eq]
    simp
    omega
  · have := hF4 ((hfirst 0xF4 (by omega)).mp h4)
    rw [between_ofNat _ _ _ hsecond, decide_eq_true_eq]
    simp
    omega
  · exact isContinuation_ofNat second hs

/-- The bytes of a character are read as this character, whatever follows. -/
theorem decodeFirst_encode (c : Char) (tail : Bytes) :
    ∃ b rest, String.utf8EncodeChar c = b :: rest ∧
      decodeFirst b (rest ++ tail) = (c, rest.length) := by
  have hrange := char_range c
  have hval : c.val.toNat = c.toNat := rfl
  unfold String.utf8EncodeChar
  rw [hval]
  dsimp only
  generalize hn : c.toNat = n at hrange
  by_cases h1 : n ≤ 127
  · rw [if_pos h1]
    refine ⟨_, _, rfl, ?_⟩
    rw [decodeFirst.eq_def, if_pos ((lt_ofNat n (by omega)).mpr (by omega)), UInt8.toNat_ofNat',
      ofNat_of_eq c _ (by omega)]
    rfl
  rw [if_neg h1]
  by_cases h2 : n ≤ 2047
  · rw [if_pos h2]
    refine ⟨_, _, rfl, ?_⟩
    have hhigh : n / 64 % 32 + 192 < 256 := by omega
    rw [decodeFirst.eq_def, if_neg (mt (lt_ofNat _ hhigh).mp (by omega)),
      between_ofNat _ _ _ hhigh, if_pos (by simp; omega)]
    simp only [List.cons_append, List.nil_append]
    rw [if_pos (isContinuation_ofNat _ (by omega)), payload_ofNat _ (by omega), UInt8.toNat_ofNat',
      ofNat_of_eq c _ (by omega)]
    rfl
  rw [if_neg h2]
  by_cases h3 : n ≤ 65535
  · rw [if_pos h3]
    refine ⟨_, _, rfl, ?_⟩
    have hhigh : n / 4096 % 16 + 224 < 256 := by omega
    have hsecond := secondRange_ofNat (n / 4096 % 16 + 224) (n / 64 % 64) hhigh (by omega)
      (by omega) (by omega) (by omega) (by omega)
    rw [decodeFirst.eq_def, if_neg (mt (lt_ofNat _ hhigh).mp (by omega)),
      between_ofNat _ _ _ hhigh, between_ofNat _ _ _ hhigh, if_neg (by simp),
      if_pos (by simp; omega)]
    simp only [List.cons_append, List.nil_append]
    rw [if_pos hsecond, if_pos (isContinuation_ofNat _ (by omega)), payload_ofNat _ (by omega),
      payload_ofNat _ (by omega), UInt8.toNat_ofNat', ofNat_of_eq c _ (by omega)]
    rfl
  · rw [if_neg h3]
    refine ⟨_, _, rfl, ?_⟩
    have hhigh : n / 262144 % 8 + 240 < 256 := by omega
    have hsecond := secondRange_ofNat (n / 262144 % 8 + 240) (n / 4096 % 64) hhigh (by omega)
      (by omega) (by omega) (by omega) (by omega)
    rw [decodeFirst.eq_def, if_neg (mt (lt_ofNat _ hhigh).mp (by omega)),
      between_ofNat _ _ _ hhigh, between_ofNat _ _ _ hhigh, between_ofNat _ _ _ hhigh,
      if_neg (by simp), if_neg (by simp), if_pos (by simp; omega)]
    simp only [List.cons_append, List.nil_append]
    rw [if_pos hsecond, if_pos (isContinuation_ofNat _ (by omega)),
      if_pos (isContinuation_ofNat _ (by omega)), payload_ofNat _ (by omega),
      payload_ofNat _ (by omega), payload_ofNat _ (by omega), UInt8.toNat_ofNat',
      ofNat_of_eq c _ (by omega)]
    rfl

theorem decodeFrom_append (skipped rest : Bytes) :
    decodeFrom skipped.length (skipped ++ rest) = decodeFrom 0 rest := by
  induction skipped with
  | nil => rfl
  | cons b skipped ih => exact ih

theorem decodeChars_encodeChars (cs : List Char) : decodeChars (encodeChars cs) = cs := by
  unfold decodeChars encodeChars
  induction cs with
  | nil => rfl
  | cons c cs ih =>
    rw [List.flatMap_cons]
    obtain ⟨b, rest, hbytes, hfirst⟩ := decodeFirst_encode c (cs.flatMap String.utf8EncodeChar)
    rw [hbytes, List.cons_append, decodeFrom, hfirst]
    dsimp only
    rw [decodeFrom_append, ih]

theorem decode_encode (s : String) : decode (encode s) = s := by
  rw [decode, encode, decodeChars_encodeChars, String.ofList_toList]

theorem encode_injective : Function.Injective encode :=
  Function.LeftInverse.injective decode_encode

end Docbase.Utf8
