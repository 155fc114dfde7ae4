import Docbase.Text.Hex
import Mathlib.Tactic

/-!
Bytes written in hexadecimal read back as they were, so two texts agree only if their bytes do.
A byte is written as two lowercase digits.
-/
namespace Docbase.Hex

theorem digitValue?_digit (n : ℕ) (hn : n < 16) : digitValue? (digit n) = some n := by
  interval_cases n <;> rfl

theorem decodeChars?_encodeChars (bytes : List UInt8) :
    decodeChars? (encodeChars bytes) = some bytes := by
  induction bytes with
  | nil => rfl
  | cons b bytes ih =>
    have hb : b.toNat < 256 := b.toNat_lt
    have hhigh := digitValue?_digit (b.toNat / 16) (by omega)
    have hlow := digitValue?_digit (b.toNat % 16) (by omega)
    have hbyte : UInt8.ofNat (16 * (b.toNat / 16) + b.toNat % 16) = b := by
      rw [Nat.div_add_mod, UInt8.ofNat_toNat]
    rw [encodeChars, decodeChars?, hhigh, hlow, ih]
    exact congrArg (fun head => some (head :: bytes)) hbyte

theorem decode?_encode (bytes : List UInt8) : decode? (encode bytes) = some bytes := by
  rw [decode?, encode, String.toList_ofList, decodeChars?_encodeChars]

theorem encode_inj (x y : List UInt8) : encode x = encode y ↔ x = y := by
  constructor
  · intro h
    have heq := congrArg decode? h
    rw [decode?_encode, decode?_encode] at heq
    exact Option.some.inj heq
  · exact congrArg encode

/-- The digits that are written. -/
def digits : List Char := "0123456789abcdef".toList

theorem digit_mem (n : ℕ) (hn : n < 16) : digit n ∈ digits := by
  interval_cases n <;> decide

theorem encodeChars_spec (bytes : List UInt8) :
    (encodeChars bytes).length = 2 * bytes.length ∧ ∀ c ∈ encodeChars bytes, c ∈ digits := by
  induction bytes with
  | nil => simp [encodeChars]
  | cons b rest ih =>
    have hb : b.toNat < 256 := b.toNat_lt
    have hhigh := digit_mem (b.toNat / 16) (by omega)
    have hlow := digit_mem (b.toNat % 16) (by omega)
    refine ⟨?_, ?_⟩
    · simp only [encodeChars, List.length_cons, ih.1]
      omega
    · simp only [encodeChars, List.forall_mem_cons]
      exact ⟨hhigh, hlow, ih.2⟩

end Docbase.Hex
