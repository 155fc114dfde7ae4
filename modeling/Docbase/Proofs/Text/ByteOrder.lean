import Docbase.Proofs.Text.Utf8

/-!
Texts in the order of their bytes. The encoding of a character that comes first differs from that
of the other one at some byte, and is the smaller one there, so texts are in the order of their
characters as they are in that of their bytes.
-/
namespace Docbase.Utf8

/-- The first bytes come before the second ones, whatever follows on either side. -/
def ComesBefore (x y : Bytes) : Prop := ∀ r s : Bytes, x ++ r < y ++ s

/-- Leading bytes decide, and the bytes after them where they are the same. -/
theorem comesBefore_cons {a b : ℕ} {x y : Bytes} (hle : a ≤ b) (hb : b < 256)
    (h : a = b → ComesBefore x y) : ComesBefore (UInt8.ofNat a :: x) (UInt8.ofNat b :: y) := by
  intro r s
  rw [List.cons_append, List.cons_append]
  rcases Nat.lt_or_eq_of_le hle with hlt | heq
  · apply List.Lex.rel
    rw [UInt8.lt_iff_toNat_lt, UInt8.toNat_ofNat', UInt8.toNat_ofNat', Nat.mod_eq_of_lt hb,
      Nat.mod_eq_of_lt (by omega)]
    exact hlt
  · rw [heq]
    exact List.Lex.cons (h heq r s)

/-- The bytes of a character by its size. -/
theorem utf8EncodeChar_cases (c : Char) :
    c.toNat < 0x80 ∧ String.utf8EncodeChar c = [UInt8.ofNat c.toNat] ∨
    0x80 ≤ c.toNat ∧ c.toNat < 0x800 ∧ String.utf8EncodeChar c =
      [UInt8.ofNat (c.toNat / 64 + 192), UInt8.ofNat (c.toNat % 64 + 128)] ∨
    0x800 ≤ c.toNat ∧ c.toNat < 0x10000 ∧ String.utf8EncodeChar c =
      [UInt8.ofNat (c.toNat / 4096 + 224), UInt8.ofNat (c.toNat / 64 % 64 + 128),
        UInt8.ofNat (c.toNat % 64 + 128)] ∨
    0x10000 ≤ c.toNat ∧ c.toNat < 0x110000 ∧ String.utf8EncodeChar c =
      [UInt8.ofNat (c.toNat / 262144 + 240), UInt8.ofNat (c.toNat / 4096 % 64 + 128),
        UInt8.ofNat (c.toNat / 64 % 64 + 128), UInt8.ofNat (c.toNat % 64 + 128)] := by
  have hc := char_range c
  have hval : c.val.toNat = c.toNat := rfl
  unfold String.utf8EncodeChar
  rw [hval]
  dsimp only
  generalize c.toNat = n at hc
  split_ifs with h1 h2 h3
  · exact Or.inl ⟨by omega, rfl⟩
  · have hhigh : n / 64 % 32 = n / 64 := by omega
    rw [hhigh]
    exact Or.inr (Or.inl ⟨by omega, by omega, rfl⟩)
  · have hhigh : n / 4096 % 16 = n / 4096 := by omega
    rw [hhigh]
    exact Or.inr (Or.inr (Or.inl ⟨by omega, by omega, rfl⟩))
  · have hhigh : n / 262144 % 8 = n / 262144 := by omega
    rw [hhigh]
    exact Or.inr (Or.inr (Or.inr ⟨by omega, by omega, rfl⟩))

theorem comesBefore_char {c d : Char} (h : c < d) :
    ComesBefore (String.utf8EncodeChar c) (String.utf8EncodeChar d) := by
  have hlt : c.toNat < d.toNat := h
  rcases utf8EncodeChar_cases c with ⟨hc, hx⟩ | ⟨hlow, hc, hx⟩ | ⟨hlow, hc, hx⟩ | ⟨hlow, hc, hx⟩
  all_goals
    rcases utf8EncodeChar_cases d with ⟨hd, hy⟩ | ⟨hlow', hd, hy⟩ | ⟨hlow', hd, hy⟩ | ⟨hlow', hd, hy⟩
  all_goals
    rw [hx, hy]
    clear hx hy
    -- byte by byte, up to one at which they differ
    repeat first
      | omega
      | refine comesBefore_cons (by omega) (by omega) fun _ => ?_

theorem encodeChars_lt {cs ds : List Char} (h : cs < ds) : encodeChars cs < encodeChars ds := by
  unfold encodeChars
  induction h with
  | @nil d ds =>
    obtain ⟨b, rest, hbytes, -⟩ := decodeFirst_encode d []
    rw [List.flatMap_nil, List.flatMap_cons, hbytes]
    exact List.Lex.nil
  | @cons c cs ds _ ih =>
    rw [List.flatMap_cons, List.flatMap_cons]
    exact List.append_left_lt ih
  | @rel c d cs ds hlt =>
    rw [List.flatMap_cons, List.flatMap_cons]
    exact comesBefore_char hlt _ _

theorem encode_lt {s t : String} (h : s < t) : encode s < encode t := encodeChars_lt h

end Docbase.Utf8
