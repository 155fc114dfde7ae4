import Docbase.Proofs.Script.LiteralSyntax
import Docbase.Proofs.Script.Scanning
import Docbase.Proofs.Text.Hex
import Docbase.Proofs.Value.Shape

/-!
Literals as text. A quoted text is one token whatever its bytes are and whatever follows it, so
no key, pattern or name can end it and be read as script. The literals are printable ASCII, so
none of them breaks a line and each takes as many bytes as it has characters.
-/
namespace Docbase.Script

/-- The characters of ASCII other than the control characters. -/
def IsPrintable (c : Char) : Prop := 0x20 ≤ c.toNat ∧ c.toNat ≤ 0x7E

instance (c : Char) : Decidable (IsPrintable c) := inferInstanceAs (Decidable (_ ∧ _))

/-- Printable text, which has no line breaks. -/
def Printable (cs : List Char) : Prop := ∀ c ∈ cs, IsPrintable c

instance (cs : List Char) : Decidable (Printable cs) :=
  List.decidableBAll IsPrintable cs

variable {cs ds : List Char}

@[simp]
theorem printable_append : Printable (cs ++ ds) ↔ Printable cs ∧ Printable ds :=
  List.forall_mem_append

@[simp]
theorem printable_cons {c : Char} : Printable (c :: cs) ↔ IsPrintable c ∧ Printable cs :=
  List.forall_mem_cons

@[simp]
theorem printable_nil : Printable [] := List.forall_mem_nil _

/-- Text of one byte for each character. -/
theorem utf8ByteSize_ascii (s : String) (hs : ∀ c ∈ s.toList, c.toNat < 0x80) :
    s.utf8ByteSize = s.length := by
  have hsize : ∀ cs : List Char, (∀ c ∈ cs, c.toNat < 0x80) →
      (String.ofList cs).utf8ByteSize = cs.length := by
    intro cs hcs
    induction cs with
    | nil => rfl
    | cons c cs ih =>
      have hc : c.utf8Size = 1 :=
        Char.utf8Size_eq_one_iff.mpr (UInt32.le_iff_toNat_le.mpr (Nat.le_of_lt_succ (hcs c
          List.mem_cons_self)))
      have hrest := ih fun d hd => hcs d (List.mem_cons_of_mem c hd)
      rw [String.ofList_cons, String.utf8ByteSize_append, String.utf8ByteSize_singleton, hc, hrest,
        List.length_cons, Nat.add_comm]
  have hs' := hsize s.toList hs
  rwa [String.ofList_toList, String.length_toList] at hs'

theorem Printable.utf8ByteSize {s : String} (h : Printable s.toList) :
    s.utf8ByteSize = s.length := by
  apply utf8ByteSize_ascii
  intro c hc
  have hbound := (h c hc).2
  omega

/-! The parts of a literal. -/

theorem isPrintable_ofNat (n : ℕ) (hlow : 0x20 ≤ n) (hhigh : n ≤ 0x7E) :
    IsPrintable (Char.ofNat n) := by
  have hvalid : n.isValidChar := Or.inl (by omega)
  have hchar : (Char.ofNat n).toNat = n := by
    rw [Char.ofNat, dif_pos hvalid]
    rfl
  rw [IsPrintable, hchar]
  exact ⟨hlow, hhigh⟩

theorem isPrintable_of_isDigit {c : Char} (hc : c.isDigit = true) : IsPrintable c :=
  Numeral.forall_isDigit IsPrintable (by decide) c hc

theorem printable_of_isDigits (h : Numeral.IsDigits cs) : Printable cs :=
  fun c hc => isPrintable_of_isDigit (h c hc)

namespace Literal

theorem printable_escapeByte (b : UInt8) : Printable (escapeByte b) := by
  have hdigit (n : ℕ) (hn : n < 10) : IsPrintable (digit n) :=
    isPrintable_of_isDigit (Lexer.isDigit_digit n hn).1
  have hslash : IsPrintable '\\' := by decide
  have hsize := b.toNat_lt
  unfold escapeByte
  split_ifs with hquote hbackslash hprintable
  · decide
  · decide
  · have hlow := UInt8.le_iff_toNat_le.mp hprintable.1
    have hhigh := UInt8.le_iff_toNat_le.mp hprintable.2
    simp only [printable_cons, printable_nil, and_true]
    exact isPrintable_ofNat b.toNat hlow hhigh
  · simp only [printable_cons, printable_nil, and_true]
    exact ⟨hslash, hdigit _ (by omega), hdigit _ (by omega), hdigit _ (by omega)⟩

theorem printable_quoted (bytes : Bytes) : Printable (quoted bytes) := by
  have hquote : IsPrintable '"' := by decide
  rw [quoted, printable_append, printable_cons, printable_cons]
  refine ⟨⟨hquote, ?_⟩, hquote, printable_nil⟩
  intro c hc
  obtain ⟨b, _, hc⟩ := List.mem_flatMap.mp hc
  exact printable_escapeByte b c hc

theorem printable_toString (k : ℤ) : Printable (toString k).toList := by
  intro c hc
  rcases Numeral.mem_toString k c hc with hc | hc
  · subst hc
    decide
  · exact isPrintable_of_isDigit hc

theorem printable_integer (n : Int64) : Printable (integer n) := by
  unfold integer
  split_ifs
  · decide
  · exact printable_toString n.toInt

theorem printable_numeralText {whole : List Char} {fraction : Option (List Char)}
    (h : Numeral.IsNumeral whole fraction) (exponent : Option ℤ) :
    Printable (Numeral.numeralText whole fraction exponent) := by
  have hpoint : IsPrintable '.' := by decide
  have hmark : IsPrintable 'e' := by decide
  rw [Numeral.numeralText, printable_append, printable_append]
  refine ⟨⟨printable_of_isDigits h.digits, ?_⟩, ?_⟩
  · cases fraction with
    | none => exact printable_nil
    | some digits =>
      exact printable_cons.mpr ⟨hpoint, printable_of_isDigits (h.fractionDigits digits rfl)⟩
  · cases exponent with
    | none => exact printable_nil
    | some k => exact printable_cons.mpr ⟨hmark, printable_toString k⟩

theorem printable_double (x : Binary64) : Printable (double x) := by
  unfold double
  split_ifs with hnan hinfinite hnegative
  · decide
  · decide
  · decide
  · have hfinite : x.magnitude < Binary64.infinityWord := by
      simp only [Binary64.isNaN, decide_eq_true_eq, Binary64.isInfinite, beq_iff_eq]
        at hnan hinfinite
      omega
    obtain ⟨body, htext, hspells⟩ := Numeral.literal_eq x hfinite
    obtain ⟨whole, fraction, exponent, hnumeral, hbody⟩ := hspells.isNumeral
    rw [htext, printable_append, hbody]
    refine ⟨?_, printable_numeralText hnumeral exponent⟩
    split_ifs <;> decide

theorem printable_commaSeparated {parts : List (List Char)} (h : ∀ part ∈ parts, Printable part) :
    Printable (commaSeparated parts) := by
  induction parts with
  | nil => exact printable_nil
  | cons part parts ih =>
    have hpart := h part List.mem_cons_self
    have hparts := ih fun p hp => h p (List.mem_cons_of_mem part hp)
    cases parts with
    | nil => exact hpart
    | cons next parts =>
      have hcomma : IsPrintable ',' ∧ IsPrintable ' ' := by decide
      rw [commaSeparated, printable_append, printable_cons, printable_cons]
      · exact ⟨hpart, hcomma.1, hcomma.2, hparts⟩
      · exact List.cons_ne_nil next parts

theorem printable_fieldTexts {fields : List (String × Value)}
    (h : ∀ entry ∈ fields, Printable (ofValue entry.2)) :
    ∀ part ∈ fieldTexts fields, Printable part := by
  induction fields with
  | nil => simp [fieldTexts]
  | cons entry fields ih =>
    obtain ⟨key, v⟩ := entry
    have hopen : IsPrintable '[' := by decide
    have hclose : Printable "] = ".toList := by decide
    have hkey := printable_quoted (Utf8.encode key)
    have hvalue := h (key, v) List.mem_cons_self
    have hrest := ih fun e he => h e (List.mem_cons_of_mem _ he)
    intro part hpart
    rw [fieldTexts] at hpart
    rcases List.mem_cons.mp hpart with hpart | hpart
    · subst hpart
      simp only [printable_cons, printable_append]
      exact ⟨⟨⟨hopen, hkey⟩, hclose⟩, hvalue⟩
    · exact hrest part hpart

theorem printable_itemTexts {items : List Value} (h : ∀ v ∈ items, Printable (ofValue v)) :
    ∀ part ∈ itemTexts items, Printable part := by
  induction items with
  | nil => simp [itemTexts]
  | cons v items ih =>
    have hrest := ih fun w hw => h w (List.mem_cons_of_mem v hw)
    intro part hpart
    rw [itemTexts] at hpart
    rcases List.mem_cons.mp hpart with hpart | hpart
    · subst hpart
      exact h v List.mem_cons_self
    · exact hrest part hpart

theorem printable_keys (fields : List (String × Value)) :
    Printable (commaSeparated (fields.map fun entry => quotedText entry.1)) := by
  apply printable_commaSeparated
  intro part hpart
  obtain ⟨entry, _, rfl⟩ := List.mem_map.mp hpart
  exact printable_quoted (Utf8.encode entry.1)

theorem printable_scalar (v : Value) (hscalar : v.IsScalar) : Printable (ofValue v) := by
  have hclose : Printable [')'] := by decide
  have hcomma : Printable ", ".toList := by decide
  cases v with
  | minKey => decide
  | null => decide
  | maxKey => decide
  | int32 n => exact printable_toString n.toInt
  | int64 n => exact printable_integer n
  | double x => exact printable_double x
  | string s => exact printable_quoted (Utf8.encode s)
  | boolean b => cases b <;> decide
  | dateTime ms =>
    rw [ofValue_dateTime, printable_append, printable_append]
    exact ⟨⟨by decide, printable_integer ms⟩, hclose⟩
  | binary subtype bytes =>
    simp only [ofValue_binary, printable_append]
    exact ⟨⟨⟨⟨by decide, printable_toString subtype.toNat⟩, hcomma⟩, printable_quoted bytes⟩,
      hclose⟩
  | objectId id =>
    have hid : Printable id.hex.toList := by
      have hdigits : Printable Hex.digits := by decide
      intro c hc
      rw [ObjectId.hex, Hex.encode, String.toList_ofList] at hc
      exact hdigits c ((Hex.encodeChars_spec id.bytes).2 c hc)
    rw [ofValue_objectId, printable_append, printable_append]
    exact ⟨⟨by decide, hid⟩, by decide⟩
  | regex r =>
    simp only [ofValue_regex, printable_append]
    exact ⟨⟨⟨⟨by decide, printable_quoted _⟩, hcomma⟩, printable_quoted _⟩, hclose⟩
  | document fields => exact hscalar.elim
  | array items => exact hscalar.elim
  | reference database collection id => exact hscalar.elim

theorem printable_ofValue (v : Value) : Printable (ofValue v) := by
  induction v using Value.nested_induction with
  | scalar v hscalar => exact printable_scalar v hscalar
  | document fields ih =>
    have hfields := printable_commaSeparated (printable_fieldTexts ih)
    simp only [ofValue_document, printable_append]
    exact ⟨⟨⟨⟨by decide, hfields⟩, by decide⟩, printable_keys fields⟩, by decide⟩
  | array items ih =>
    have hitems := printable_commaSeparated (printable_itemTexts ih)
    simp only [ofValue_array, printable_append]
    exact ⟨⟨by decide, hitems⟩, by decide⟩
  | reference database collection id ih =>
    have hcomma : Printable ", ".toList := by decide
    have hcollection := printable_quoted (Utf8.encode collection)
    simp only [ofValue_reference, printable_append]
    refine ⟨⟨⟨⟨⟨by decide, hcollection⟩, hcomma⟩, ih⟩, ?_⟩, by decide⟩
    cases database with
    | none => exact printable_nil
    | some name => exact printable_append.mpr ⟨hcomma, printable_quoted (Utf8.encode name)⟩

theorem printable_value (v : Value) : Printable (value v).toList := by
  rw [value, String.toList_ofList]
  exact printable_ofValue v

theorem printable_document (d : Document) : Printable (document d).toList := by
  rw [document, String.toList_ofList]
  exact printable_ofValue (.document d)

end Literal

end Docbase.Script
