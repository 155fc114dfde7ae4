import Docbase.Proofs.Script.Parsing
import Docbase.Proofs.Value.Shape
import Docbase.Script.Scope

/-!
Literals as syntax. The text of a value reads as one expression, on whichever line it stands.
Its own function gives that expression, so the unit that stores a value in a global is compiled
to one assignment wherever the parser's limits allow.
-/
namespace Docbase.Script

/-! How deep the parser goes. -/

mutual

/-- The levels of the parser inside an expression without functions. -/
def Expr.levels : Expr → ℕ
  | .unary _ _ a => a.levels + 1
  | .binary _ _ a b => max a.levels (b.levels + 1)
  | .paren e => e.levels + 1
  | .index _ object _ => object.levels
  | .call _ f args => max f.levels (Expr.levelsOfAll args)
  | .table _ items => Item.levelsOfAll items
  | _ => 0

def Expr.levelsOfAll : List Expr → ℕ
  | [] => 0
  | e :: es => max (e.levels + 1) (Expr.levelsOfAll es)

def Item.levelsOfAll : List Item → ℕ
  | [] => 0
  | .positional e :: is => max (e.levels + 1) (Item.levelsOfAll is)
  | .keyed _ e :: is => max (e.levels + 1) (Item.levelsOfAll is)

end

/-! Expressions elsewhere in a source. -/

mutual

/-- An expression without functions as it is when all of it stands on one line. -/
def Expr.onLine (line : ℕ) : Expr → Expr
  | .name _ x => .name line x
  | .index _ object key => .index line (object.onLine line) (key.onLine line)
  | .call _ f args => .call line (f.onLine line) (Expr.allOnLine line args)
  | .method _ object x args => .method line (object.onLine line) x (Expr.allOnLine line args)
  | .unary _ op a => .unary line op (a.onLine line)
  | .binary _ op a b => .binary line op (a.onLine line) (b.onLine line)
  | .and a b => .and (a.onLine line) (b.onLine line)
  | .or a b => .or (a.onLine line) (b.onLine line)
  | .table _ items => .table line (Item.allOnLine line items)
  | .paren e => .paren (e.onLine line)
  | e => e

def Expr.allOnLine (line : ℕ) : List Expr → List Expr
  | [] => []
  | e :: es => e.onLine line :: Expr.allOnLine line es

def Item.onLine (line : ℕ) : Item → Item
  | .positional e => .positional (e.onLine line)
  | .keyed key e => .keyed (key.onLine line) (e.onLine line)

def Item.allOnLine (line : ℕ) : List Item → List Item
  | [] => []
  | i :: is => i.onLine line :: Item.allOnLine line is

end

namespace Literal

open Docbase.Script.Parser (constant fieldKey)

/-! The syntax of literals. -/

def textExpr (s : String) : Expr := .text (Utf8.encode s)

def callExpr (f : String) (args : List Expr) : Expr := .call 1 (.name 1 f) args

/-- A number of the library. -/
def mathExpr (x : String) : Expr := .index 1 (.name 1 "math") (fieldKey x)

/-- A numeral with a hyphen before it if the number is negative. -/
def signedExpr (negative : Bool) (n : Number) : Expr :=
  if negative then .unary 1 .negate (constant n) else constant n

def intExpr (k : ℤ) : Expr := signedExpr (decide (k < 0)) (.int (Int64.ofInt k.natAbs))

def integerExpr (n : Int64) : Expr :=
  if n = Int64.minValue then mathExpr "mininteger" else intExpr n.toInt

def doubleExpr (x : Binary64) : Expr :=
  if x.isNaN then .paren (.binary 1 .div (.int 0) (.int 0))
  else if x.isInfinite then
    if x.isNegative then .paren (.unary 1 .negate (mathExpr "huge")) else mathExpr "huge"
  else signedExpr x.isNegative (.double (.ofMagnitude false x.magnitude))

def keyItems (fields : List (String × Value)) : List Item :=
  fields.map fun entry => .positional (textExpr entry.1)

mutual

/-- What the literal of a value is the text of. -/
def expr : Value → Expr
  | .minKey => .name 1 "MinKey"
  | .null => .name 1 "null"
  | .int32 n => intExpr n.toInt
  | .int64 n => integerExpr n
  | .double x => doubleExpr x
  | .string s => textExpr s
  | .boolean b => .boolean b
  | .dateTime ms => callExpr "Date" [integerExpr ms]
  | .binary subtype bytes => callExpr "BinData" [intExpr subtype.toNat, .text bytes]
  | .objectId id => callExpr "ObjectId" [textExpr id.hex]
  | .regex r => callExpr "RegExp" [textExpr r.pattern, textExpr r.options]
  | .document fields =>
    callExpr "Document" [.table 1 (fieldItems fields), .table 1 (keyItems fields)]
  | .array items => callExpr "Array" [.table 1 (elementItems items)]
  | .reference database collection id =>
    callExpr "DBRef" (textExpr collection :: expr id ::
      match database with
      | some name => [textExpr name]
      | none => [])
  | .maxKey => .name 1 "MaxKey"

def fieldItems : List (String × Value) → List Item
  | [] => []
  | (k, v) :: rest => .keyed (textExpr k) (expr v) :: fieldItems rest

def elementItems : List Value → List Item
  | [] => []
  | v :: rest => .positional (expr v) :: elementItems rest

end

/-- The statement that stores a value in a global. -/
def assignment (x : String) (v : Value) : Stmt :=
  .assign 1 [.index (.name 1 "_G") (textExpr x)] [expr v]

end Literal

/-! Pieces of source that are expressions. -/

open Docbase.Script.Lexer Docbase.Script.Parser Docbase.Script.Numeral

/-- A piece has these tokens where it stands inside a literal. -/
def Lexes (cs : List Char) (ts : List Token) : Prop :=
  ∀ line after rest us, Ends rest → LexesTo line after rest us →
    LexesTo line after (cs ++ rest) (ts ++ us)

def Reads (cs : List Char) (e : Expr) : Prop :=
  ∃ ts, Lexes cs ts ∧ Opens ts ∧ ∀ line, Parses line ts (e.levels + 1) (e.onLine line)

def ReadsAll (cs : List Char) (es : List Expr) : Prop :=
  ∃ ts, Lexes cs ts ∧ Opens ts ∧
    ∀ line, ParsesAll line ts (Expr.levelsOfAll es) (Expr.allOnLine line es)

def ReadsItems (cs : List Char) (is : List Item) : Prop :=
  ∃ ts, Lexes cs ts ∧
    (∀ line, ParsesItems line ts (Item.levelsOfAll is) (Item.allOnLine line is)) ∧
    ∀ t ∈ ts.head?, t ≠ .symbol .assign

theorem Lexes.append_comma {cs ds : List Char} {ts us : List Token} (h : Lexes cs ts)
    (h' : Lexes ds us) : Lexes (cs ++ ',' :: ' ' :: ds) (ts ++ .symbol .comma :: us) := by
  intro line after rest vs hends hrest
  rw [List.append_assoc, List.append_assoc]
  exact h _ _ _ _ (by simp [Ends]) (LexesTo.symbol rfl (h' _ _ rest vs hends hrest).blank)

theorem Lexes.quoted (bytes : Bytes) : Lexes (Literal.quoted bytes) [.text bytes] :=
  fun _ _ _ _ _ hrest => hrest.quoted bytes

theorem isNameChar_ends (rest : List Char) (h : Ends rest) :
    ∀ c ∈ rest.head?, isNameChar c = false :=
  h.forall_head (fun c => isNameChar c = false) (by decide)

theorem Lexes.word {w : String} (hw : IsWord w) : Lexes w.toList [wordToken w] :=
  fun _ _ rest _ hends hrest => hrest.word hw (isNameChar_ends rest hends)

/-- A piece in parentheses after a word. -/
theorem Lexes.call {f : String} (hf : IsWord f) {cs : List Char} {ts : List Token}
    (h : Lexes cs ts) :
    Lexes (f.toList ++ '(' :: (cs ++ [')']))
      (wordToken f :: .symbol .openParen :: (ts ++ [Token.symbol .closeParen])) := by
  intro line after rest us hends hrest
  have hclose := h line after (')' :: rest) (.symbol .closeParen :: us) (by simp [Ends])
    (LexesTo.symbol rfl hrest)
  have hopen := LexesTo.word hf (by simp [isNameChar]) (LexesTo.symbol (c := '(') rfl hclose)
  simpa using hopen

theorem Lexes.braces {cs : List Char} {ts : List Token} (h : Lexes cs ts) :
    Lexes ('\x7b' :: (cs ++ ['\x7d']))
      (.symbol .openBrace :: (ts ++ [Token.symbol .closeBrace])) := by
  intro line after rest us hends hrest
  have hclose := h line after ('\x7d' :: rest) (.symbol .closeBrace :: us) (by simp [Ends])
    (LexesTo.symbol rfl hrest)
  simpa using LexesTo.symbol (c := '\x7b') rfl hclose

/-! Leaves. -/

theorem reads_text (s : Bytes) : Reads (Literal.quoted s) (.text s) :=
  ⟨_, Lexes.quoted s, opens_cons _ _ (by simp) (by simp),
    fun _ => (parsesOperand_text s).parses (by simp)⟩

theorem reads_name {w : String} (hw : IsWord w) (hkeyword : Keyword.ofText? w = none) :
    Reads w.toList (.name 1 w) := by
  have hlex := Lexes.word hw
  rw [wordToken, hkeyword] at hlex
  exact ⟨_, hlex, opens_cons _ _ (by simp) (by simp),
    fun _ => (parsesOperand_name w).parses (by simp)⟩

theorem reads_boolean (b : Bool) :
    Reads (if b then "true".toList else "false".toList) (.boolean b) := by
  refine ⟨_, ?_, opens_cons _ _ ?_ (by simp),
    fun _ => (parsesOperand_boolean b).parses (by simp)⟩
  · cases b
    · exact Lexes.word (w := "false") (by decide)
    · exact Lexes.word (w := "true") (by decide)
  · simp

/-- A number of the library. -/
theorem lexes_field {x y : String} (hx : IsWord x) (hy : IsWord y)
    (hkx : Keyword.ofText? x = none) (hky : Keyword.ofText? y = none) :
    Lexes (x.toList ++ '.' :: y.toList) [.name x, .symbol .dot, .name y] := by
  intro line after rest us hends hrest
  have hfield := hrest.word hy (isNameChar_ends rest hends)
  rw [wordToken, hky] at hfield
  obtain ⟨c, tail, hc⟩ := List.exists_cons_of_ne_nil hy.nonempty
  have hstart : c.isDigit = false ∧ c ≠ '.' := by
    have hname : isNameStart c = true := hy.start c (by rw [hc]; rfl)
    refine ⟨Bool.eq_false_iff.mpr fun hdigit => ?_, ?_⟩
    · have hnone := forall_isDigit (fun c => isNameStart c = false) (by decide) c hdigit
      exact absurd hname (by simp [hnone])
    · rintro rfl
      simp [isNameStart] at hname
  rw [hc] at hfield ⊢
  have hdot := LexesTo.dot hstart.1 hstart.2 hfield
  have hobject := hdot.word hx (by simp [isNameChar])
  rw [wordToken, hkx] at hobject
  simpa using hobject

theorem reads_math (y : String) (hy : IsWord y) (hky : Keyword.ofText? y = none) :
    Reads ("math.".toList ++ y.toList) (Literal.mathExpr y) := by
  have hlex := lexes_field (x := "math") (by decide) hy rfl hky
  exact ⟨_, hlex, opens_cons _ _ (by simp) (by simp),
    fun _ => (parsesOperand_field "math" y).parses (by simp)⟩

/-! Numbers. -/

/-- A numeral of a number. -/
structure IsNumeralOf (cs : List Char) (n : Number) : Prop where
  form : ∃ whole fraction exponent, IsNumeral whole fraction ∧
    cs = numeralText whole fraction exponent
  value : signed? cs = some n

theorem IsNumeralOf.lexes {cs : List Char} {n : Number} (h : IsNumeralOf cs n) :
    Lexes cs [token n] := by
  obtain ⟨whole, fraction, exponent, hnumeral, rfl⟩ := h.form
  exact fun _ _ rest us hends hrest => hrest.numeral hnumeral n h.value hends

theorem IsNumeralOf.reads {cs : List Char} {n : Number} (h : IsNumeralOf cs n) :
    Reads cs (constant n) := by
  have hlevels : (constant n).levels = 0 := by cases n <;> rfl
  have hline (line : ℕ) : (constant n).onLine line = constant n := by cases n <;> rfl
  refine ⟨_, h.lexes, opens_cons _ _ ?_ (by simp), fun line => ?_⟩
  · cases n <;> simp [token]
  · rw [hlevels, hline]
    exact (parsesOperand_constant n).parses (by simp)

theorem reads_negate {cs : List Char} {e : Expr} (h : Reads cs e)
    (hcs : ∀ c ∈ cs.head?, c ≠ '-') (hne : cs ≠ []) : Reads ('-' :: cs) (.unary 1 .negate e) := by
  obtain ⟨ts, hlex, hopens, hparses⟩ := h
  obtain ⟨c, tail, rfl⟩ := List.exists_cons_of_ne_nil hne
  obtain ⟨t, tokens, rfl⟩ := List.exists_cons_of_ne_nil hopens.nonempty
  refine ⟨.symbol .minus :: t :: tokens, ?_, opens_cons _ _ (by simp) ?_,
    fun line => (parsesOperand_negate (hparses line)).parses (by simp)⟩
  · intro line after rest us hends hrest
    exact LexesTo.minus (by simpa using hcs) (hlex _ _ rest us hends hrest)
  · rintro _ ⟨⟩ rfl
    exact hopens.first _ rfl (by simp)

/-- A number with its sign. -/
theorem reads_signed {cs : List Char} {n : Number} (h : IsNumeralOf cs n) (negative : Bool) :
    Reads ((if negative then ['-'] else []) ++ cs) (Literal.signedExpr negative n) := by
  cases negative with
  | false => exact h.reads
  | true =>
    obtain ⟨whole, fraction, exponent, hnumeral, rfl⟩ := h.form
    refine reads_negate h.reads (fun c hc => ?_) (numeralText_ne_nil hnumeral exponent)
    rintro rfl
    exact absurd (isDigit_head hnumeral exponent '-' hc) (by decide)

theorem isNumeralOf_digits (n : ℕ) (hn : n < 2 ^ 63) :
    IsNumeralOf (Nat.toDigits 10 n) (.int (Int64.ofInt n)) := by
  refine ⟨⟨Nat.toDigits 10 n, none, none,
    ⟨isDigits_toDigits n, Nat.toDigits_ne_nil, by simp⟩, by simp [numeralText]⟩, ?_⟩
  rw [signed?, int?_digits n hn]

theorem reads_int (k : ℤ) (hk : k.natAbs < 2 ^ 63) :
    Reads (toString k).toList (Literal.intExpr k) := by
  rw [toList_toString]
  simpa only [decide_eq_true_eq, Literal.intExpr] using
    reads_signed (isNumeralOf_digits k.natAbs hk) (decide (k < 0))

theorem reads_nat (n : ℕ) (hn : n < 2 ^ 63) : Reads (toString n).toList (Literal.intExpr n) :=
  reads_int n hn

theorem reads_integer (n : Int64) : Reads (Literal.integer n) (Literal.integerExpr n) := by
  unfold Literal.integer Literal.integerExpr
  split_ifs with hmin
  · exact reads_math "mininteger" (by decide) rfl
  · refine reads_int n.toInt ?_
    have hlow := n.minValue_le_toInt
    have hhigh := n.toInt_lt
    have hne : n.toInt ≠ Int64.minValue.toInt := fun h => hmin (Int64.toInt_inj.mp h)
    simp only [Int64.toInt_minValue] at hlow hne
    omega

/-- An expression in parentheses. -/
theorem reads_paren {cs : List Char} {e : Expr} (h : Reads cs e) :
    Reads ('(' :: (cs ++ [')'])) (.paren e) := by
  obtain ⟨ts, hlex, hopens, hparses⟩ := h
  obtain ⟨t, tail, rfl⟩ := List.exists_cons_of_ne_nil hopens.nonempty
  refine ⟨.symbol .openParen :: (t :: tail ++ [Token.symbol .closeParen]),
    fun line after rest us hends hrest => ?_, opens_cons _ _ (by simp) ?_,
    fun line => (parsesOperand_paren (hparses line)).parses (by simp)⟩
  · have hclose := hlex line after (')' :: rest) (.symbol .closeParen :: us) (by simp [Ends])
      (LexesTo.symbol rfl hrest)
    simpa using LexesTo.symbol (c := '(') rfl hclose
  · rintro _ ⟨⟩ rfl
    exact hopens.first _ rfl (by simp)

/-- The quotient that is no number. -/
theorem reads_quotient :
    Reads "(0/0)".toList (.paren (.binary 1 .div (.int 0) (.int 0))) := by
  have hzero : IsNumeralOf ['0'] (.int 0) := isNumeralOf_digits 0 (by norm_num)
  refine ⟨_, fun line after rest us hends hrest => ?_,
    opens_cons _ _ (by simp) (by simp [token]),
    fun _ => (parsesOperand_quotient (.int 0) (.int 0)).parses (by simp)⟩
  have hclose := hzero.lexes line after (')' :: rest) (.symbol .closeParen :: us) (by simp [Ends])
    (LexesTo.symbol rfl hrest)
  have hslash := hzero.lexes _ _ _ _ (by simp [Ends]) (LexesTo.slash hclose)
  exact LexesTo.symbol rfl hslash

theorem reads_double (x : Binary64) : Reads (Literal.double x) (Literal.doubleExpr x) := by
  unfold Literal.double Literal.doubleExpr
  split_ifs with hnan hinfinite hnegative
  · exact reads_quotient
  · have hhuge := reads_negate (reads_math "huge" (by decide) rfl) (by simp) (by simp)
    exact reads_paren hhuge
  · exact reads_math "huge" (by decide) rfl
  · have hfinite : x.magnitude < Binary64.infinityWord := by
      simp only [Binary64.isNaN, decide_eq_true_eq, Binary64.isInfinite, beq_iff_eq]
        at hnan hinfinite
      omega
    obtain ⟨body, htext, hspells⟩ := literal_eq x hfinite
    rw [htext]
    refine reads_signed ⟨hspells.isNumeral, ?_⟩ x.isNegative
    exact signed?_of_spells hspells (Binary64.shortest_roundsTo x) hfinite

/-! Lists. -/

theorem readsAll_single {cs : List Char} {e : Expr} (h : Reads cs e) : ReadsAll cs [e] := by
  obtain ⟨ts, hlex, hopens, hparses⟩ := h
  exact ⟨ts, hlex, hopens, fun line => parsesAll_single ((hparses line).mono (le_max_left _ _))⟩

theorem readsAll_cons {cs ds : List Char} {e : Expr} {es : List Expr} (h : Reads cs e)
    (hs : ReadsAll ds es) : ReadsAll (cs ++ ',' :: ' ' :: ds) (e :: es) := by
  obtain ⟨ts, hlex, hopens, hparses⟩ := h
  obtain ⟨us, hlexs, -, hall⟩ := hs
  exact ⟨_, hlex.append_comma hlexs, hopens.append us, fun line =>
    parsesAll_cons ((hparses line).mono (le_max_left _ _)) ((hall line).mono (le_max_right _ _))⟩

theorem reads_call {f : String} (hf : IsWord f) (hkeyword : Keyword.ofText? f = none)
    {cs : List Char} {es : List Expr} (h : ReadsAll cs es) :
    Reads (f.toList ++ '(' :: (cs ++ [')'])) (Literal.callExpr f es) := by
  obtain ⟨ts, hlex, hopens, hall⟩ := h
  have hlexes := hlex.call hf
  rw [wordToken, hkeyword] at hlexes
  have hlevels : (Literal.callExpr f es).levels = Expr.levelsOfAll es := by
    simp [Literal.callExpr, Expr.levels]
  refine ⟨_, hlexes, opens_cons _ _ (by simp) (by simp), fun line => ?_⟩
  rw [hlevels]
  exact (parsesOperand_call f (hall line) hopens.head_ne hopens.nonempty).parses
    (by simp [callTokens])

/-- Items with their separators. -/
inductive ReadsItem : List Char → Item → Prop
  | positional {cs : List Char} {e : Expr} (h : Reads cs e) : ReadsItem cs (.positional e)
  | keyed (k : Bytes) {cs : List Char} {e : Expr} (h : Reads cs e) :
    ReadsItem ('[' :: Literal.quoted k ++ "] = ".toList ++ cs) (.keyed (.text k) e)

theorem ReadsItem.tokens {cs : List Char} {i : Item} (h : ReadsItem cs i) :
    ∃ ts, Lexes cs ts ∧
      (∀ line, ParsesItem line ts (Item.levelsOfAll [i]) (i.onLine line)) ∧ ts ≠ [] ∧
      ∀ t ∈ ts.head?, t ≠ .symbol .closeBrace ∧ t ≠ .symbol .assign := by
  cases h with
  | positional h =>
    obtain ⟨ts, hlex, hopens, hparses⟩ := h
    refine ⟨ts, hlex,
      fun line => parsesItem_positional ((hparses line).mono (le_max_left _ _)) hopens,
      hopens.nonempty, fun t ht => ⟨?_, ?_⟩⟩ <;>
    · rintro rfl
      exact hopens.first _ ht (by simp)
  | @keyed k cs e h =>
    obtain ⟨ts, hlex, hopens, hparses⟩ := h
    refine ⟨.symbol .openBracket :: .text k :: .symbol .closeBracket :: .symbol .assign :: ts,
      fun line after rest us hends hrest => ?_,
      fun line => parsesItem_keyed k ((hparses line).mono (le_max_left _ _))
        (by simp [Item.levelsOfAll]),
      by simp, by simp⟩
    have hvalue := (LexesTo.assign (hlex _ _ rest us hends hrest).blank).blank
    simpa using (LexesTo.symbol (c := ']') rfl hvalue).bracket k

theorem levelsOfAll_cons (i : Item) (is : List Item) :
    Item.levelsOfAll (i :: is) = max (Item.levelsOfAll [i]) (Item.levelsOfAll is) := by
  cases i <;> simp [Item.levelsOfAll]

theorem readsItems {parts : List (List Char)} {is : List Item}
    (h : List.Forall₂ ReadsItem parts is) :
    ReadsItems (Literal.commaSeparated parts) is := by
  induction h with
  | nil => exact ⟨[], fun _ _ _ _ _ hrest => hrest, fun _ => parsesItems_nil, by simp⟩
  | @cons part i parts is hitem hitems ih =>
    obtain ⟨ts, hlex, hparses, hne, hfirst⟩ := hitem.tokens
    obtain ⟨us, hlexs, hparsesItems, -⟩ := ih
    have hclose := fun t ht => (hfirst t ht).1
    cases hitems with
    | nil =>
      exact ⟨ts, hlex, fun line => parsesItems_single (hparses line) hclose hne,
        fun t ht => (hfirst t ht).2⟩
    | cons hitem' hitems' =>
      unfold ReadsItems
      rw [levelsOfAll_cons]
      refine ⟨_, hlex.append_comma hlexs, fun line =>
        parsesItems_cons ((hparses line).mono (le_max_left _ _)) hclose hne
          ((hparsesItems line).mono (le_max_right _ _)), fun t ht => (hfirst t ?_).2⟩
      obtain ⟨t', tail, rfl⟩ := List.exists_cons_of_ne_nil hne
      exact ht

theorem reads_table {cs : List Char} {is : List Item} (h : ReadsItems cs is) :
    Reads ('\x7b' :: (cs ++ ['\x7d'])) (.table 1 is) := by
  obtain ⟨ts, hlex, hparses, hfirst⟩ := h
  have hlevels : (Expr.table 1 is).levels = Item.levelsOfAll is := by simp [Expr.levels]
  refine ⟨_, hlex.braces, opens_cons _ _ (by simp) ?_, fun line => ?_⟩
  · cases ts with
    | nil => simp
    | cons t ts => exact hfirst
  · rw [hlevels]
    exact (parsesOperand_table (hparses line)).parses (by simp)

/-! The literals of values. -/

theorem readsItems_keys (fields : List (String × Value)) :
    ReadsItems (Literal.commaSeparated (fields.map fun entry => Literal.quotedText entry.1))
      (Literal.keyItems fields) := by
  refine readsItems ?_
  rw [Literal.keyItems, List.forall₂_map_left_iff, List.forall₂_map_right_iff]
  exact List.forall₂_same.mpr fun entry _ => .positional (reads_text _)

theorem forall₂_fieldTexts (fields : List (String × Value))
    (h : ∀ entry ∈ fields, Reads (Literal.ofValue entry.2) (Literal.expr entry.2)) :
    List.Forall₂ ReadsItem (Literal.fieldTexts fields) (Literal.fieldItems fields) := by
  induction fields with
  | nil => exact .nil
  | cons entry fields ih =>
    obtain ⟨k, v⟩ := entry
    rw [Literal.fieldTexts, Literal.fieldItems]
    exact .cons (.keyed _ (h (k, v) List.mem_cons_self))
      (ih fun entry hentry => h entry (List.mem_cons_of_mem _ hentry))

theorem forall₂_itemTexts (items : List Value)
    (h : ∀ v ∈ items, Reads (Literal.ofValue v) (Literal.expr v)) :
    List.Forall₂ ReadsItem (Literal.itemTexts items) (Literal.elementItems items) := by
  induction items with
  | nil => exact .nil
  | cons v items ih =>
    rw [Literal.itemTexts, Literal.elementItems]
    exact .cons (.positional (h v List.mem_cons_self))
      (ih fun v hv => h v (List.mem_cons_of_mem _ hv))

theorem reads_quotedText (s : String) : Reads (Literal.quotedText s) (Literal.textExpr s) :=
  reads_text _

/-- A literal that is a call with one argument or more. -/
theorem reads_callText {cs : List Char} (f : String) {args : List Char} {es : List Expr}
    (hf : IsWord f) (hkeyword : Keyword.ofText? f = none) (h : ReadsAll args es)
    (htext : cs = f.toList ++ '(' :: (args ++ [')'])) : Reads cs (Literal.callExpr f es) :=
  htext ▸ reads_call hf hkeyword h

/-! The equations of `Literal.ofValue` for the values that are written as calls. -/

theorem ofValue_dateTime (ms : Int64) :
    Literal.ofValue (.dateTime ms) = "Date(".toList ++ Literal.integer ms ++ [')'] := rfl

theorem ofValue_binary (subtype : UInt8) (bytes : Bytes) :
    Literal.ofValue (.binary subtype bytes) = "BinData(".toList ++
      (toString subtype.toNat).toList ++ ", ".toList ++ Literal.quoted bytes ++ [')'] := rfl

theorem ofValue_objectId (id : ObjectId) : Literal.ofValue (.objectId id) =
    "ObjectId(\"".toList ++ id.hex.toList ++ "\")".toList := rfl

theorem ofValue_regex (r : Regex) : Literal.ofValue (.regex r) =
    "RegExp(".toList ++ Literal.quotedText r.pattern ++ ", ".toList ++
      Literal.quotedText r.options ++ [')'] := rfl

theorem ofValue_document (fields : List (String × Value)) : Literal.ofValue (.document fields) =
    "Document(\x7b".toList ++ Literal.commaSeparated (Literal.fieldTexts fields) ++
      "\x7d, \x7b".toList ++
      Literal.commaSeparated (fields.map fun entry => Literal.quotedText entry.1) ++
      "\x7d)".toList := rfl

theorem ofValue_array (items : List Value) : Literal.ofValue (.array items) =
    "Array(\x7b".toList ++ Literal.commaSeparated (Literal.itemTexts items) ++ "\x7d)".toList := rfl

theorem ofValue_reference (database : Option String) (collection : String) (id : Value) :
    Literal.ofValue (.reference database collection id) =
      "DBRef(".toList ++ Literal.quotedText collection ++ ", ".toList ++ Literal.ofValue id ++
        (match database with
          | some name => ", ".toList ++ Literal.quotedText name
          | none => []) ++ [')'] := rfl

/-- A hexadecimal digit needs no escape. -/
theorem escape_hexDigit (n : ℕ) (hn : n < 16) :
    (String.utf8EncodeChar (Hex.digit n)).flatMap Literal.escapeByte = [Hex.digit n] := by
  interval_cases n <;> decide

theorem escape_hex (bytes : Bytes) :
    (Utf8.encodeChars (Hex.encodeChars bytes)).flatMap Literal.escapeByte =
      Hex.encodeChars bytes := by
  rw [Utf8.encodeChars, List.flatMap_assoc]
  induction bytes with
  | nil => rfl
  | cons b bytes ih =>
    have hb := b.toNat_lt
    rw [Hex.encodeChars, List.flatMap_cons, List.flatMap_cons, ih,
      escape_hexDigit (b.toNat / 16) (by omega), escape_hexDigit (b.toNat % 16) (by omega)]
    rfl

theorem quotedText_hex (id : ObjectId) :
    Literal.quotedText id.hex = '"' :: (id.hex.toList ++ ['"']) := by
  have hhex : id.hex.toList = Hex.encodeChars id.bytes := String.toList_ofList
  rw [Literal.quotedText, Literal.quoted, Utf8.encode, hhex, escape_hex]
  rfl

theorem reads_scalar (v : Value) (hscalar : v.IsScalar) :
    Reads (Literal.ofValue v) (Literal.expr v) := by
  cases v with
  | minKey => exact reads_name (w := "MinKey") (by decide) rfl
  | null => exact reads_name (w := "null") (by decide) rfl
  | maxKey => exact reads_name (w := "MaxKey") (by decide) rfl
  | int32 n =>
    have hlow := n.le_toInt
    have hhigh := n.toInt_lt
    exact reads_int n.toInt (by omega)
  | int64 n => exact reads_integer n
  | double x => exact reads_double x
  | string s => exact reads_text _
  | boolean b => exact reads_boolean b
  | dateTime ms =>
    exact reads_callText "Date" (by decide) rfl (readsAll_single (reads_integer ms))
      (by simp [ofValue_dateTime])
  | binary subtype bytes =>
    have hsubtype := subtype.toNat_lt
    exact reads_callText "BinData" (by decide) rfl
      (readsAll_cons (reads_nat subtype.toNat (by omega)) (readsAll_single (reads_text bytes)))
      (by simp [ofValue_binary])
  | objectId id =>
    exact reads_callText "ObjectId" (by decide) rfl (readsAll_single (reads_quotedText id.hex))
      (by simp [ofValue_objectId, quotedText_hex])
  | regex r =>
    exact reads_callText "RegExp" (by decide) rfl
      (readsAll_cons (reads_quotedText r.pattern) (readsAll_single (reads_quotedText r.options)))
      (by simp [ofValue_regex])
  | document fields => exact hscalar.elim
  | array items => exact hscalar.elim
  | reference database collection id => exact hscalar.elim

theorem reads_ofValue (v : Value) : Reads (Literal.ofValue v) (Literal.expr v) := by
  induction v using Value.nested_induction with
  | scalar v hscalar => exact reads_scalar v hscalar
  | document fields ih =>
    have hfields := reads_table (readsItems (forall₂_fieldTexts fields ih))
    have hkeys := reads_table (readsItems_keys fields)
    exact reads_callText "Document" (by decide) rfl (readsAll_cons hfields (readsAll_single hkeys))
      (by simp [ofValue_document])
  | array items ih =>
    have hitems := reads_table (readsItems (forall₂_itemTexts items ih))
    exact reads_callText "Array" (by decide) rfl (readsAll_single hitems)
      (by simp [ofValue_array])
  | reference database collection id ih =>
    have hcollection := reads_quotedText collection
    cases database with
    | none =>
      exact reads_callText "DBRef" (by decide) rfl
        (readsAll_cons hcollection (readsAll_single ih)) (by simp [ofValue_reference])
    | some name =>
      exact reads_callText "DBRef" (by decide) rfl
        (readsAll_cons hcollection (readsAll_cons ih (readsAll_single (reads_quotedText name))))
        (by simp [ofValue_reference])

end Docbase.Script
