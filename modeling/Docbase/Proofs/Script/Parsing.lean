import Docbase.Proofs.Script.Lexing
import Docbase.Script.Parser

/-!
Pieces of source that are one expression. A piece reads as an expression if its tokens are its
own where something that ends it follows, and the parser takes them to their end; the fuel is
some multiple of the tokens. Pieces are put together with the forms that expressions have.
-/
namespace Docbase.Script.Parser

/-- What ends an expression inside another one. -/
def Closes (rest : List Located) : Prop :=
  ∀ t ∈ rest.head?, t.1 ∈ [Token.symbol .comma, .symbol .closeParen, .symbol .closeBrace,
    .symbol .closeBracket]

/-- The parser takes tokens as an operand, whose parts nest some levels deep. -/
def ParsesOperand (line : ℕ) (ts : List Token) (levels : ℕ) (e : Expr) : Prop :=
  ∀ fuel depth rest, 8 * ts.length ≤ fuel + 1 → depth + levels < depthLimit → Closes rest →
    operand fuel depth (located line ts ++ rest) = .ok (e, rest)

/-- The parser takes tokens as an expression. -/
def Parses (line : ℕ) (ts : List Token) (levels : ℕ) (e : Expr) : Prop :=
  ∀ fuel depth limit rest, 8 * ts.length ≤ fuel → depth + levels < depthLimit → Closes rest →
    expr fuel depth limit (located line ts ++ rest) = .ok (e, rest)

variable {line : ℕ} {ts : List Token} {rest : List Located} {levels : ℕ} {e : Expr}

theorem inside_eq (depth : ℕ) (h : depth + 1 < depthLimit) : inside depth = .ok (depth + 1) :=
  if_pos h

/-- No operator stands where an expression ends. -/
theorem operators_closes (fuel depth limit : ℕ) (h : Closes rest) :
    operators (fuel + 1) depth limit e rest = .ok (e, rest) := by
  cases rest with
  | nil => rfl
  | cons t rest =>
    obtain ⟨t, line⟩ := t
    have htoken : Connective.ofToken? t = none := by
      have hmem := h (t, line) rfl
      simp only [List.mem_cons, List.not_mem_nil, or_false] at hmem
      obtain rfl | rfl | rfl | rfl := hmem <;> rfl
    rw [operators.eq_def]
    dsimp only
    rw [htoken]

/-- Nothing is applied to what ends. -/
theorem suffixes_closes (fuel depth : ℕ) (h : Closes rest) :
    suffixes (fuel + 1) depth e rest = .ok (e, rest) := by
  cases rest with
  | nil => rfl
  | cons t rest =>
    obtain ⟨t, line⟩ := t
    have hmem := h (t, line) rfl
    simp only [List.mem_cons, List.not_mem_nil, or_false] at hmem
    obtain rfl | rfl | rfl | rfl := hmem <;> rfl

theorem ParsesOperand.parses (h : ParsesOperand line ts levels e) (hne : ts ≠ []) :
    Parses line ts (levels + 1) e := by
  intro fuel depth limit rest hfuel hdepth hcloses
  have hlength := List.length_pos_iff.mpr hne
  obtain ⟨fuel, rfl⟩ : ∃ f, fuel = f + 2 := ⟨fuel - 2, by omega⟩
  rw [expr.eq_def]
  dsimp only
  rw [inside_eq depth (by omega)]
  dsimp only [bind, Except.bind]
  rw [h (fuel + 1) (depth + 1) rest (by omega) (by omega) hcloses]
  exact operators_closes fuel (depth + 1) limit hcloses

theorem Parses.mono (h : Parses line ts levels e) {more : ℕ} (hle : levels ≤ more) :
    Parses line ts more e := fun fuel depth limit rest hfuel hdepth hcloses =>
  h fuel depth limit rest hfuel (by omega) hcloses

/-! Constants and names. -/

def constant : Number → Expr
  | .int n => .int n
  | .double x => .double x

theorem parsesOperand_constant (n : Number) :
    ParsesOperand line [Numeral.token n] 0 (constant n) := by
  intro fuel depth rest hfuel hdepth hcloses
  obtain ⟨fuel, rfl⟩ : ∃ f, fuel = f + 1 := ⟨fuel - 1, by simp at hfuel; omega⟩
  cases n <;> rfl

theorem parsesOperand_text (s : Bytes) : ParsesOperand line [.text s] 0 (.text s) := by
  intro fuel depth rest hfuel hdepth hcloses
  obtain ⟨fuel, rfl⟩ : ∃ f, fuel = f + 1 := ⟨fuel - 1, by simp at hfuel; omega⟩
  rfl

theorem parsesOperand_boolean (b : Bool) :
    ParsesOperand line [.keyword (if b then .trueK else .falseK)] 0 (.boolean b) := by
  intro fuel depth rest hfuel hdepth hcloses
  obtain ⟨fuel, rfl⟩ : ∃ f, fuel = f + 1 := ⟨fuel - 1, by simp at hfuel; omega⟩
  cases b <;> rfl

theorem parsesOperand_name (x : String) : ParsesOperand line [.name x] 0 (.name line x) := by
  intro fuel depth rest hfuel hdepth hcloses
  obtain ⟨fuel, rfl⟩ : ∃ f, fuel = f + 3 := ⟨fuel - 3, by simp at hfuel; omega⟩
  exact suffixes_closes fuel depth hcloses

theorem parsesOperand_field (x y : String) :
    ParsesOperand line [.name x, .symbol .dot, .name y] 0
      (.index line (.name line x) (fieldKey y)) := by
  intro fuel depth rest hfuel hdepth hcloses
  obtain ⟨fuel, rfl⟩ : ∃ f, fuel = f + 4 := ⟨fuel - 4, by simp at hfuel; omega⟩
  exact suffixes_closes fuel depth hcloses

/-! Operators and parentheses. -/

theorem parsesOperand_negate (h : Parses line ts levels e) :
    ParsesOperand line (.symbol .minus :: ts) levels (.unary line .negate e) := by
  intro fuel depth rest hfuel hdepth hcloses
  rw [List.length_cons] at hfuel
  obtain ⟨fuel, rfl⟩ : ∃ f, fuel = f + 1 := ⟨fuel - 1, by omega⟩
  change (do
    let a ← expr fuel depth unaryLimit (located line ts ++ rest)
    return (Expr.unary line .negate a.1, a.2)) = _
  rw [h fuel depth unaryLimit rest (by omega) (by omega) hcloses]
  rfl

theorem parsesOperand_paren (h : Parses line ts levels e) :
    ParsesOperand line (.symbol .openParen :: (ts ++ [Token.symbol .closeParen])) levels
      (.paren e) := by
  intro fuel depth rest hfuel hdepth hcloses
  simp only [List.length_cons, List.length_append, List.length_nil] at hfuel
  obtain ⟨fuel, rfl⟩ : ∃ f, fuel = f + 3 := ⟨fuel - 3, by omega⟩
  have hinner := h (fuel + 1) depth 0 ((Token.symbol .closeParen, line) :: rest) (by omega)
    (by omega) (by simp [Closes])
  have htokens : located line (ts ++ [Token.symbol .closeParen]) ++ rest =
      located line ts ++ (Token.symbol .closeParen, line) :: rest := by simp [located]
  change (do
    let e ← expr (fuel + 1) depth 0 (located line (ts ++ [Token.symbol .closeParen]) ++ rest)
    suffixes (fuel + 1) depth (.paren e.1) (← expect .closeParen e.2)) = _
  rw [htokens, hinner]
  exact suffixes_closes fuel depth hcloses

/-- The quotient of two constants in parentheses. -/
theorem parsesOperand_quotient (m n : Number) :
    ParsesOperand line [.symbol .openParen, Numeral.token m, .symbol .slash, Numeral.token n,
      .symbol .closeParen] 2 (.paren (.binary line .div (constant m) (constant n))) := by
  intro fuel depth rest hfuel hdepth hcloses
  simp only [List.length_cons, List.length_nil] at hfuel
  obtain ⟨fuel, rfl⟩ : ∃ f, fuel = f + 14 := ⟨fuel - 14, by omega⟩
  have hconstant : Parses line [Numeral.token n] 1 (constant n) :=
    (parsesOperand_constant n).parses (by simp)
  have hright := hconstant (fuel + 10) (depth + 1) 11 ((Token.symbol .closeParen, line) :: rest)
    (by simp) (by omega) (by simp [Closes])
  have hleft : operand (fuel + 11) (depth + 1)
      ((Numeral.token m, line) :: (Token.symbol .slash, line) :: (located line [Numeral.token n] ++
        (Token.symbol .closeParen, line) :: rest)) =
      .ok (constant m, (Token.symbol .slash, line) :: (located line [Numeral.token n] ++
        (Token.symbol .closeParen, line) :: rest)) := by
    cases m <;> rfl
  have hquotient : expr (fuel + 12) depth 0
      ((Numeral.token m, line) :: (Token.symbol .slash, line) ::
        (located line [Numeral.token n] ++ (Token.symbol .closeParen, line) :: rest)) =
      .ok (.binary line .div (constant m) (constant n),
        (Token.symbol .closeParen, line) :: rest) := by
    rw [expr.eq_def]
    dsimp only
    rw [inside_eq depth (by omega)]
    dsimp only [bind, Except.bind]
    rw [hleft]
    change (do
      let right ← expr (fuel + 10) (depth + 1) 11 (located line [Numeral.token n] ++
        (Token.symbol .closeParen, line) :: rest)
      operators (fuel + 10) (depth + 1) 0 (.binary line .div (constant m) right.1) right.2) = _
    rw [hright]
    rfl
  change (do
    let e ← expr (fuel + 12) depth 0
      ((Numeral.token m, line) :: (Token.symbol .slash, line) ::
        (located line [Numeral.token n] ++ (Token.symbol .closeParen, line) :: rest))
    suffixes (fuel + 12) depth (.paren e.1) (← expect .closeParen e.2)) = _
  rw [hquotient]
  exact suffixes_closes (fuel + 11) depth hcloses

/-! Lists of expressions. -/

/-- What ends a list. -/
def Finishes (rest : List Located) : Prop :=
  ∀ t ∈ rest.head?, t.1 = .symbol .closeParen ∨ t.1 = .symbol .closeBrace

theorem Finishes.closes (h : Finishes rest) : Closes rest := by
  intro t ht
  rcases h t ht with heq | heq <;> simp [heq]

theorem closes_comma (rest : List Located) : Closes ((.symbol .comma, line) :: rest) := by
  simp [Closes]

def ParsesAll (line : ℕ) (ts : List Token) (levels : ℕ) (es : List Expr) : Prop :=
  ∀ fuel depth rest, 8 * ts.length + 1 ≤ fuel → depth + levels < depthLimit → Finishes rest →
    exprs fuel depth (located line ts ++ rest) = .ok (es, rest)

theorem ParsesAll.mono {es : List Expr} (h : ParsesAll line ts levels es) {more : ℕ}
    (hle : levels ≤ more) : ParsesAll line ts more es :=
  fun fuel depth rest hfuel hdepth hfinishes => h fuel depth rest hfuel (by omega) hfinishes

theorem parsesAll_single (h : Parses line ts levels e) : ParsesAll line ts levels [e] := by
  intro fuel depth rest hfuel hdepth hfinishes
  obtain ⟨fuel, rfl⟩ : ∃ f, fuel = f + 1 := ⟨fuel - 1, by omega⟩
  rw [exprs.eq_def]
  dsimp only
  rw [h fuel depth 0 rest (by omega) hdepth hfinishes.closes]
  cases rest with
  | nil => rfl
  | cons t rest =>
    obtain ⟨t, line⟩ := t
    obtain rfl | rfl := hfinishes (t, line) rfl <;> rfl

theorem parsesAll_cons {us : List Token} {es : List Expr} (h : Parses line ts levels e)
    (hs : ParsesAll line us levels es) :
    ParsesAll line (ts ++ .symbol .comma :: us) levels (e :: es) := by
  intro fuel depth rest hfuel hdepth hfinishes
  simp only [List.length_cons, List.length_append] at hfuel
  obtain ⟨fuel, rfl⟩ : ∃ f, fuel = f + 1 := ⟨fuel - 1, by omega⟩
  have htokens : located line (ts ++ .symbol .comma :: us) ++ rest =
      located line ts ++ (.symbol .comma, line) :: (located line us ++ rest) := by simp [located]
  rw [exprs.eq_def]
  dsimp only
  rw [htokens, h fuel depth 0 _ (by omega) hdepth (closes_comma _)]
  change (do
    let es ← exprs fuel depth (located line us ++ rest)
    return (e :: es.1, es.2)) = _
  rw [hs fuel depth rest (by omega) hdepth hfinishes]
  rfl

/-- In parentheses that are not empty are the arguments. -/
theorem arguments_open (fuel depth : ℕ) (rest : List Located)
    (hopen : ∀ t ∈ rest.head?, t.1 ≠ .symbol .closeParen) :
    arguments (fuel + 1) depth ((.symbol .openParen, line) :: rest) = (do
      let (es, ts) ← exprs fuel depth rest
      return (es, ← expect .closeParen ts)) := by
  rw [arguments.eq_def]
  dsimp only
  split
  · next heq =>
    rw [(List.cons.inj heq).2] at hopen
    exact absurd rfl (hopen _ rfl)
  · next heq =>
    rw [(List.cons.inj heq).2]
  · next heq => simp at heq
  · next heq => simp at heq
  · next hother _ _ => exact (hother line rest rfl).elim

/-- The tokens of a call by a name. -/
def callTokens (f : String) (ts : List Token) : List Token :=
  .name f :: .symbol .openParen :: (ts ++ [.symbol .closeParen])

/-- A call takes what is in its parentheses. -/
theorem suffixed_call {es : List Expr} (f : String) (fuel depth : ℕ)
    (hfuel : 8 * ts.length + 1 ≤ fuel) (hdepth : depth + levels < depthLimit)
    (hs : ParsesAll line ts levels es) (hopen : ts.head? ≠ some (.symbol .closeParen))
    (hne : ts ≠ []) :
    suffixed (fuel + 3) depth (located line (callTokens f ts) ++ rest) =
      suffixes (fuel + 1) depth (.call line (.name line f) es) rest := by
  have htokens : located line (ts ++ [Token.symbol .closeParen]) ++ rest =
      located line ts ++ (Token.symbol .closeParen, line) :: rest := by simp [located]
  have hall := hs fuel depth ((Token.symbol .closeParen, line) :: rest) hfuel hdepth
    (by simp [Finishes])
  have harguments : arguments (fuel + 1) depth
      ((.symbol .openParen, line) ::
        (located line ts ++ (Token.symbol .closeParen, line) :: rest)) = .ok (es, rest) := by
    rw [arguments_open, hall]
    · rfl
    · obtain ⟨t, tail, rfl⟩ := List.exists_cons_of_ne_nil hne
      simpa [located] using hopen
  change (do
    let (args, ts) ← arguments (fuel + 1) depth
      ((.symbol .openParen, line) :: (located line (ts ++ [Token.symbol .closeParen]) ++ rest))
    suffixes (fuel + 1) depth (.call line (.name line f) args) ts) = _
  rw [htokens, harguments]
  rfl

theorem parsesOperand_call {es : List Expr} (f : String) (hs : ParsesAll line ts levels es)
    (hopen : ts.head? ≠ some (.symbol .closeParen)) (hne : ts ≠ []) :
    ParsesOperand line (callTokens f ts) levels (.call line (.name line f) es) := by
  intro fuel depth rest hfuel hdepth hcloses
  simp only [callTokens, List.length_cons, List.length_append, List.length_nil] at hfuel
  obtain ⟨fuel, rfl⟩ : ∃ f, fuel = f + 4 := ⟨fuel - 4, by omega⟩
  have hsuffixed : operand (fuel + 4) depth (located line (callTokens f ts) ++ rest) =
      suffixed (fuel + 3) depth (located line (callTokens f ts) ++ rest) := rfl
  rw [hsuffixed, suffixed_call f fuel depth (by omega) hdepth hs hopen hne]
  exact suffixes_closes fuel depth hcloses

/-! Tables. -/

def ParsesItem (line : ℕ) (ts : List Token) (levels : ℕ) (i : Item) : Prop :=
  ∀ fuel depth rest, 8 * ts.length + 1 ≤ fuel → depth + levels < depthLimit → Closes rest →
    item fuel depth (located line ts ++ rest) = .ok (i, rest)

theorem ParsesItem.mono {i : Item} (h : ParsesItem line ts levels i) {more : ℕ}
    (hle : levels ≤ more) : ParsesItem line ts more i :=
  fun fuel depth rest hfuel hdepth hcloses => h fuel depth rest hfuel (by omega) hcloses

/-- Items up to the closing brace. -/
def ParsesItems (line : ℕ) (ts : List Token) (levels : ℕ) (is : List Item) : Prop :=
  ∀ fuel depth rest, 8 * ts.length + 2 ≤ fuel → depth + levels < depthLimit →
    items fuel depth (located line ts ++ (Token.symbol .closeBrace, line) :: rest) = .ok (is, rest)

theorem ParsesItems.mono {is : List Item} (h : ParsesItems line ts levels is) {more : ℕ}
    (hle : levels ≤ more) : ParsesItems line ts more is := fun fuel depth rest hfuel hdepth =>
  h fuel depth rest hfuel (by omega)

/-- Tokens that an expression may start with, as far as lists tell them from their end and
tables from their keys. -/
structure Opens (ts : List Token) : Prop where
  nonempty : ts ≠ []
  first : ∀ t ∈ ts.head?, t ∉ [Token.symbol .closeParen, .symbol .closeBrace,
    .symbol .openBracket, .symbol .assign]
  second : ∀ t ∈ ts.tail.head?, t ≠ .symbol .assign

theorem opens_cons (t : Token) (ts : List Token)
    (ht : t ∉ [Token.symbol .closeParen, .symbol .closeBrace, .symbol .openBracket,
      .symbol .assign])
    (hts : ∀ t ∈ ts.head?, t ≠ .symbol .assign) : Opens (t :: ts) :=
  ⟨by simp, by rintro _ ⟨⟩; exact ht, hts⟩

theorem Opens.head_ne (h : Opens ts) : ts.head? ≠ some (.symbol .closeParen) :=
  fun hclose => h.first _ hclose (by simp)

theorem Opens.append {ts : List Token} (h : Opens ts) (us : List Token) :
    Opens (ts ++ .symbol .comma :: us) := by
  obtain ⟨t, tail, rfl⟩ := List.exists_cons_of_ne_nil h.nonempty
  refine opens_cons t _ (h.first t rfl) ?_
  cases tail with
  | nil => simp
  | cons t' tail => exact h.second

/-- An item without a key. -/
theorem item_eq (fuel depth : ℕ) (rest : List Located)
    (hfirst : ∀ t ∈ rest.head?, t.1 ≠ .symbol .openBracket)
    (hsecond : ∀ t ∈ rest.tail.head?, t.1 ≠ .symbol .assign) :
    item (fuel + 1) depth rest = (do
      let (e, ts) ← expr fuel depth 0 rest
      return (.positional e, ts)) := by
  rw [item.eq_def]
  dsimp only
  split
  · next heq => exact absurd rfl (hsecond _ rfl)
  · next heq => exact absurd rfl (hfirst _ rfl)
  · rfl

theorem parsesItem_positional (h : Parses line ts levels e) (hopens : Opens ts) :
    ParsesItem line ts levels (.positional e) := by
  intro fuel depth rest hfuel hdepth hcloses
  obtain ⟨fuel, rfl⟩ : ∃ f, fuel = f + 1 := ⟨fuel - 1, by omega⟩
  have hexpr := h fuel depth 0 rest (by omega) hdepth hcloses
  obtain ⟨t, tail, rfl⟩ := List.exists_cons_of_ne_nil hopens.nonempty
  have hfirst := hopens.first t rfl
  have hsecond : ∀ t ∈ (located line tail ++ rest).head?, t.1 ≠ .symbol .assign := by
    cases tail with
    | nil =>
      intro t ht heq
      have hmem := hcloses t ht
      simp [heq] at hmem
    | cons t' tail => simpa [located] using hopens.second
  have hopen : t ≠ .symbol .openBracket := by
    rintro rfl
    simp at hfirst
  rw [item_eq fuel depth (located line (t :: tail) ++ rest) (by simpa [located] using hopen)
    hsecond, hexpr]
  rfl

theorem parsesItem_keyed (k : Bytes) (h : Parses line ts levels e) (hlevels : 1 ≤ levels) :
    ParsesItem line
      (.symbol .openBracket :: .text k :: .symbol .closeBracket :: .symbol .assign :: ts) levels
      (.keyed (.text k) e) := by
  intro fuel depth rest hfuel hdepth hcloses
  simp only [List.length_cons] at hfuel
  obtain ⟨fuel, rfl⟩ : ∃ f, fuel = f + 1 := ⟨fuel - 1, by omega⟩
  have htext : Parses line [.text k] 1 (.text k) := (parsesOperand_text k).parses (by simp)
  have hkey := htext fuel depth 0
    ((Token.symbol .closeBracket, line) :: (Token.symbol .assign, line) ::
      (located line ts ++ rest))
    (by simp; omega) (by omega) (by simp [Closes])
  change (do
    let (key, ts) ← expr fuel depth 0 (located line [.text k] ++
      (Token.symbol .closeBracket, line) :: (Token.symbol .assign, line) ::
        (located line ts ++ rest))
    let (e, ts) ← expr fuel depth 0 (← expect .assign (← expect .closeBracket ts))
    return (Item.keyed key e, ts)) = _
  rw [hkey]
  change (do
    let (e, ts) ← expr fuel depth 0 (located line ts ++ rest)
    return (Item.keyed (.text k) e, ts)) = _
  rw [h fuel depth 0 rest (by omega) hdepth hcloses]
  rfl

theorem parsesItems_nil : ParsesItems line [] levels [] := by
  intro fuel depth rest hfuel hdepth
  obtain ⟨fuel, rfl⟩ : ∃ f, fuel = f + 1 := ⟨fuel - 1, by omega⟩
  rfl

/-- Items that do not start with the closing brace start with one item. -/
theorem items_eq (fuel depth : ℕ) (rest : List Located)
    (h : ∀ t ∈ rest.head?, t.1 ≠ .symbol .closeBrace) :
    items (fuel + 1) depth rest = (do
      let (i, ts) ← item fuel depth rest
      match ts with
      | (.symbol .comma, _) :: rest | (.symbol .semicolon, _) :: rest => do
        let (is, ts) ← items fuel depth rest
        return (i :: is, ts)
      | ts => return ([i], ← expect .closeBrace ts)) := by
  rw [items.eq_def]
  dsimp only
  split
  · next heq => exact absurd rfl (h _ rfl)
  · rfl

theorem parsesItems_single {i : Item} (h : ParsesItem line ts levels i)
    (hfirst : ∀ t ∈ ts.head?, t ≠ .symbol .closeBrace) (hne : ts ≠ []) :
    ParsesItems line ts levels [i] := by
  intro fuel depth rest hfuel hdepth
  obtain ⟨fuel, rfl⟩ : ∃ f, fuel = f + 1 := ⟨fuel - 1, by omega⟩
  obtain ⟨t, tail, rfl⟩ := List.exists_cons_of_ne_nil hne
  rw [items_eq fuel depth _ (by simpa [located] using hfirst),
    h fuel depth _ (by omega) hdepth (by simp [Closes])]
  rfl

theorem parsesItems_cons {us : List Token} {i : Item} {is : List Item}
    (h : ParsesItem line ts levels i) (hfirst : ∀ t ∈ ts.head?, t ≠ .symbol .closeBrace)
    (hne : ts ≠ []) (hs : ParsesItems line us levels is) :
    ParsesItems line (ts ++ .symbol .comma :: us) levels (i :: is) := by
  intro fuel depth rest hfuel hdepth
  simp only [List.length_append, List.length_cons] at hfuel
  obtain ⟨fuel, rfl⟩ : ∃ f, fuel = f + 1 := ⟨fuel - 1, by omega⟩
  obtain ⟨t, tail, rfl⟩ := List.exists_cons_of_ne_nil hne
  have htokens : located line (t :: tail ++ Token.symbol .comma :: us) ++
      (Token.symbol .closeBrace, line) :: rest =
      located line (t :: tail) ++ (Token.symbol .comma, line) ::
        (located line us ++ (Token.symbol .closeBrace, line) :: rest) := by simp [located]
  rw [htokens, items_eq fuel depth _ (by simpa [located] using hfirst),
    h fuel depth _ (by omega) hdepth (closes_comma _)]
  change (do
    let (is, ts) ← items fuel depth (located line us ++ (Token.symbol .closeBrace, line) :: rest)
    return (i :: is, ts)) = _
  rw [hs fuel depth rest (by omega) hdepth]
  rfl

theorem parsesOperand_table {is : List Item} (h : ParsesItems line ts levels is) :
    ParsesOperand line (.symbol .openBrace :: (ts ++ [Token.symbol .closeBrace])) levels
      (.table line is) := by
  intro fuel depth rest hfuel hdepth hcloses
  simp only [List.length_cons, List.length_append, List.length_nil] at hfuel
  obtain ⟨fuel, rfl⟩ : ∃ f, fuel = f + 1 := ⟨fuel - 1, by omega⟩
  have htokens : located line (ts ++ [Token.symbol .closeBrace]) ++ rest =
      located line ts ++ (Token.symbol .closeBrace, line) :: rest := by simp [located]
  change (do
    let (items, ts) ← items fuel depth (located line (ts ++ [Token.symbol .closeBrace]) ++ rest)
    return (Expr.table line items, ts)) = _
  rw [htokens, h fuel depth rest (by omega) hdepth]
  rfl

end Docbase.Script.Parser
