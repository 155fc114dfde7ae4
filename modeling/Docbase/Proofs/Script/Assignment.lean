import Docbase.Proofs.Script.LiteralSyntax
import Docbase.Script.Assigned

/-!
The unit that stores a value in a global. Its source is compiled to one assignment of the
literal, unless the literal nests deeper than the parser goes or needs more slots than a frame
has.
-/
namespace Docbase.Script

open Docbase.Script.Lexer Docbase.Script.Parser Docbase.Script.Numeral

/-! The forms of literals. -/

/-- Expressions of the forms that literals have, on one line. -/
inductive IsLiteral (line : ℕ) : Expr → Prop
  | constant (n : Number) : IsLiteral line (constant n)
  | text (s : Bytes) : IsLiteral line (.text s)
  | boolean (b : Bool) : IsLiteral line (.boolean b)
  | name (x : String) : IsLiteral line (.name line x)
  | math (x : String) : IsLiteral line (.index line (.name line "math") (fieldKey x))
  | negate {e : Expr} (h : IsLiteral line e) : IsLiteral line (.unary line .negate e)
  | quotient {a b : Expr} (ha : IsLiteral line a) (hb : IsLiteral line b) :
    IsLiteral line (.binary line .div a b)
  | paren {e : Expr} (h : IsLiteral line e) : IsLiteral line (.paren e)
  | call (f : String) {args : List Expr} (h : ∀ e ∈ args, IsLiteral line e) :
    IsLiteral line (.call line (.name line f) args)
  | sequence {es : List Expr} (h : ∀ e ∈ es, IsLiteral line e) :
    IsLiteral line (.table line (es.map .positional))
  | fields {entries : List (String × Expr)} (h : ∀ entry ∈ entries, IsLiteral line entry.2) :
    IsLiteral line
      (.table line (entries.map fun entry => .keyed (Literal.textExpr entry.1) entry.2))

theorem elementItems_eq (items : List Value) :
    Literal.elementItems items = (items.map Literal.expr).map .positional := by
  induction items with
  | nil => rfl
  | cons v items ih => exact congrArg (Item.positional (Literal.expr v) :: ·) ih

theorem fieldItems_eq (fields : List (String × Value)) :
    Literal.fieldItems fields = (fields.map fun entry => (entry.1, Literal.expr entry.2)).map
      fun entry => .keyed (Literal.textExpr entry.1) entry.2 := by
  induction fields with
  | nil => rfl
  | cons entry fields ih =>
    exact congrArg (Item.keyed (Literal.textExpr entry.1) (Literal.expr entry.2) :: ·) ih

theorem keyItems_eq (fields : List (String × Value)) :
    Literal.keyItems fields =
      (fields.map fun entry => Literal.textExpr entry.1).map .positional := by
  simp [Literal.keyItems]

theorem isLiteral_signed (negative : Bool) (n : Number) :
    IsLiteral 1 (Literal.signedExpr negative n) := by
  cases negative
  · exact .constant n
  · exact .negate (.constant n)

theorem isLiteral_integer (n : Int64) : IsLiteral 1 (Literal.integerExpr n) := by
  unfold Literal.integerExpr
  split_ifs
  · exact .math _
  · exact isLiteral_signed _ _

theorem isLiteral_double (x : Binary64) : IsLiteral 1 (Literal.doubleExpr x) := by
  unfold Literal.doubleExpr
  split_ifs
  · exact .paren (.quotient (.constant (.int 0)) (.constant (.int 0)))
  · exact .paren (.negate (.math _))
  · exact .math _
  · exact isLiteral_signed _ _

theorem isLiteral_text (s : String) : IsLiteral 1 (Literal.textExpr s) := .text _

theorem isLiteral_expr (v : Value) : IsLiteral 1 (Literal.expr v) := by
  induction v using Value.nested_induction with
  | scalar v hscalar =>
    cases v with
    | minKey => exact .name _
    | null => exact .name _
    | maxKey => exact .name _
    | int32 n => exact isLiteral_signed _ _
    | int64 n => exact isLiteral_integer n
    | double x => exact isLiteral_double x
    | string s => exact .text _
    | boolean b => exact .boolean b
    | dateTime ms => exact .call _ (by simp [isLiteral_integer])
    | binary subtype bytes =>
      exact .call _ (by simp [Literal.intExpr, isLiteral_signed, IsLiteral.text])
    | objectId id => exact .call _ (by simp [isLiteral_text])
    | regex r => exact .call _ (by simp [isLiteral_text])
    | document fields => exact hscalar.elim
    | array items => exact hscalar.elim
    | reference database collection id => exact hscalar.elim
  | document fields ih =>
    have hfields : IsLiteral 1 (.table 1 (Literal.fieldItems fields)) := by
      rw [fieldItems_eq]
      refine .fields fun entry hentry => ?_
      obtain ⟨field, hfield, rfl⟩ := List.mem_map.mp hentry
      exact ih field hfield
    have hkeys : IsLiteral 1 (.table 1 (Literal.keyItems fields)) := by
      rw [keyItems_eq]
      refine .sequence fun e he => ?_
      obtain ⟨field, -, rfl⟩ := List.mem_map.mp he
      exact isLiteral_text field.1
    exact .call _ (by simp [hfields, hkeys])
  | array items ih =>
    have hitems : IsLiteral 1 (.table 1 (Literal.elementItems items)) := by
      rw [elementItems_eq]
      exact .sequence (by simpa using ih)
    exact .call _ (by simp [hitems])
  | reference database collection id ih =>
    cases database with
    | none => exact .call _ (by simp [isLiteral_text, ih])
    | some name => exact .call _ (by simp [isLiteral_text, ih])

/-! Literals on other lines. -/

theorem allOnLine_eq_map (line : ℕ) (es : List Expr) :
    Expr.allOnLine line es = es.map (Expr.onLine line) := by
  induction es with
  | nil => rfl
  | cons e es ih => exact congrArg (e.onLine line :: ·) ih

theorem allItemsOnLine_eq_map (line : ℕ) (is : List Item) :
    Item.allOnLine line is = is.map (Item.onLine line) := by
  induction is with
  | nil => rfl
  | cons i is ih => exact congrArg (i.onLine line :: ·) ih

/-- The items of a table with keys, on another line. -/
theorem onLine_fields (line l : ℕ) (entries : List (String × Expr)) :
    (Expr.table l (entries.map fun entry => .keyed (Literal.textExpr entry.1) entry.2)).onLine
      line = .table line ((entries.map fun entry => (entry.1, entry.2.onLine line)).map
        fun entry => .keyed (Literal.textExpr entry.1) entry.2) := by
  rw [Expr.onLine, allItemsOnLine_eq_map, List.map_map, List.map_map]
  rfl

theorem onLine_sequence (line l : ℕ) (es : List Expr) :
    (Expr.table l (es.map .positional)).onLine line =
      .table line ((es.map (Expr.onLine line)).map .positional) := by
  rw [Expr.onLine, allItemsOnLine_eq_map, List.map_map, List.map_map]
  rfl

theorem IsLiteral.onLine {l : ℕ} {e : Expr} (h : IsLiteral l e) (line : ℕ) :
    IsLiteral line (e.onLine line) := by
  induction h with
  | constant n => cases n <;> exact .constant _
  | text s => exact .text s
  | boolean b => exact .boolean b
  | name x => exact .name x
  | math x => exact .math x
  | negate h ih => exact .negate ih
  | quotient ha hb iha ihb => exact .quotient iha ihb
  | paren h ih => exact .paren ih
  | @call f args h ih =>
    rw [Expr.onLine, allOnLine_eq_map]
    exact .call f (List.forall_mem_map.mpr ih)
  | @sequence es h ih =>
    rw [onLine_sequence]
    exact .sequence (List.forall_mem_map.mpr ih)
  | @fields entries h ih =>
    rw [onLine_fields]
    exact .fields (List.forall_mem_map.mpr ih)

theorem IsLiteral.onLine_eq {line : ℕ} {e : Expr} (h : IsLiteral line e) :
    e.onLine line = e := by
  induction h with
  | constant n => cases n <;> rfl
  | text | boolean | name | math => rfl
  | negate h ih => rw [Expr.onLine, ih]
  | quotient ha hb iha ihb => rw [Expr.onLine, iha, ihb]
  | paren h ih => rw [Expr.onLine, ih]
  | @call f args h ih =>
    rw [Expr.onLine, allOnLine_eq_map, List.map_congr_left ih, List.map_id']
    rfl
  | @sequence es h ih => rw [onLine_sequence, List.map_congr_left ih, List.map_id']
  | @fields entries h ih =>
    have hentries : (entries.map fun entry => (entry.1, entry.2.onLine line)) = entries := by
      rw [List.map_congr_left fun entry hentry => congrArg (Prod.mk entry.1) (ih entry hentry)]
      exact List.map_id' entries
    rw [onLine_fields, hentries]

/-! The rules that scripts must keep, and the variables that they use. -/

theorem check_literal (s : Surroundings) {line : ℕ} {e : Expr} (h : IsLiteral line e) :
    Check.expr s e = true := by
  induction h with
  | constant n => cases n <;> rfl
  | text | boolean | name | math => rfl
  | negate h ih => rw [Check.expr, ih]
  | quotient ha hb iha ihb => rw [Check.expr, iha, ihb]; rfl
  | paren h ih => rw [Check.expr, ih]
  | @call f args h ih =>
    have hargs : Check.exprs s args = true := by
      clear h
      induction args with
      | nil => rfl
      | cons e args ihargs =>
        rw [Check.exprs, ih e List.mem_cons_self,
          ihargs fun e he => ih e (List.mem_cons_of_mem _ he)]
        rfl
    rw [Check.expr, hargs]
    rfl
  | @sequence es h ih =>
    rw [Check.expr]
    clear h
    induction es with
    | nil => rfl
    | cons e es ihes =>
      rw [List.map_cons, Check.items, Check.item, ih e List.mem_cons_self,
        ihes fun e he => ih e (List.mem_cons_of_mem _ he)]
      rfl
  | @fields entries h ih =>
    rw [Check.expr]
    clear h
    induction entries with
    | nil => rfl
    | cons entry entries ihes =>
      rw [List.map_cons, Check.items, Check.item, ih entry List.mem_cons_self,
        ihes fun e he => ih e (List.mem_cons_of_mem _ he)]
      rfl

theorem captures_literal (sight : List String) {line : ℕ} {e : Expr} (h : IsLiteral line e) :
    ∃ used, Captures.expr sight e = some used := by
  induction h with
  | constant n => cases n <;> exact ⟨_, rfl⟩
  | text | boolean | name | math => exact ⟨_, rfl⟩
  | negate h ih => exact ih
  | quotient ha hb iha ihb =>
    obtain ⟨us, hus⟩ := iha
    obtain ⟨vs, hvs⟩ := ihb
    exact ⟨us ++ vs, by rw [Captures.expr, hus, hvs]; rfl⟩
  | paren h ih => exact ih
  | @call f args h ih =>
    have hargs : ∃ used, Captures.exprs sight args = some used := by
      clear h
      induction args with
      | nil => exact ⟨_, rfl⟩
      | cons e args ihargs =>
        obtain ⟨us, hus⟩ := ih e List.mem_cons_self
        obtain ⟨vs, hvs⟩ := ihargs fun e he => ih e (List.mem_cons_of_mem _ he)
        exact ⟨us ++ vs, by rw [Captures.exprs, hus, hvs]; rfl⟩
    obtain ⟨us, hus⟩ := hargs
    exact ⟨Captures.number sight f :: us, by
      rw [Captures.expr, Captures.expr, hus]; rfl⟩
  | @sequence es h ih =>
    rw [Captures.expr]
    clear h
    induction es with
    | nil => exact ⟨_, rfl⟩
    | cons e es ihes =>
      obtain ⟨us, hus⟩ := ih e List.mem_cons_self
      obtain ⟨vs, hvs⟩ := ihes fun e he => ih e (List.mem_cons_of_mem _ he)
      exact ⟨us ++ vs, by rw [List.map_cons, Captures.items, hvs]; simp [hus]⟩
  | @fields entries h ih =>
    rw [Captures.expr]
    clear h
    induction entries with
    | nil => exact ⟨_, rfl⟩
    | cons entry entries ihes =>
      obtain ⟨us, hus⟩ := ih entry List.mem_cons_self
      obtain ⟨vs, hvs⟩ := ihes fun e he => ih e (List.mem_cons_of_mem _ he)
      refine ⟨us ++ vs, ?_⟩
      rw [List.map_cons, Captures.items, hvs, hus]
      rfl

theorem assigns_literal (x : String) {line : ℕ} {e : Expr} (h : IsLiteral line e) :
    e.assigns x = false := by
  induction h with
  | constant n => cases n <;> rfl
  | text | boolean | name | math => rfl
  | negate h ih => exact ih
  | quotient ha hb iha ihb => rw [Expr.assigns, iha, ihb]; rfl
  | paren h ih => exact ih
  | @call f args h ih =>
    have hargs : Expr.anyAssigns x args = false := by
      clear h
      induction args with
      | nil => rfl
      | cons e args ihargs =>
        rw [Expr.anyAssigns, ih e List.mem_cons_self,
          ihargs fun e he => ih e (List.mem_cons_of_mem _ he)]
        rfl
    rw [Expr.assigns, hargs]
    rfl
  | @sequence es h ih =>
    rw [Expr.assigns]
    clear h
    induction es with
    | nil => rfl
    | cons e es ihes =>
      rw [List.map_cons, Item.anyAssigns, ih e List.mem_cons_self,
        ihes fun e he => ih e (List.mem_cons_of_mem _ he)]
      rfl
  | @fields entries h ih =>
    rw [Expr.assigns]
    clear h
    induction entries with
    | nil => rfl
    | cons entry entries ihes =>
      rw [List.map_cons, Item.anyAssigns, ih entry List.mem_cons_self,
        ihes fun e he => ih e (List.mem_cons_of_mem _ he)]
      rfl

theorem assigns_assignment (x : String) (v : Value) :
    Block.assigns "_ENV" [Literal.assignment x v] = false := by
  simp [Block.assigns, Stmt.assigns, Target.anyAssigns, Expr.anyAssigns, Expr.assigns,
    Literal.assignment, Literal.textExpr, assigns_literal _ (isLiteral_expr v)]

/-! Compilation. -/

/-- The tokens of the unit that stores a value whose literal has the given ones. -/
def assignmentTokens (x : String) (ts : List Token) : List Token :=
  .name "_G" :: .symbol .openBracket :: .text (Utf8.encode x) :: .symbol .closeBracket ::
    .symbol .assign :: ts

theorem lexesTo_assignment (x : String) {cs : List Char} {ts : List Token} (h : Lexes cs ts) :
    LexesTo 1 [] ("_G[".toList ++ Literal.quotedText x ++ "] = ".toList ++ cs)
      (assignmentTokens x ts) := by
  have hvalue : LexesTo 1 [] cs ts := by simpa using h 1 [] [] [] (by simp [Ends]) lexesTo_nil
  have hkey := (LexesTo.symbol (c := ']') rfl (LexesTo.assign hvalue.blank).blank).bracket
    (Utf8.encode x)
  have hword := hkey.word (w := "_G") (by decide) (by simp [isNameChar])
  have htoken : wordToken "_G" = .name "_G" := rfl
  rw [htoken] at hword
  simpa [Literal.quotedText, assignmentTokens] using hword

/-- A statement that starts with a name is an assignment or a call. -/
theorem statement_name (x : String) (fuel line : ℕ) (rest : List Located) :
    statement (fuel + 1) 0 ((.name x, line) :: rest) = (do
      let (e, ts) ← suffixed fuel 1 ((.name x, line) :: rest)
      if startsWith .assign ts || startsWith .comma ts then
        assignment fuel 1 [← target e] ts
      else
        match e with
        | .call .. | .method .. => return (.call e, ts)
        | _ => refuse) := by
  rw [statement.eq_def]
  rfl

/-- A block that starts with a name starts with a statement. -/
theorem block_name (x : String) (fuel line : ℕ) (rest : List Located) :
    block (fuel + 1) 0 ((.name x, line) :: rest) = (do
      let (s, ts) ← statement fuel 0 ((.name x, line) :: rest)
      let (rest, ts) ← block fuel 0 ts
      return (s :: rest, ts)) := by
  rw [block.eq_def]
  rfl

theorem statement_assignment (x : String) {ts : List Token} {e : Expr} (fuel : ℕ)
    (hfuel : 8 * ts.length + 9 ≤ fuel) (hlevels : e.levels + 2 < depthLimit)
    (hall : ParsesAll 1 ts (e.levels + 1) [e]) :
    statement fuel 0 (located 1 (assignmentTokens x ts)) =
      .ok (.assign 1 [.index (.name 1 "_G") (Literal.textExpr x)] [e], []) := by
  obtain ⟨fuel, rfl⟩ : ∃ f, fuel = f + 8 := ⟨fuel - 8, by omega⟩
  have hvalues := hall (fuel + 6) 1 [] (by omega) (by omega) (by simp [Finishes])
  rw [List.append_nil] at hvalues
  have htarget : suffixed (fuel + 7) 1 (located 1 (assignmentTokens x ts)) =
      .ok (.index 1 (.name 1 "_G") (Literal.textExpr x), located 1 (.symbol .assign :: ts)) := rfl
  have hassignment : assignment (fuel + 7) 1 [.index (.name 1 "_G") (Literal.textExpr x)]
      (located 1 (.symbol .assign :: ts)) =
      .ok (.assign 1 [.index (.name 1 "_G") (Literal.textExpr x)] [e], []) := by
    change (do
      let es ← exprs (fuel + 6) 1 (located 1 ts)
      return (Stmt.assign 1 [Target.index (.name 1 "_G") (Literal.textExpr x)] es.1, es.2)) = _
    rw [hvalues]
    rfl
  refine (statement_name "_G" (fuel + 7) 1 _).trans ?_
  change (suffixed (fuel + 7) 1 (located 1 (assignmentTokens x ts)) >>= _) = _
  rw [htarget]
  exact hassignment

/-- A block of one statement. -/
theorem block_single {ts : List Located} {s : Stmt} (fuel : ℕ) {x : String}
    (hfirst : ∀ t ∈ ts.head?, t.1 = .name x) (hne : ts ≠ [])
    (hs : statement (fuel + 1) 0 ts = .ok (s, [])) : block (fuel + 2) 0 ts = .ok ([s], []) := by
  obtain ⟨⟨t, line⟩, rest, rfl⟩ := List.exists_cons_of_ne_nil hne
  obtain rfl : t = .name x := hfirst _ rfl
  rw [block_name, hs]
  rfl

theorem compile_assignment (x : String) (v : Value)
    (hlevels : (Literal.expr v).levels + 2 < depthLimit)
    (hroom : Slots.fits [Literal.assignment x v] = true) :
    compile (Scope.assignment x v) = .ok [Literal.assignment x v] := by
  obtain ⟨ts, hlex, hopens, hparses⟩ := reads_ofValue v
  have htokens := (lexesTo_assignment x hlex).tokens
  have hvalue := hparses 1
  rw [(isLiteral_expr v).onLine_eq] at hvalue
  have hsource : (Scope.assignment x v).toList =
      "_G[".toList ++ Literal.quotedText x ++ "] = ".toList ++ Literal.ofValue v := by
    simp [Scope.assignment, Literal.string, Literal.value]
  have hstatement := statement_assignment x (8 * ts.length + 55) (by omega) hlevels
    (parsesAll_single hvalue)
  have hblock := block_single _ (x := "_G") (by simp [located, assignmentTokens])
    (by simp [located, assignmentTokens]) hstatement
  have hparse : parseTokens (tokens (Scope.assignment x v).toList) =
      .ok [Literal.assignment x v] := by
    rw [hsource, htokens]
    have hlength :
        8 * (located 1 (assignmentTokens x ts)).length + 16 = 8 * ts.length + 54 + 2 := by
      simp only [located, assignmentTokens, List.length_map, List.length_cons]
      omega
    rw [List.append_nil, parseTokens, hlength, hblock]
    rfl
  have hcheck : isWellFormed [Literal.assignment x v] = true := by
    have hliteral := isLiteral_expr v
    obtain ⟨used, hused⟩ := captures_literal ["_ENV"] hliteral
    have hcaptures : Captures.fits [Literal.assignment x v] = true := by
      simp [Captures.fits, Captures.block, Literal.assignment, Captures.stmt, Captures.exprs,
        Captures.targets, Captures.expr, hused, Literal.textExpr]
    have hrules :
        Check.block ⟨true, false, [], [], [], 0⟩ false [Literal.assignment x v] = true := by
      simp [Check.block, Check.stmt, Check.exprs, Check.targets, Check.target, Check.expr,
        Literal.assignment, Literal.textExpr, check_literal _ hliteral]
    rw [isWellFormed, hrules, hroom, hcaptures]
    rfl
  rw [compile, hparse]
  change (if isWellFormed [Literal.assignment x v] = true then _ else _) = _
  rw [if_pos hcheck]
  rfl

end Docbase.Script
