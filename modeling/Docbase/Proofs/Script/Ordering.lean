import Docbase.Proofs.Script.Coercion

/-!
Comparisons of `null`, dates and arrays with any value that has no handler of its own: both sides
are taken for numbers, and these are compared. A side that is taken for none makes the comparison
false. This needs the milliseconds of a date to be a number, if they are there: nothing checks
them, and a date that holds anything else is compared as what it holds.
-/
namespace Docbase.Script.Comparison

open Docbase.Script.Expr (ofName callName)

/-- Whether the comparison holds of two numbers. -/
def holds (c : Comparison) (x y : Number) : Bool :=
  if c.op = .lt then x.isLess y else x.isLessOrEqual y

/-- What the comparison says of what two values are taken for. -/
def verdict (c : Comparison) (x y : Datum) : Bool :=
  match x.number?, y.number? with
  | some x, some y => c.holds x y
  | _, _ => false

/-- Whether a value is taken for a number or for nothing. -/
def IsCount (d : Datum) : Prop := d = .nil ∨ d.number?.isSome = true

variable {h h₁ h' : Heap} {c : Comparison} {trace : Trace} {a b x y : Datum}

/-! The function of a comparison. -/

/-- What the function sees beside its own variables. -/
def orderedEnv (c : Comparison) (trace : Trace) (own : List (String × ℕ)) : Env :=
  ⟨own, c.closure.captured, [], none, trace, true⟩

/-- The variables of the function, the last one first. -/
def sides (n : ℕ) : List (String × ℕ) := [("b", n + 1), ("a", n + 0)]
def counts (n m : ℕ) : List (String × ℕ) := ("y", m + 1) :: ("x", m + 0) :: sides n

section Body

variable (hw : Wired h)

include hw

/-- One side is taken for a number. -/
theorem evaluate_side (htrace : trace.hosted < Trace.hostedLimit) (depth : ℕ)
    (own : List (String × ℕ)) {z : String} {i n : ℕ} (hz : own.lookup z = some i)
    (hcell : h.cell i = a) (hcoerce : own.lookup "coerce" = none) (ha : Coerces h n a x)
    (hn : n < turnLimit) :
    ∃ h', (callName "coerce" [ofName z]).evaluate (Call.within (depth + 2))
        (orderedEnv c trace own) h = .ok [x] h' ∧ h.Asked h' := by
  have hname : (ofName "coerce").evaluate (Call.within (depth + 2)) (orderedEnv c trace own) h =
      .ok [.closure coercePlace] h := by
    refine evaluate_cell (c := coerceCell) ?_ (hw.cell (coerceCell, .closure coercePlace) ?_) 0
    · rw [Env.cell?_of_captured hcoerce]
      rfl
    · decide
  have hargs : Expr.evaluateAll (Call.within (depth + 2)) [ofName z] (orderedEnv c trace own) h =
      .ok [a] h := evaluate_cell (Env.cell?_of_own hz) hcell 0
  have htrace' : ((orderedEnv c trace own).trace 0).hosted < Trace.hostedLimit := htrace
  obtain ⟨h', hrun, ha'⟩ := within_coerce hw htrace' depth ha hn
  exact ⟨h', evaluate_call hname hargs hrun, ha'⟩

/-- Both sides are taken for numbers, one after the other. -/
theorem execute_sides (c : Comparison) (htrace : trace.hosted < Trace.hostedLimit) (depth : ℕ)
    {n m : ℕ} (ha : Coerces h n a x) (hb : Coerces h m b y) (hn : n < turnLimit)
    (hm : m < turnLimit) :
    ∃ h', (Stmt.declare [⟨"x", false⟩, ⟨"y", false⟩]
        [callName "coerce" [ofName "a"], callName "coerce" [ofName "b"]]).execute
          (Call.within (depth + 2)) (orderedEnv c trace (sides h.cells.size))
            (h.withCells [a, b]) =
        .ok (.next, orderedEnv c trace (counts h.cells.size h'.cells.size))
          (h'.withCells [x, y]) ∧ h.Asked h' := by
  have hcells := h.asked_withCells [a, b]
  have ha₀ : (h.withCells [a, b]).cell (h.cells.size + 0) = a := by
    simp [Heap.cell, Heap.withCells]
  have hb₀ : (h.withCells [a, b]).cell (h.cells.size + 1) = b := by
    simp [Heap.cell, Heap.withCells]
  obtain ⟨h₁, hfirst, hasked₁⟩ := evaluate_side (c := c) (hw.asked hcells) htrace depth
    (sides h.cells.size) (z := "a") (i := h.cells.size + 0) rfl ha₀ rfl (ha.asked hcells) hn
  have hb₁ : h₁.cell (h.cells.size + 1) = b :=
    (hasked₁.cell _ (by simp [Heap.withCells])).trans hb₀
  have hboth := hcells.trans hasked₁
  obtain ⟨h₂, hsecond, hasked₂⟩ := evaluate_side (c := c) (hw.asked hboth) htrace depth
    (sides h.cells.size) (z := "b") (i := h.cells.size + 1) rfl hb₁ rfl (hb.asked hboth) hm
  have hvalues : Expr.evaluateAll (Call.within (depth + 2))
      [callName "coerce" [ofName "a"], callName "coerce" [ofName "b"]]
      (orderedEnv c trace (sides h.cells.size)) (h.withCells [a, b]) = .ok [x, y] h₂ :=
    (Run.bind_ok hfirst).trans (Run.bind_ok hsecond)
  have hdeclare : (orderedEnv c trace (sides h.cells.size)).declare ["x", "y"] [x, y] h₂ =
      .ok (orderedEnv c trace (counts h.cells.size h₂.cells.size)) (h₂.withCells [x, y]) :=
    Run.bind_ok (bindAll_two "x" "y" x y (sides h.cells.size) h₂)
  exact ⟨h₂, (Run.bind_ok hvalues).trans (Run.bind_ok hdeclare), hboth.trans hasked₂⟩

omit hw

/-- Whether one of the sides is taken for no number. -/
theorem evaluate_anyNil (call : Dispatch) (c : Comparison) (trace : Trace) (n : ℕ) (h : Heap)
    (x y : Datum) :
    (Expr.or (.isNil (ofName "x")) (.isNil (ofName "y"))).evaluate call
      (orderedEnv c trace (counts n h.cells.size)) (h.withCells [x, y]) =
        .ok [.boolean (x.isNil || y.isNil)] (h.withCells [x, y]) := by
  have hfirst : (Expr.isNil (ofName "x")).evaluate call
      (orderedEnv c trace (counts n h.cells.size)) (h.withCells [x, y]) =
        .ok [.boolean x.isNil] (h.withCells [x, y]) := evaluate_isNil call (i := 0) rfl rfl
  have hsecond : (Expr.isNil (ofName "y")).evaluate call
      (orderedEnv c trace (counts n h.cells.size)) (h.withCells [x, y]) =
        .ok [.boolean y.isNil] (h.withCells [x, y]) := evaluate_isNil call (i := 1) rfl rfl
  cases hx : x.isNil with
  | true =>
    rw [hx] at hfirst
    exact evaluate_or hfirst rfl
  | false =>
    rw [hx] at hfirst
    exact evaluate_or_false hfirst hsecond

/-- Without a number on both sides the comparison is false. -/
theorem execute_noCount (call : Dispatch) (c : Comparison) (trace : Trace) (n : ℕ) (h : Heap)
    (hnil : (x.isNil || y.isNil) = true) :
    Block.execute call orderedBody.tail (orderedEnv c trace (counts n h.cells.size)) atBlockEnd
      (h.withCells [x, y]) = .ok (.returned [.boolean false]) (h.withCells [x, y]) := by
  have hcondition := evaluate_anyNil call c trace n h x y
  rw [hnil] at hcondition
  exact execute_when_ends hcondition (giveBack_value (e := .boolean false) rfl nofun nofun) trivial
    _ _

include hw

/-- Two numbers are handed on to the function that compares them. -/
theorem execute_counts (call : Dispatch) (hc : c ∈ all) (trace : Trace) (n : ℕ)
    (hnil : (x.isNil || y.isNil) = false) :
    Block.execute call orderedBody.tail (orderedEnv c trace (counts n h.cells.size)) atBlockEnd
      (h.withCells [x, y]) =
        .ok (.handedOn 0 (.closure c.inner) [x, y]) (h.withCells [x, y]) := by
  set env := orderedEnv c trace (counts n h.cells.size)
  have hcondition := evaluate_anyNil call c trace n h x y
  rw [hnil] at hcondition
  have hknown : ∀ c ∈ all, (c.cell, Datum.closure c.inner) ∈ cells ∧ c.cell < 10 := by decide
  have hop : (ofName "op").evaluate call env (h.withCells [x, y]) =
      .ok [.closure c.inner] (h.withCells [x, y]) := by
    have hcell := evaluate_captured call env 0 (x := "op") rfl rfl
      ((hknown c hc).2.trans_le hw.cells_le) [x, y]
    rwa [hw.cell (c.cell, .closure c.inner) (hknown c hc).1] at hcell
  have hx : (ofName "x").evaluate call env (h.withCells [x, y]) =
      .ok [x] (h.withCells [x, y]) := evaluate_local call env 0 (i := 0) rfl rfl
  have hy : (ofName "y").evaluate call env (h.withCells [x, y]) =
      .ok [y] (h.withCells [x, y]) := evaluate_local call env 0 (i := 1) rfl rfl
  have hargs : Expr.evaluateAll call [ofName "x", ofName "y"] env (h.withCells [x, y]) =
      .ok [x, y] (h.withCells [x, y]) := (Run.bind_ok hx).trans (Run.bind_ok hy)
  refine (execute_when_skips _ hcondition _ _).trans ?_
  exact execute_giveOne (giveBack_call 0 rfl hop hargs) trivial _ _

end Body

/-! Calls of a comparison. -/

/-- Numbers are compared as numbers. -/
theorem binary_numbers (hc : c ∈ all) {m n : Number} (hx : x.number? = some m)
    (hy : y.number? = some n) (call : Callee) (h : Heap) :
    Operation.binary call c.op x y h = .ok (.boolean (c.holds m n)) h := by
  have hless : Operation.less call x y h = .ok (m.isLess n) h := by
    unfold Operation.less
    rw [hx, hy]
    rfl
  have hlessOrEqual : Operation.lessOrEqual call x y h = .ok (m.isLessOrEqual n) h := by
    unfold Operation.lessOrEqual
    rw [hx, hy]
    rfl
  rcases eq_of_mem_all hc with rfl | rfl
  · exact Run.bind_ok hless
  · exact Run.bind_ok hlessOrEqual

/-- Two counts are numbers, or one is missing and the comparison does not hold. -/
theorem verdict_cases (c : Comparison) (hx : IsCount x) (hy : IsCount y) :
    (x.isNil || y.isNil) = true ∧ c.verdict x y = false ∨
      (x.isNil || y.isNil) = false ∧ ∃ m n, x.number? = some m ∧ y.number? = some n ∧
        c.verdict x y = c.holds m n := by
  have hpresent {d : Datum} (hd : d.number?.isSome = true) :
      d.isNil = false ∧ ∃ m, d.number? = some m := by
    refine ⟨?_, Option.isSome_iff_exists.mp hd⟩
    cases d with
    | nil => cases hd
    | _ => rfl
  rcases hx with rfl | hx
  · exact .inl ⟨rfl, rfl⟩
  · obtain ⟨hxNil, m, hm⟩ := hpresent hx
    rcases hy with rfl | hy
    · refine .inl ⟨by simp [Datum.isNil], ?_⟩
      rw [verdict, hm]
      rfl
    · obtain ⟨hyNil, n, hn⟩ := hpresent hy
      refine .inr ⟨by rw [hxNil, hyNil]; rfl, m, n, hm, hn, ?_⟩
      rw [verdict, hm, hn]

section Call

variable (hw : Wired h) (hc : c ∈ all)

include hw hc

/-- The function within compares its arguments. -/
theorem step_inner (call : Dispatch) (trace : Trace) (caller : Option Frame) {m n : Number}
    (hx : x.number? = some m) (hy : y.number? = some n) :
    Call.step call trace ⟨caller, .closure c.inner, [x, y]⟩ h =
      .ok (.inr [.boolean (c.holds m n)]) (h.withCells [x, y]) := by
  set own : List (String × ℕ) := [("y", h.cells.size + 1), ("x", h.cells.size + 0)]
  set env : Env := ⟨own, c.innerClosure.captured, [], none, trace, true⟩
  have hsecond : (ofName "y").evaluate call env (h.withCells [x, y]) =
      .ok [y] (h.withCells [x, y]) := evaluate_local call env 0 (i := 1) rfl rfl
  have hop : ∀ c ∈ all, c.op ≠ .concat := by decide
  have hvalue : (Expr.operation c.op (ofName "x") (ofName "y")).evaluate call env
      (h.withCells [x, y]) = .ok [.boolean (c.holds m n)] (h.withCells [x, y]) :=
    evaluate_binary_waiting ((waitingCell?_name (hop c hc) 0 "x").trans rfl) hsecond
      (Run.readCell_local (i := 0) rfl) fun call => binary_numbers hc hx hy call _
  exact step_body caller (hw.innerClosure hc) rfl rfl (bindAll_two "x" "y" x y [] h)
    (execute_giveOne (giveBack_value hvalue nofun nofun) trivial [] atBlockEnd)

/-- The first turn: what follows from what the sides are taken for. -/
theorem step_comparison (htrace : trace.hosted < Trace.hostedLimit) (depth : ℕ)
    (caller : Option Frame) {n m : ℕ} (ha : Coerces h n a x) (hb : Coerces h m b y)
    (hn : n < turnLimit) (hm : m < turnLimit) :
    ∃ h', Call.step (Call.within (depth + 2)) trace ⟨caller, .closure c.place, [a, b]⟩ h =
        .ok (if x.isNil || y.isNil then .inr [.boolean false]
          else .inl ⟨some .host, .closure c.inner, [x, y]⟩) h' ∧ h.Asked h' := by
  obtain ⟨h₁, hsides, hasked⟩ := execute_sides hw c htrace depth ha hb hn hm
  have hbind := bindAll_two "a" "b" a b [] h
  refine ⟨h₁.withCells [x, y], ?_, hasked.trans (Heap.asked_withCells _ _)⟩
  cases hnil : x.isNil || y.isNil with
  | true =>
    exact step_body caller (hw.outerClosure hc) rfl rfl hbind
      ((execute_cons (by simp) hsides _ _).trans (execute_noCount _ c trace _ h₁ hnil))
  | false =>
    exact step_body caller (hw.outerClosure hc) rfl rfl hbind
      ((execute_cons (by simp) hsides _ _).trans
        (execute_counts (hw.asked hasked) _ hc trace _ hnil))

/-- A comparison tells what holds of what its sides are taken for. -/
theorem within_comparison (htrace : trace.hosted < Trace.hostedLimit) (depth : ℕ) {n m : ℕ}
    (ha : Coerces h n a x) (hb : Coerces h m b y) (hn : n < turnLimit) (hm : m < turnLimit)
    (hx : IsCount x) (hy : IsCount y) :
    ∃ h', Call.within (depth + 3) trace (.closure c.place) [a, b] h =
      .ok [.boolean (c.verdict x y)] h' ∧ h.Asked h' := by
  obtain ⟨turns, hturns⟩ := within_eq htrace (depth + 2) (.closure c.place) [a, b] (h := h)
  obtain ⟨h₁, hfirst, hasked⟩ := step_comparison hw hc htrace depth none ha hb hn hm
  rw [hturns]
  obtain ⟨hnil, hverdict⟩ | ⟨hnil, k, l, hk, hl, hverdict⟩ := verdict_cases c hx hy
  · rw [hnil] at hfirst
    rw [hverdict]
    exact ⟨h₁, Run.iterate_result hfirst _, hasked⟩
  · rw [hnil] at hfirst
    rw [hverdict]
    have hsecond := step_inner (hw.asked hasked) hc (Call.within (depth + 2)) trace (some .host)
      hk hl
    exact ⟨_, (Run.iterate_next hfirst _).trans (Run.iterate_result hsecond _),
      hasked.trans (Heap.asked_withCells _ _)⟩

end Call

/-! Operators. -/

/-- Whether a value has the handlers of the prelude, as `null`, dates and arrays do. -/
def IsOrdered (h : Heap) (d : Datum) : Prop :=
  ∃ p, d = .table p ∧ ∃ m ∈ [nullType, dateType, arrayType], (h.table p).metatable = some m

/-- Whether a value leaves a comparison to the handler of the prelude. -/
def Yields (h : Heap) (c : Comparison) (d : Datum) : Prop :=
  h.handler d c.event = .nil ∨ h.handler d c.event = .closure c.place

theorem IsOrdered.handler (ha : IsOrdered h a) (hw : Wired h) (hc : c ∈ all) :
    h.handler a c.event = .closure c.place := by
  obtain ⟨p, rfl, m, hm, hmeta⟩ := ha
  rw [Heap.handler, Heap.metatable?, hmeta]
  exact hw.handler m hm c hc

theorem binaryHandler_ordered (hw : Wired h) (hc : c ∈ all)
    (hsides : IsOrdered h a ∧ Yields h c b ∨ Yields h c a ∧ IsOrdered h b) :
    Operation.binaryHandler c.event a b h = .ok (.closure c.place) h := by
  rw [Operation.binaryHandler_eq]
  obtain ⟨ha, -⟩ | ⟨hyields | hyields, hb⟩ := hsides
  · rw [ha.handler hw hc]
    rfl
  · rw [hyields, hb.handler hw hc]
    rfl
  · rw [hyields]
    rfl

/-- A table is compared by a handler. -/
theorem binary_compared (hc : c ∈ all) (htable : (∃ p, a = .table p) ∨ ∃ p, b = .table p)
    (call : Callee) {result : Bool}
    (hcompared : Operation.compared? call c.event a b h = .ok (some result) h') :
    Operation.binary call c.op a b h = .ok (.boolean result) h' := by
  rcases eq_of_mem_all hc with rfl | rfl
  · have hless : Operation.less call a b h = .ok result h' := by
      unfold Operation.less
      obtain ⟨p, rfl⟩ | ⟨p, rfl⟩ := htable
      · exact Run.bind_ok hcompared
      · cases a <;> exact Run.bind_ok hcompared
    exact Run.bind_ok hless
  · have hlessOrEqual : Operation.lessOrEqual call a b h = .ok result h' := by
      unfold Operation.lessOrEqual
      obtain ⟨p, rfl⟩ | ⟨p, rfl⟩ := htable
      · exact Run.bind_ok hcompared
      · cases a <;> exact Run.bind_ok hcompared
    exact Run.bind_ok hlessOrEqual

/-- A comparison of `null`, a date or an array with a value that has no handler but the prelude's
does not raise. It tells how the numbers compare that both sides are taken for, and is false if
one side is taken for none. The heap stays as it is but for where lengths are searched. -/
theorem coerced_comparisons (hw : Wired h) (hsize : h.tables.size < turnLimit) (hc : c ∈ all)
    (htrace : trace.hosted < Trace.hostedLimit) (depth : ℕ)
    (hsides : IsOrdered h a ∧ Yields h c b ∨ Yields h c a ∧ IsOrdered h b) {n m : ℕ}
    (ha : Coerces h n a x) (hb : Coerces h m b y) (hx : IsCount x) (hy : IsCount y) :
    ∃ h', Operation.binary (Call.within (depth + 3) trace) c.op a b h =
      .ok (.boolean (c.verdict x y)) h' ∧ h.Asked h' := by
  obtain ⟨h', hrun, hasked⟩ := within_comparison hw hc htrace depth ha hb
    (ha.le_size.trans_lt hsize) (hb.le_size.trans_lt hsize) hx hy
  have htable : (∃ p, a = .table p) ∨ ∃ p, b = .table p := by
    obtain ⟨⟨p, hp, -⟩, -⟩ | ⟨-, p, hp, -⟩ := hsides
    · exact .inl ⟨p, hp⟩
    · exact .inr ⟨p, hp⟩
  have hverdict : (Operation.first [.boolean (c.verdict x y)]).isTrue = c.verdict x y := by
    cases c.verdict x y <;> rfl
  have hcompared := Operation.compared?_eq (binaryHandler_ordered hw hc hsides) rfl hrun
  rw [hverdict] at hcompared
  exact ⟨h', binary_compared hc htable _ hcompared, hasked⟩

/-- What a script leaves of a fresh scope. -/
def afterScript (source : String) : Heap :=
  match Scope.exec "unit" source .fresh with
  | .ok _ s => s.heap
  | .error _ s => s.heap

/-- Whether a heap has its comparisons and, at two places, an array and its only item, a date. -/
def hasDateInArray (h : Heap) (p q : ℕ) : Bool :=
  isWired h && h.tables.size < turnLimit && (h.table 6).metatable == some nullType &&
    h.handler (.table p) less.event == .closure less.place &&
    h.tag? (.table p) == some (.ofText "Array") && h.handler (.table p) "__len" == .nil &&
    (h.table p).border == 1 && (h.table p).get (.int 1) == .table q &&
    h.tag? (.table q) == some (.ofText "Date") && h.field? "ms" q == some (.int 5)

/-- `null` is less than an array of a date after 1970. -/
theorem coerced_comparisons_nested :
    ∃ h', Operation.binary (Call.within 3 .start) .lt null (.table 24)
      (afterScript "x = Array({Date(5)})") = .ok (.boolean true) h' := by
  have hfacts : hasDateInArray (afterScript "x = Array({Date(5)})") 24 25 = true := by
    decide +kernel
  generalize afterScript "x = Array({Date(5)})" = h at hfacts ⊢
  simp only [hasDateInArray, Bool.and_eq_true, beq_iff_eq, decide_eq_true_eq] at hfacts
  obtain ⟨⟨⟨⟨⟨⟨⟨⟨⟨hwired, hsize⟩, hnull⟩, hhandler⟩, harray⟩, hlength⟩, hborder⟩, hitem⟩, hdate⟩,
    hms⟩ := hfacts
  have hb : Coerces h 1 (.table 24) (.int 5) :=
    .single (by decide) harray hlength hborder (hitem ▸ .date (by decide) hdate hms)
  obtain ⟨h', hrun, -⟩ := coerced_comparisons (c := less) (wired_of_isWired hwired) hsize
    (by simp [all]) (show Trace.start.hosted < Trace.hostedLimit by decide) 0
    (.inl ⟨⟨6, rfl, nullType, by decide, hnull⟩, .inr hhandler⟩) .null hb (.inr rfl) (.inr rfl)
  exact ⟨h', hrun⟩

/-- The milliseconds of a date are whatever its constructor was given: with a text, the
comparison with a number raises. -/
theorem text_date_raises :
    Wired (afterScript "x = Date('a')") ∧ IsOrdered (afterScript "x = Date('a')") (.table 24) ∧
      Yields (afterScript "x = Date('a')") less (.int 1) ∧
      ∀ result h', Operation.binary call .lt (.table 24) (.int 1) (afterScript "x = Date('a')") ≠
        .ok result h' := by
  have hfacts : isWired (afterScript "x = Date('a')") = true ∧
      ((afterScript "x = Date('a')").table 24).metatable = some dateType ∧
      (match Operation.binary call .lt (.table 24) (.int 1) (afterScript "x = Date('a')") with
        | .ok _ _ => false
        | .error _ _ => true) = true := by
    decide +kernel
  obtain ⟨hwired, hmeta, hraised⟩ := hfacts
  refine ⟨wired_of_isWired hwired, ⟨24, rfl, dateType, by decide, hmeta⟩, .inl rfl,
    fun result h' hrun => ?_⟩
  rw [hrun] at hraised
  cases hraised

end Docbase.Script.Comparison
