import Docbase.Proofs.Script.Locals

/-!
Functions that give something back: their bodies end with values or with a call that takes their
place, and a turn of a call is such a body.
-/
namespace Docbase.Script

/-! Expressions. -/

section Evaluate

variable {call : Dispatch} {env : Env} {h h₁ h₂ : Heap} {x : String} {c : ℕ} {d : Datum}

theorem evaluate_cell (hx : env.cell? x = some c) (hd : h.cell c = d) (line : ℕ) :
    (Expr.name line x).evaluate call env h = .ok [d] h := by
  refine evaluate_of_read ?_
  rw [Env.read, hx, ← hd]
  rfl

/-- A field or an item of what a variable holds. -/
theorem evaluate_index_local {line line' : ℕ} {key : Expr} {o k : Datum}
    (hx : env.own.lookup x = some c) (hk : key.evaluate call env h = .ok [k] h₁)
    (ho : Run.readCell c h₁ = .ok o h₁)
    (hop : ∀ call, Operation.index call o k h₁ = .ok d h₂) :
    (Expr.index line (.name line' x) key).evaluate call env h = .ok [d] h₂ := by
  have hcell : env.objectCell? (.name line' x) = some c := by
    have hown : env.ownCell? (.name line' x) = some c := hx
    rw [Env.objectCell?, hown]
  rw [Expr.evaluate.eq_def]
  dsimp only
  rw [hcell]
  exact (Run.bind_ok hk).trans ((Run.bind_ok ho).trans (Run.bind_ok (env.operate_ok line hop)))

theorem evaluate_or_false {a b : Expr} (ha : a.evaluate call env h = .ok [.boolean false] h₁)
    (hb : b.evaluate call env h₁ = .ok [d] h₂) : (Expr.or a b).evaluate call env h = .ok [d] h₂ :=
  (Run.bind_ok ha).trans (Run.bind_ok hb)

end Evaluate

/-! Blocks. -/

/-- Whether a flow is the end of a function. -/
def Flow.Ends : Flow → Prop
  | .returned _ | .handedOn .. => True
  | _ => False

section Execute

variable {call : Dispatch} {env env' : Env} {h h₁ h₂ : Heap} {flow : Flow} {e condition : Expr}

theorem execute_cons_ends {s : Stmt} (hs : ∀ name, s ≠ .label name)
    (hrun : s.execute call env h = .ok (flow, env') h₁) (hflow : flow.Ends) (rest : Block)
    (atEnd : Env → Run Flow) :
    Block.execute call (s :: rest) env atEnd h = .ok flow h₁ := by
  rw [Block.execute.eq_def]
  cases s with
  | label name => exact absurd rfl (hs name)
  | _ =>
    refine (Run.bind_ok hrun).trans ?_
    cases flow with
    | returned values => rfl
    | handedOn line f args => rfl
    | _ => exact hflow.elim

theorem execute_branch_true {whenTrue : Block} (whenFalse : Block)
    (hc : condition.evaluate call env h = .ok [.boolean true] h₁)
    (hbody : Block.execute call whenTrue env atBlockEnd h₁ = .ok flow h₂) :
    (Stmt.branch condition whenTrue whenFalse).execute call env h = .ok (flow, env) h₂ :=
  (Run.bind_ok hc).trans (Run.bind_ok hbody)

theorem execute_branch_false (whenTrue : Block) {whenFalse : Block}
    (hc : condition.evaluate call env h = .ok [.boolean false] h₁)
    (hbody : Block.execute call whenFalse env atBlockEnd h₁ = .ok flow h₂) :
    (Stmt.branch condition whenTrue whenFalse).execute call env h = .ok (flow, env) h₂ :=
  (Run.bind_ok hc).trans (Run.bind_ok hbody)

theorem execute_giveOne (hgive : Expr.giveBack call [e] env h = .ok flow h₁) (hflow : flow.Ends)
    (rest : Block) (atEnd : Env → Run Flow) :
    Block.execute call (.giveOne e :: rest) env atEnd h = .ok flow h₁ :=
  execute_cons_ends (by simp [Stmt.giveOne]) (Run.bind_ok hgive) hflow rest atEnd

theorem execute_when_ends (hc : condition.evaluate call env h = .ok [.boolean true] h₁)
    (hgive : Expr.giveBack call [e] env h₁ = .ok flow h₂) (hflow : flow.Ends) (rest : Block)
    (atEnd : Env → Run Flow) :
    Block.execute call (.when condition [.giveOne e] :: rest) env atEnd h = .ok flow h₂ :=
  execute_cons_ends (by simp)
    (execute_branch_true [] hc (execute_giveOne hgive hflow _ _)) hflow rest atEnd

theorem execute_when_skips (body : Block)
    (hc : condition.evaluate call env h = .ok [.boolean false] h₁) (rest : Block)
    (atEnd : Env → Run Flow) :
    Block.execute call (.when condition body :: rest) env atEnd h =
      Block.execute call rest env atEnd h₁ :=
  execute_cons (by simp [Stmt.when]) (execute_when_false body hc) rest atEnd

/-- What is no call is given back with its values. -/
theorem giveBack_value {ds : List Datum} (he : e.evaluate call env h = .ok ds h₁)
    (hcall : ∀ line f args, e ≠ .call line f args)
    (hmethod : ∀ line o x args, e ≠ .method line o x args) :
    Expr.giveBack call [e] env h = .ok (.returned ds) h₁ := by
  rw [Expr.giveBack.eq_def]
  cases e with
  | call line f args => exact absurd rfl (hcall line f args)
  | method line o x args => exact absurd rfl (hmethod line o x args)
  | _ => exact Run.bind_ok he

/-- A call takes the place of the function that gives back its values. -/
theorem giveBack_call (line : ℕ) {f : Expr} {args : List Expr} {g : Datum} {gs ds : List Datum}
    (htail : env.mayTail = true) (hf : f.evaluate call env h = .ok (g :: gs) h₁)
    (hargs : Expr.evaluateAll call args env h₁ = .ok ds h₂) :
    Expr.giveBack call [.call line f args] env h = .ok (.handedOn line g ds) h₂ := by
  rw [Expr.giveBack.eq_def]
  refine (Run.bind_ok hf).trans ((Run.bind_ok hargs).trans ?_)
  rw [htail]
  rfl

end Execute

/-! Turns of calls. -/

section Turn

variable {h h₁ h₂ : Heap}

theorem bindAll_one (x : String) (a : Datum) (cells : List (String × ℕ)) (h : Heap) :
    Run.bindAll [x] [a] cells h =
      .ok ((x, h.cells.size + 0) :: cells) (h.withCells [a]) := by
  have hnew := Run.newCell_local h [] a
  rw [Heap.withCells_nil] at hnew
  exact Run.bind_ok hnew

theorem bindAll_two (x y : String) (a b : Datum) (cells : List (String × ℕ)) (h : Heap) :
    Run.bindAll [x, y] [a, b] cells h =
      .ok ((y, h.cells.size + 1) :: (x, h.cells.size + 0) :: cells) (h.withCells [a, b]) := by
  have hnew := Run.newCell_local h [] a
  rw [Heap.withCells_nil] at hnew
  exact (Run.bind_ok hnew).trans (Run.bind_ok (Run.newCell_local h [a] b))

/-- How a function of no unit goes on, or ends, with the flow of its body. -/
def afterBody : Flow → Call.Pending ⊕ List Datum
  | .returned values => .inr values
  | .handedOn _ f args => .inl ⟨some .host, f, args⟩
  | _ => .inr []

theorem step_body {call : Dispatch} {trace : Trace} {c : Closure} {place : ℕ}
    {args : List Datum} {own : List (String × ℕ)} {flow : Flow} (caller : Option Frame)
    (hc : h.closure place = c) (hunit : c.unit = none) (hfixed : c.variadic = false)
    (hbind : Run.bindAll c.params args [] h = .ok own h₁)
    (hbody : Block.execute call c.body ⟨own, c.captured, [], none, trace, true⟩ atBlockEnd h₁ =
      .ok flow h₂) :
    Call.step call trace ⟨caller, .closure place, args⟩ h = .ok (afterBody flow) h₂ := by
  have hread : Run.readClosure place h = .ok c h := congrArg (EStateM.Result.ok · h) hc
  have hdeclare : Env.declare ⟨[], c.captured, [], c.unit, trace, true⟩ c.params args h =
      .ok ⟨own, c.captured, [], c.unit, trace, true⟩ h₁ := Run.bind_ok hbind
  have henter : Call.enter call trace c args h = .ok (afterBody flow) h₂ := by
    rw [Call.enter, hfixed]
    refine (Run.bind_ok hdeclare).trans ?_
    rw [hunit]
    refine (Run.bind_ok hbody).trans ?_
    cases flow <;> rfl
  exact (Run.bind_ok hread).trans henter

end Turn

end Docbase.Script
