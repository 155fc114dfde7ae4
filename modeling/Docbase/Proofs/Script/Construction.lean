import Docbase.Proofs.Script.Evaluation

/-!
Calls of constructors. A constructor makes a table of its arguments and gives it the metatable
that names it, so the table means the value that its literal is written for.
-/
namespace Docbase.Script

open Docbase.Script.Table (record sequence)

/-! Parameters. -/

/-- Parameters are variables that hold their arguments. -/
theorem bindAll_ok (xs : List String) (ds : List Datum) (cells : List (String × ℕ)) (h : Heap)
    (hxs : xs.Nodup) :
    ∃ own h', Run.bindAll xs ds cells h = .ok own h' ∧ h.Keeps h' ∧ h'.tables = h.tables ∧
      (∀ x d, (x, d) ∈ xs.zip (fit xs.length ds) →
        ∃ c, own.lookup x = some c ∧ c < h'.cells.size ∧ h'.cell c = d) ∧
      ∀ x, x ∉ xs → own.lookup x = cells.lookup x := by
  induction xs generalizing ds cells h with
  | nil => exact ⟨cells, h, rfl, .refl h, rfl, by simp, fun _ _ => rfl⟩
  | cons x xs ih =>
    obtain ⟨hx, hxs⟩ := List.nodup_cons.mp hxs
    obtain ⟨h₁, hnew, hkeeps, hsize, hcell, htables⟩ := Run.newCell_keeps (ds.headD .nil) h
    obtain ⟨own, h', hrun, hkeeps', htables', hvars, hothers⟩ :=
      ih ds.tail ((x, h.cells.size) :: cells) h₁ hxs
    refine ⟨own, h', ?_, hkeeps.trans hkeeps', htables'.trans htables, ?_, ?_⟩
    · rw [Run.bindAll, Run.bind_ok hnew]
      exact hrun
    · intro y d hy
      rw [List.length_cons, fit, List.zip_cons_cons] at hy
      rcases List.mem_cons.mp hy with hy | hy
      · obtain ⟨rfl, rfl⟩ := Prod.mk.inj hy
        have hlt : h.cells.size < h₁.cells.size := by omega
        refine ⟨h.cells.size, ?_, hlt.trans_le hkeeps'.cells_le, (hkeeps'.cell _ hlt).trans hcell⟩
        rw [hothers y hx, List.lookup_cons, beq_self_eq_true]
      · exact hvars y d hy
    · intro y hy
      rw [List.mem_cons, not_or] at hy
      rw [hothers y hy.2, List.lookup_cons, beq_eq_false_iff_ne.mpr hy.1]

theorem Heap.HoldsPrelude.cell_eq {h : Heap} (hp : h.HoldsPrelude) {c : ℕ} {d : Datum}
    (hc : (c, d) ∈ Literal.cells) : h.cell c = d := hp.cell (c, d) hc

/-- What the body of a constructor sees. -/
def Constructor.sight (k : Constructor) (type : Option (String × ℕ)) (args : List Datum) :
    Sight where
  vars := (Env.globalsName, .table Heap.globals) ::
    ((type.map fun t => (t.1, Heap.fresh.cell t.2)).toList ++
      k.params.zip (fit k.params.length args))
  free := ["setmetatable", "math", "string"]

theorem Constructor.metatable_mem_sight (k : Constructor) {c m : ℕ}
    (hm : (c, Datum.table m) ∈ Literal.cells) (x : String) (args : List Datum) :
    (x, Datum.table m) ∈ (k.sight (some (x, c)) args).vars := by
  rw [← holdsPrelude_fresh.cell_eq hm]
  exact List.mem_cons_of_mem _ (List.mem_append_left _ (by simp))

section Call

variable {call : Dispatch} {env : Env} {h h' : Heap} {place : ℕ} {k : Constructor}
  {type : Option (String × ℕ)}

theorem execute_result {g : Datum} {ds : List Datum} (henv : env.mayTail = true)
    (hname : (Expr.ofName "setmetatable").evaluate call env h = .ok [g] h)
    (hargs : Expr.evaluateAll call [k.fields, k.metatable] env h = .ok ds h') :
    Block.execute call [.giveBack [k.result]] env atBlockEnd h = .ok (.handedOn 0 g ds) h' := by
  have hgive : Expr.giveBack call [k.result] env h = .ok (.handedOn 0 g ds) h' := by
    rw [Expr.giveBack.eq_def]
    refine (Run.bind_ok hname).trans ((Run.bind_ok hargs).trans ?_)
    rw [henv]
    rfl
  have hexecute : Stmt.execute call (.giveBack [k.result]) env h =
      .ok (.handedOn 0 g ds, env) h' := Run.bind_ok hgive
  rw [Block.execute.eq_def]
  exact Run.bind_ok hexecute

theorem Env.cell?_of_own {x : String} {c : ℕ} (hx : env.own.lookup x = some c) :
    env.cell? x = some c := by
  rw [Env.cell?, hx]

theorem Env.cell?_of_captured {x : String} (hx : env.own.lookup x = none) :
    env.cell? x = env.captured.lookup x := by
  rw [Env.cell?, hx]

/-- The body of a constructor sees its arguments, the globals and the library. -/
theorem sees_constructor (hr : h.Ready) (hk : (place, k, type) ∈ Literal.constructors)
    (args : List Datum) (trace : Trace) :
    ∃ own h₁, Run.bindAll k.params args [] h = .ok own h₁ ∧ h.Keeps h₁ ∧ h₁.tables = h.tables ∧
      Env.Sees ⟨own, (h.closure place).captured, [], none, trace, true⟩ (k.sight type args) h₁ := by
  have hparams : ∀ k ∈ Literal.constructors, k.2.1.params.Nodup ∧
      (∀ x ∈ [Env.globalsName, "setmetatable", "math", "string"], x ∉ k.2.1.params) ∧
      ∀ t ∈ k.2.2, t.1 ∉ k.2.1.params ∧ t.2 < 19 := by decide
  obtain ⟨hnodup, hlibrary, htype⟩ := hparams _ hk
  obtain ⟨own, h₁, hrun, hkeeps, htables, hvars, hothers⟩ := bindAll_ok k.params args [] h hnodup
  have hclosure := hr.closure hk
  have hr₁ := hr.growsApart hkeeps.grows
  refine ⟨own, h₁, hrun, hkeeps, htables, hr₁, ?_, List.mem_cons_self, ?_⟩
  · intro x d hx
    rcases List.mem_cons.mp hx with hx | hx
    · obtain ⟨rfl, rfl⟩ := Prod.mk.inj hx
      refine ⟨0, ?_, hr₁.cell (c := (0, .table 0)) (by decide)⟩
      rw [Env.cell?_of_captured (hothers _ (hlibrary _ (by simp)))]
      exact hclosure.globals
    · rcases List.mem_append.mp hx with hx | hx
      · obtain ⟨t, ht, heq⟩ : ∃ t ∈ type, (t.1, Heap.fresh.cell t.2) = (x, d) := by
          simpa [Option.mem_toList] using hx
        obtain ⟨rfl, rfl⟩ := Prod.mk.inj heq
        obtain ⟨hnot, hcell⟩ := htype t ht
        have hlt : t.2 < Heap.fresh.cells.size := hcell.trans_eq holdsPrelude_fresh.cells_size.symm
        refine ⟨t.2, ?_, hlt.trans_le hr₁.grows.cells_le, hr₁.grows.cell _ hlt⟩
        rw [Env.cell?_of_captured (hothers _ hnot)]
        exact hclosure.type t ht
      · obtain ⟨c, hc, hlt, hvalue⟩ := hvars x d hx
        exact ⟨c, Env.cell?_of_own hc, hlt, hvalue⟩
  · intro x hx
    have hnot : x ∉ k.params := hlibrary x (List.mem_cons_of_mem _ hx)
    rw [Env.cell?_of_captured (hothers _ hnot)]
    exact hclosure.library x hx

theorem setmetatable_ok {q m : ℕ} (hq : q < h.tables.size) (hfree : (h.table q).metatable = none) :
    ∃ h', Library.setmetatable [.table q, .table m] h = .ok [.table q] h' ∧
      h.Grows (· = q) h' ∧ h'.tables.size = h.tables.size ∧
      h'.table q = { h.table q with metatable := some m } := by
  obtain ⟨h', hrun, hgrows, hsize, htable⟩ := Run.modifyTable_grows q
    (fun t => { t with metatable := some m }) h hq
  refine ⟨h', ?_, hgrows, hsize, htable⟩
  have hmetamethod : Operation.metamethod (.table q) "__metatable" h = .ok .nil h := by
    have hmeta : Operation.metatable? (.table q) h = .ok none h :=
      congrArg (EStateM.Result.ok · h) hfree
    exact Run.bind_ok hmeta
  exact (Run.bind_ok hmetamethod).trans (Run.bind_ok hrun)

/-- The first turn of a call: the body of the function. -/
theorem step_closure {trace : Trace} (caller : Option Frame) {args : List Datum}
    {own : List (String × ℕ)} {h₁ h₂ : Heap} {f : Datum} {ds : List Datum}
    (hc : h.closure place =
      ⟨none, k.params, false, [.giveBack [k.result]], (h.closure place).captured⟩)
    (hbind : Run.bindAll k.params args [] h = .ok own h₁)
    (hbody : Block.execute call [.giveBack [k.result]]
      ⟨own, (h.closure place).captured, [], none, trace, true⟩ atBlockEnd h₁ =
        .ok (.handedOn 0 f ds) h₂) :
    Call.step call trace ⟨caller, .closure place, args⟩ h = .ok (.inl ⟨some .host, f, ds⟩) h₂ := by
  have hread : Run.readClosure place h = .ok (h.closure place) h := rfl
  refine (Run.bind_ok hread).trans ?_
  rw [hc]
  have hdeclare : Env.declare ⟨[], (h.closure place).captured, [], none, trace, true⟩ k.params
      args h = .ok ⟨own, (h.closure place).captured, [], none, trace, true⟩ h₁ :=
    Run.bind_ok hbind
  exact (Run.bind_ok hdeclare).trans (Run.bind_ok hbody)

/-- A constructor makes its table and its metatable, and gives the table the metatable. -/
theorem construct {P : ℕ → ℕ → Heap → Prop} (hr : h.Ready)
    (hk : (place, k, type) ∈ Literal.constructors) (call : Dispatch) (turns : ℕ) (trace : Trace)
    (caller : Option Frame) (args : List Datum)
    (hbody : ∀ env h₁, env.Sees (k.sight type args) h₁ → h.Keeps h₁ → h₁.tables = h.tables →
      env.callers = trace → ∃ q m h₂,
        Expr.evaluateAll call [k.fields, k.metatable] env h₁ = .ok [.table q, .table m] h₂ ∧
        h₁.Keeps h₂ ∧ q < h₂.tables.size ∧ (h₂.table q).metatable = none ∧ P q m h₂) :
    ∃ q m h₂ h', iterate (Call.step call trace) (turns + 2) ⟨caller, .closure place, args⟩ h =
        .ok [.table q] h' ∧
      h.Keeps h₂ ∧ h₂.Grows (· = q) h' ∧ h'.tables.size = h₂.tables.size ∧
      q < h'.tables.size ∧ h'.table q = { h₂.table q with metatable := some m } ∧ P q m h₂ := by
  obtain ⟨own, h₁, hbind, hkeeps₁, htables, hsees⟩ := sees_constructor hr hk args trace
  obtain ⟨q, m, h₂, heval, hkeeps₂, hq, hfree, hP⟩ := hbody _ h₁ hsees hkeeps₁ htables rfl
  obtain ⟨h', hset, hgrows, hsize, htable⟩ := setmetatable_ok (m := m) hq hfree
  refine ⟨q, m, h₂, h', ?_, hkeeps₁.trans hkeeps₂, hgrows, hsize, hsize ▸ hq, htable, hP⟩
  have hname := evaluate_global call hsees 0 (x := "setmetatable")
    (d := .primitive .setmetatable) (by decide) (by simp [Constructor.sight])
  have hfirst := step_closure caller (hr.closure hk).eq hbind
    (execute_result rfl hname heval)
  have hsecond : Call.step call trace ⟨some .host, .primitive .setmetatable,
      [.table q, .table m]⟩ h₂ = .ok (.inr [.table q]) h' :=
    Run.bind_ok (Run.placed_ok _ hset)
  rw [Run.iterate_next hfirst]
  exact Run.iterate_result hsecond turns

/-! Calls and what constructors evaluate. -/

theorem within_eq {trace : Trace} (htrace : trace.hosted < Trace.hostedLimit) (depth : ℕ)
    (f : Datum) (args : List Datum) :
    ∃ turns, Call.within (depth + 1) trace f args h =
      iterate (Call.step (Call.within depth) trace) (turns + 3) ⟨none, f, args⟩ h := by
  refine ⟨turnLimit - 3, ?_⟩
  rw [show turnLimit - 3 + 3 = turnLimit by decide, Call.within, if_neg htrace.not_ge]

theorem within_primitive {trace : Trace} (htrace : trace.hosted < Trace.hostedLimit) (depth : ℕ)
    {q : Primitive} (args : List Datum) {ds : List Datum}
    (hq : ∀ call trace, q.apply call trace args h = .ok ds h') :
    Call.within (depth + 1) trace (.primitive q) args h = .ok ds h' := by
  obtain ⟨turns, hturns⟩ := within_eq htrace depth (.primitive q) args (h := h)
  have hstep : Call.step (Call.within depth) trace ⟨none, .primitive q, args⟩ h =
      .ok (.inr ds) h' := Run.bind_ok (Run.placed_ok _ (hq _ _))
  rw [hturns]
  exact Run.iterate_result hstep _

theorem evaluate_call {line : ℕ} {f : Expr} {args : List Expr} {g : Datum}
    {gs ds results : List Datum} {h₁ h₂ h₃ : Heap} (hf : f.evaluate call env h = .ok (g :: gs) h₁)
    (hargs : Expr.evaluateAll call args env h₁ = .ok ds h₂)
    (hcall : call (env.trace line) g ds h₂ = .ok results h₃) :
    (Expr.call line f args).evaluate call env h = .ok results h₃ :=
  (Run.bind_ok hf).trans ((Run.bind_ok hargs).trans (Run.placed_ok _ hcall))

theorem cells_of_free (line : ℕ) {x : String} (hx : env.cell? x = none) :
    env.ownCell? (.name line x) = none ∧ env.capturedCell? (.name line x) = none := by
  rw [Env.cell?] at hx
  cases hown : env.own.lookup x with
  | some c => simp [hown] at hx
  | none =>
    rw [hown] at hx
    simpa [Env.ownCell?, Env.capturedCell?, Expr.nameOnly?, hown] using hx

/-- A field of a table of the library. -/
theorem evaluate_field {s : Sight} (call : Dispatch) (hs : env.Sees s h) (line line' : ℕ)
    {x y : String} {p : ℕ} {d : Datum} (hx : (x, Datum.table p) ∈ Literal.globals)
    (hfree : x ∈ s.free)
    (hy : (p, y, d) ∈ Literal.fields) :
    (Expr.index line (.name line' x) (.text (Utf8.encode y))).evaluate call env h = .ok [d] h := by
  have hpresent : ∀ f ∈ Literal.fields, f.2.2.isNil = false := by decide
  have hname := evaluate_global call hs line' hx hfree
  have hcell : env.objectCell? (.name line' x) = none := by
    obtain ⟨hown, hcaptured⟩ := cells_of_free line' (hs.free x hfree)
    rw [Env.objectCell?, hown, hcaptured]
  have hindex : env.operate call line (fun call => Operation.index call (.table p) (.ofText y)) h =
      .ok d h := env.operate_ok line fun call =>
    Operation.index_table call (hs.ready.hasPrelude.field hy) (hpresent _ hy)
  rw [Expr.evaluate.eq_def]
  dsimp only
  rw [hcell]
  exact (Run.bind_ok hname).trans (Run.bind_ok hindex)

theorem evaluate_or {a b : Expr} {d : Datum} (ha : a.evaluate call env h = .ok [d] h')
    (hd : d.isTrue = true) : (Expr.or a b).evaluate call env h = .ok [d] h' := by
  refine (Run.bind_ok ha).trans ?_
  change (if d.isTrue then (return [d] : Run (List Datum)) else _) h' = _
  rw [hd]
  rfl

/-! Constructors of tables of fields. -/

theorem entries_eq {entries : List (String × Datum)} {fields : List (String × Expr × Datum)}
    (h : List.Forall₂ (fun e f => e.1 = f.1 ∧ e.2 = f.2.2) entries fields) :
    entries = fields.map fun f => (f.1, f.2.2) := by
  induction h with
  | nil => rfl
  | cons hentry _ ih => rw [List.map_cons, ← ih, ← hentry.1, ← hentry.2]

theorem present_eq {entries : List (String × Datum)} {fields : List (String × Value)}
    (h : List.Forall₂ (fun e _ => e.2.isNil = false) entries fields) :
    present entries = entries := by
  induction h with
  | nil => rfl
  | @cons e _ _ _ he _ ih => rw [present, List.filter_cons, he, ← present, ih]; rfl

theorem texts_eq {ds : List Datum} {xs : List String}
    (h : List.Forall₂ (fun d x => d = Datum.ofText x) ds xs) : ds = xs.map Datum.ofText := by
  induction h with
  | nil => rfl
  | cons hd _ ih => rw [List.map_cons, ← ih, ← hd]

/-- A table of what expressions give that leave the heap as it is. -/
theorem evaluate_fields {s : Sight} (hs : env.Sees s h) (call : Dispatch)
    (fields : List (String × Expr × Datum)) (hkeys : (fields.map Prod.fst).Nodup)
    (heval : ∀ h₁, env.Sees s h₁ → ∀ f ∈ fields, f.2.1.evaluate call env h₁ = .ok [f.2.2] h₁) :
    ∃ q room h', (Expr.tableOf (fields.map fun f => .field f.1 f.2.1)).evaluate call env h =
        .ok [.table q] h' ∧
      h.Keeps h' ∧ (h.tables.size ≤ q ∧ q < h'.tables.size) ∧
      h'.table q = record (present (fields.map fun f => (f.1, f.2.2))) room none := by
  have hgives : Gives call env s (.tableOf (fields.map fun f => .field f.1 f.2.1))
      (IsRecord (fun (a : Expr × Datum) _ _ _ d => d = a.2) fields) :=
    gives_record (fun a _ _ _ _ _ _ _ hd _ _ _ => hd) 0 Prod.fst fields hkeys
      fun f hf h₁ hs => ⟨f.2.2, h₁, heval h₁ hs f hf, .refl h₁, rfl⟩
  obtain ⟨d, h', hrun, hkeeps, q, room, entries, rfl, hlow, hhigh, htable, hentries⟩ := hgives h hs
  exact ⟨q, room, h', hrun, hkeeps, ⟨hlow, hhigh⟩, entries_eq hentries ▸ htable⟩

/-- A constructor that stores what its expressions give, each under its name. -/
theorem construct_record (hr : h.Ready) {x : String} {c m : ℕ}
    (hk : (place, k, some (x, c)) ∈ Literal.constructors)
    (hm : (c, Datum.table m) ∈ Literal.cells) (call : Dispatch) (turns : ℕ) (trace : Trace)
    (caller : Option Frame) (args : List Datum) (fields : List (String × Expr × Datum))
    (hfields : k.fields = .tableOf (fields.map fun f => .field f.1 f.2.1))
    (hmetatable : k.metatable = .ofName x) (hkeys : (fields.map Prod.fst).Nodup)
    (heval : ∀ env h₁, env.Sees (k.sight (some (x, c)) args) h₁ → env.callers = trace →
      ∀ f ∈ fields, f.2.1.evaluate call env h₁ = .ok [f.2.2] h₁) :
    ∃ q room h', iterate (Call.step call trace) (turns + 2) ⟨caller, .closure place, args⟩ h =
        .ok [.table q] h' ∧
      h.Keeps h' ∧ (h.tables.size ≤ q ∧ q < h'.tables.size) ∧
      h'.table q = record (present (fields.map fun f => (f.1, f.2.2))) room (some m) := by
  have hbody (env : Env) (h₁ : Heap) (hs : env.Sees (k.sight (some (x, c)) args) h₁)
      (hkeeps : h.Keeps h₁) (htables : h₁.tables = h.tables) (hcallers : env.callers = trace) :
      ∃ q m' h₂, Expr.evaluateAll call [k.fields, k.metatable] env h₁ =
          .ok [.table q, .table m'] h₂ ∧
        h₁.Keeps h₂ ∧ q < h₂.tables.size ∧ (h₂.table q).metatable = none ∧
        h.tables.size ≤ q ∧ m' = m ∧
        ∃ room, h₂.table q = record (present (fields.map fun f => (f.1, f.2.2))) room none := by
    obtain ⟨q, room, h₂, hrun, hkeeps₂, hq, htable⟩ := evaluate_fields hs call fields hkeys
      fun h₁ hs => heval env h₁ hs hcallers
    have hmeta := evaluate_var call (hs.growsApart hkeeps₂.grows) 0
      (k.metatable_mem_sight hm x args)
    refine ⟨q, m, h₂, ?_, hkeeps₂, hq.2, by rw [htable]; rfl, htables ▸ hq.1, rfl, room, htable⟩
    rw [hfields, hmetatable]
    exact (Run.bind_ok hrun).trans (Run.bind_ok hmeta)
  obtain ⟨q, m', h₂, h', hrun, hkeeps, hgrows, -, hlt, htable, hq, rfl, room, hrecord⟩ :=
    construct hr hk call turns trace caller args hbody
  refine ⟨q, room, h', hrun, (hkeeps.grows.trans hgrows).keeps fun p hp => hp ▸ hq,
    ⟨hq, hlt⟩, ?_⟩
  rw [htable, hrecord]
  rfl

/-! The values that constructors make. -/

/-- A call gives a datum that means a value by tables from a place on, and changes no other
tables. -/
def Makes (call : Callee) (f : Datum) (args : List Datum) (h : Heap) (low : ℕ) (v : Value) : Prop :=
  ∃ d h', call f args h = .ok [d] h' ∧ h.Grows (low ≤ ·) h' ∧ Means h' low h'.tables.size d v

/-- What it is for a datum to mean a value. -/
def Denotes (v : Value) : Footing := fun h low high d => Means h low high d v

theorem lasts_denotes (v : Value) : (Denotes v).Lasts :=
  fun _ _ _ _ _ _ _ hd hlow hhigh hsame => hd.mono hlow hhigh hsame

variable {trace : Trace} (hr : h.Ready) (htrace : trace.hosted < Trace.hostedLimit) (depth : ℕ)

include hr htrace

theorem makes_record {x : String} {c m : ℕ} (hk : (place, k, some (x, c)) ∈ Literal.constructors)
    (hm : (c, Datum.table m) ∈ Literal.cells) (args : List Datum)
    (fields : List (String × Expr × Datum))
    (hfields : k.fields = .tableOf (fields.map fun f => .field f.1 f.2.1))
    (hmetatable : k.metatable = .ofName x) (hkeys : (fields.map Prod.fst).Nodup)
    (heval : ∀ env h₁, env.Sees (k.sight (some (x, c)) args) h₁ →
      env.callers.hosted < Trace.hostedLimit →
      ∀ f ∈ fields, f.2.1.evaluate (Call.within (depth + 1)) env h₁ = .ok [f.2.2] h₁)
    (low : ℕ) (v : Value)
    (hmeans : ∀ q room h', h.Keeps h' → h'.HasPrelude → h.tables.size ≤ q ∧ q < h'.tables.size →
      h'.table q = record (present (fields.map fun f => (f.1, f.2.2))) room (some m) →
      Means h' low h'.tables.size (.table q) v) :
    Makes (Call.within (depth + 2) trace) (.closure place) args h low v := by
  obtain ⟨turns, hturns⟩ := within_eq htrace (depth + 1) (.closure place) args (h := h)
  obtain ⟨q, room, h', hrun, hkeeps, hq, htable⟩ := construct_record hr hk hm
    (Call.within (depth + 1)) (turns + 1) trace none args fields hfields hmetatable hkeys
    fun env h₁ hs hcallers => heval env h₁ hs (hcallers ▸ htrace)
  exact ⟨.table q, h', hturns.trans hrun, hkeeps.grows, hmeans q room h' hkeeps
    (hr.growsApart hkeeps.grows).hasPrelude hq htable⟩

theorem makes_date (ms : Int64) :
    Makes (Call.within (depth + 2) trace) (.closure 13) [.int ms] h h.tables.size
      (.dateTime ms) := by
  refine makes_record hr htrace depth (k := .date) (x := "DateType") (c := 12) (m := 12)
    (by simp [Literal.constructors]) (by decide) _ [("ms", _, .int ms)] rfl rfl (by simp) ?_ _ _
    fun q room h' _ hp hq htable => means_date hp hq ms htable
  intro env h₁ hs hcallers f hf
  obtain rfl := List.mem_singleton.mp hf
  have hms := evaluate_var (Call.within (depth + 1)) hs 0 (x := "ms") (d := .int ms)
    (by simp [Constructor.sight, Constructor.date, fit])
  have hfield := evaluate_field (Call.within (depth + 1)) hs 0 0 (x := "math")
    (y := "tointeger") (p := 4) (d := .primitive .mathToInteger) (by decide)
    (by simp [Constructor.sight]) (by decide)
  have htrace : (env.trace 0).hosted < Trace.hostedLimit := hcallers
  have hcall := within_primitive (h := h₁) htrace depth (q := .mathToInteger) [.int ms]
    fun _ _ => rfl
  exact evaluate_or (evaluate_call hfield hms hcall) rfl

theorem makes_objectId (id : ObjectId) :
    Makes (Call.within (depth + 2) trace) (.closure 17) [.ofText id.hex] h h.tables.size
      (.objectId id) := by
  refine makes_record hr htrace depth (k := .objectId) (x := "ObjectIdType") (c := 13) (m := 14)
    (by simp [Literal.constructors]) (by decide) _ [("hex", _, .ofText id.hex)] rfl rfl (by simp)
    ?_ _ _ fun q room h' _ hp hq htable => means_objectId hp hq id htable
  intro env h₁ hs hcallers f hf
  obtain rfl := List.mem_singleton.mp hf
  have hhex := evaluate_var (Call.within (depth + 1)) hs 0 (x := "hex")
    (d := .ofText id.hex) (by simp [Constructor.sight, Constructor.objectId, fit])
  have hfield := evaluate_field (Call.within (depth + 1)) hs 0 0 (x := "string")
    (y := "lower") (p := 2) (d := .primitive .stringLower) (by decide)
    (by simp [Constructor.sight]) (by decide)
  have htrace : (env.trace 0).hosted < Trace.hostedLimit := hcallers
  have hcall := within_primitive (h := h₁) htrace depth (q := .stringLower) [.ofText id.hex]
    fun _ _ => congrArg (fun s => EStateM.Result.ok [Datum.text s] h₁) (lower_hex id)
  exact evaluate_call hfield hhex hcall

theorem makes_regExp (pattern options : String) :
    Makes (Call.within (depth + 2) trace) (.closure 19)
      [.ofText (Regex.ofText pattern options).pattern,
        .ofText (Regex.ofText pattern options).options] h h.tables.size
      (.regex (Regex.ofText pattern options)) := by
  refine makes_record hr htrace depth (k := .regExp) (x := "RegExpType") (c := 14) (m := 16)
    (by simp [Literal.constructors]) (by decide) _
    [("pattern", _, .ofText (Regex.ofText pattern options).pattern),
      ("options", _, .ofText (Regex.ofText pattern options).options)] rfl rfl (by simp)
    ?_ _ _ fun q room h' _ hp hq htable => means_regex hp hq pattern options htable
  intro env h₁ hs _ f hf
  have hvar (x : String) (d : Datum) (hx : (x, d) ∈ (Constructor.sight .regExp
      (some ("RegExpType", 14)) [.ofText (Regex.ofText pattern options).pattern,
        .ofText (Regex.ofText pattern options).options]).vars) :=
    evaluate_var (Call.within (depth + 1)) hs 0 hx
  rcases List.mem_pair.mp hf with rfl | rfl
  · exact hvar "pattern" _ (by simp [Constructor.sight, Constructor.regExp, fit])
  · exact evaluate_or (hvar "options" _ (by simp [Constructor.sight, Constructor.regExp, fit])) rfl

theorem makes_binData (subtype : UInt8) (bytes : Bytes) :
    Makes (Call.within (depth + 2) trace) (.closure 20)
      [.int (Int64.ofInt subtype.toNat), .text bytes] h h.tables.size
      (.binary subtype bytes) := by
  refine makes_record hr htrace depth (k := .binData) (x := "BinDataType") (c := 15) (m := 17)
    (by simp [Literal.constructors]) (by decide) _
    [("subtype", _, .int (Int64.ofInt subtype.toNat)), ("bytes", _, .text bytes)] rfl rfl (by simp)
    ?_ _ _ fun q room h' _ hp hq htable => means_binary hp hq subtype bytes htable
  intro env h₁ hs _ f hf
  rcases List.mem_pair.mp hf with rfl | rfl
  · exact evaluate_var _ hs 0 (by simp [Constructor.sight, Constructor.binData, fit])
  · exact evaluate_var _ hs 0 (by simp [Constructor.sight, Constructor.binData, fit])

theorem makes_reference (database : Option String) (collection : String) {id : Value} {d : Datum}
    {low : ℕ} (hd : Means h low h.tables.size d id) (hlow : low ≤ h.tables.size) :
    Makes (Call.within (depth + 2) trace) (.closure 21)
      (.ofText collection :: d :: (database.map Datum.ofText).toList) h low
      (.reference database collection id) := by
  refine makes_record hr htrace depth (k := .reference) (x := "DBRefType") (c := 16) (m := 18)
    (by simp [Literal.constructors]) (by decide) _
    [("$ref", _, .ofText collection), ("$id", _, d),
      ("$db", _, (database.map Datum.ofText).getD .nil)] rfl rfl (by simp) ?_ _ _ ?_
  · intro env h₁ hs _ f hf
    simp only [List.mem_cons, List.not_mem_nil, or_false] at hf
    rcases hf with rfl | rfl | rfl
    · exact evaluate_var _ hs 0 (by simp [Constructor.sight, Constructor.reference, fit])
    · exact evaluate_var _ hs 0 (by simp [Constructor.sight, Constructor.reference, fit])
    · refine evaluate_var _ hs 0 ?_
      cases database <;> simp [Constructor.sight, Constructor.reference, fit]
  · intro q room h' hkeeps hp hq htable
    have hid := hd.mono le_rfl hkeeps.tables_le
      (hkeeps.agrees hr.tables_le le_rfl fun _ => False.elim)
    have htext (s : String) : (Datum.ofText s).isNil = false := rfl
    have hnil : Datum.nil.isNil = true := rfl
    have hfields : present (List.map (fun f : String × Expr × Datum => (f.1, f.2.2))
        [("$ref", .ofName "collection", .ofText collection), ("$id", .ofName "id", d),
          ("$db", .ofName "db", (database.map Datum.ofText).getD .nil)]) =
        [("$ref", .ofText collection), ("$id", d)] ++
          (database.map fun name => ("$db", Datum.ofText name)).toList := by
      cases database <;> simp [present, hd.present, htext, hnil]
    exact means_reference hp ⟨hlow.trans hq.1, hq.2⟩ database collection hid
      (htable.trans (congrArg (record · room (some 18)) hfields))

/-- A sequence is made an array. -/
theorem makes_array {items : List Value} (hsize : items.length < 2 ^ 63) {low : ℕ}
    (hlow : Heap.preludeTables ≤ low) {d : Datum}
    (hd : IsSequence Denotes items h low h.tables.size d) :
    Makes (Call.within (depth + 2) trace) (.table 20) [d] h low (.array items) := by
  obtain ⟨place, ds, rfl, hplace, hlt, htable, hds⟩ := hd
  obtain ⟨turns, hturns⟩ := within_eq htrace (depth + 1) (.table 20) [.table place] (h := h)
  have hmeta : Operation.metatable? (.table 20) h = .ok (some 21) h :=
    congrArg (EStateM.Result.ok · h)
      (hr.hasPrelude.metatable (m := (20, some 21)) (by decide) (by decide))
  have hget : Run.rawGet 21 (.ofText "__call") h = .ok (.closure 23) h :=
    congrArg (EStateM.Result.ok · h) (hr.hasPrelude.field (f := (21, "__call", _)) (by decide))
  have hhandler : Operation.metamethod (.table 20) "__call" h = .ok (.closure 23) h :=
    (Run.bind_ok hmeta).trans hget
  have hstep : Call.step (Call.within (depth + 1)) trace ⟨none, .table 20, [.table place]⟩ h =
      .ok (.inl ⟨none, .closure 23, [.table 20, .table place]⟩) h := Run.bind_ok hhandler
  have hk : (23, Constructor.array, some ("ArrayType", 17)) ∈ Literal.constructors := by
    simp [Literal.constructors]
  have hbody (env : Env) (h₁ : Heap)
      (hs : env.Sees
        (Constructor.array.sight (some ("ArrayType", 17)) [.table 20, .table place]) h₁)
      (hkeeps : h.Keeps h₁) (htables : h₁.tables = h.tables) (hcallers : env.callers = trace) :
      ∃ q m h₂, Expr.evaluateAll (Call.within (depth + 1))
          [Constructor.array.fields, Constructor.array.metatable] env h₁ =
            .ok [.table q, .table m] h₂ ∧
        h₁.Keeps h₂ ∧ q < h₂.tables.size ∧ (h₂.table q).metatable = none ∧
        q = place ∧ m = 19 := by
    have hitems := evaluate_var (Call.within (depth + 1)) hs 0 (x := "items")
      (d := .table place) (by simp [Constructor.sight, Constructor.array, fit])
    have htype := evaluate_var (Call.within (depth + 1)) hs 0 (x := "ArrayType")
      (d := .table 19) (Constructor.array.metatable_mem_sight (by decide) _ _)
    refine ⟨place, 19, h₁, (Run.bind_ok (evaluate_or hitems rfl)).trans (Run.bind_ok htype),
      .refl h₁, htables ▸ hlt, ?_, rfl, rfl⟩
    rw [hkeeps.table place hlt id, htable]
    rfl
  obtain ⟨q, m, h₂, h', hrun, hkeeps, hgrows, -, hq, htable', rfl, rfl⟩ :=
    construct hr hk (Call.within (depth + 1)) turns trace none [.table 20, .table place] hbody
  have hboth : h.Grows (· = q) h' := hkeeps.grows.trans hgrows
  have hagrees : h.Agrees (q + 1) h.tables.size h' :=
    hboth.agrees hr.tables_le le_rfl fun p hp => ⟨by omega, by omega⟩
  have hr' := hr.growsApart (hboth.weaken fun p _ hp => by omega)
  refine ⟨.table q, h', ?_, hboth.weaken fun p _ hp => hp ▸ hplace, ?_⟩
  · rw [hturns, Run.iterate_next hstep]
    exact hrun
  · rw [hkeeps.table q hlt id, htable] at htable'
    exact means_array hr'.hasPrelude ⟨hplace, hq⟩
      (hds.imp fun d v hd => hd.mono (by omega) hboth.tables_le hagrees) hsize htable'

/-- A table of fields is made a document, with the order of its keys. -/
theorem makes_document {fields : List (String × Value)} (hkeys : (fields.map Prod.fst).Nodup)
    (hsize : fields.length < 2 ^ 63) {low middle : ℕ} (hlow : Heap.preludeTables ≤ low)
    (hmiddle : middle ≤ h.tables.size) {d e : Datum}
    (hd : IsRecord Denotes fields h low middle d)
    (he : IsSequence (fun x _ _ _ d => d = Datum.ofText x) (fields.map Prod.fst) h middle
      h.tables.size e) :
    Makes (Call.within (depth + 2) trace) (.closure 24) [d, e] h low (.document fields) := by
  obtain ⟨place, room, entries, rfl, hplace, hlt, htable, hentries⟩ := hd
  obtain ⟨names, ds, rfl, hnames, hnames', hsequence, hds⟩ := he
  obtain ⟨turns, hturns⟩ := within_eq htrace (depth + 1) (.closure 24) [.table place, .table names]
    (h := h)
  have hk : (24, Constructor.document, none) ∈ Literal.constructors := by
    simp [Literal.constructors]
  have hbody (env : Env) (h₁ : Heap)
      (hs : env.Sees (Constructor.document.sight none [.table place, .table names]) h₁)
      (hkeeps : h.Keeps h₁) (htables : h₁.tables = h.tables) (hcallers : env.callers = trace) :
      ∃ q m h₂, Expr.evaluateAll (Call.within (depth + 1))
          [Constructor.document.fields, Constructor.document.metatable] env h₁ =
            .ok [.table q, .table m] h₂ ∧
        h₁.Keeps h₂ ∧ q < h₂.tables.size ∧ (h₂.table q).metatable = none ∧
        q = place ∧ (h.tables.size ≤ m ∧ m < h₂.tables.size) ∧ ∃ room, h₂.table m =
          record [("__name", .ofText "Document"), ("__keys", .table names)] room none := by
    have hfields := evaluate_var (Call.within (depth + 1)) hs 0 (x := "fields")
      (d := .table place) (by simp [Constructor.sight, Constructor.document, fit])
    obtain ⟨m, room, h₂, hrun, hkeeps₂, hm, hmeta⟩ := evaluate_fields hs
      (Call.within (depth + 1)) [("__name", .string "Document", .ofText "Document"),
        ("__keys", .or (.ofName "keys") (.tableOf []), .table names)] (by simp) (by
      intro h₁ hs f hf
      rcases List.mem_pair.mp hf with rfl | rfl
      · rfl
      · exact evaluate_or (evaluate_var _ hs 0
          (by simp [Constructor.sight, Constructor.document, fit])) rfl)
    refine ⟨place, m, h₂, (Run.bind_ok (evaluate_or hfields rfl)).trans (Run.bind_ok hrun),
      hkeeps₂, ?_, ?_, rfl, htables ▸ hm, room, hmeta⟩
    · exact (hlt.trans_le hmiddle).trans_le (hkeeps.trans hkeeps₂).tables_le
    · rw [(hkeeps.trans hkeeps₂).table place (hlt.trans_le hmiddle) id, htable]
      rfl
  obtain ⟨q, m, h₂, h', hrun, hkeeps, hgrows, hsize', hq, htable', rfl, hm, room', hmeta⟩ :=
    construct hr hk (Call.within (depth + 1)) (turns + 1) trace none _ hbody
  have hboth : h.Grows (· = q) h' := hkeeps.grows.trans hgrows
  have hagrees : h.Agrees (q + 1) middle h' := hboth.agrees hr.tables_le hmiddle
    fun p hp => ⟨by omega, by omega⟩
  refine ⟨.table q, h', hturns.trans hrun, hboth.weaken fun p _ hp => hp ▸ hplace, ?_⟩
  have hpresent : present entries = entries := present_eq (hentries.imp fun e f he => he.2.present)
  rw [hkeeps.table q (hlt.trans_le hmiddle) id, htable, hpresent] at htable'
  refine means_document ⟨hplace, hq⟩ (hentries.imp fun e f he => ⟨he.1, he.2.present, he.2.mono
    (by omega) (hmiddle.trans hboth.tables_le) hagrees⟩) hkeys hsize htable' ⟨by omega, by omega⟩
    ((hgrows.table m hm.2 (by omega)).trans hmeta) ⟨by omega, by omega⟩ ?_
  rw [hboth.table names hnames' (by omega), hsequence, texts_eq hds, List.map_map]
  rfl

end Call

end Docbase.Script
