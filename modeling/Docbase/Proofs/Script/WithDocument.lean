import Docbase.Proofs.Script.Equality
import Docbase.Proofs.Script.GuardScope
import Docbase.Proofs.Script.Returning

/-!
The document at hand. `__with_document` puts a document in the place of the one at hand, calls a
function under `pcall`, and takes the previous one up again.
-/
namespace Docbase.Script

open Docbase.Script.Expr (ofName callName)
open Guard

/-- The heap that a computation leaves, whether it comes to a result or to a fault. -/
def Run.left {α : Type} (x : Run α) (h : Heap) : Heap :=
  match x h with
  | .ok _ h' | .error _ h' => h'

theorem Run.left_bind_ok {α β : Type} {x : Run α} {f : α → Run β} {a : α} {h h' : Heap}
    (hx : x h = .ok a h') : left (x >>= f) h = left (f a) h' := by
  rw [left, left, bind_ok hx]

theorem Run.left_bind_error {α β : Type} {x : Run α} {f : α → Run β} {fault : Fault}
    {h h' : Heap} (hx : x h = .error fault h') : left (x >>= f) h = h' := by
  rw [left, bind_error hx]

theorem Run.placed_error {α : Type} {x : Run α} {fault : Fault} {h h' : Heap} (f : Frame)
    (hx : x h = .error fault h') : ∃ fault', placed f x h = .error fault' h' := by
  rw [placed, hx]
  cases fault <;> exact ⟨_, rfl⟩

/-- What follows leaves the heap alone. -/
theorem Run.left_bind_of_left {α β : Type} {x : Run α} {f : α → Run β}
    (hf : ∀ a h, left (f a) h = h) (h : Heap) : left (x >>= f) h = left x h := by
  cases hx : x h with
  | ok a h' => rw [left_bind_ok hx, hf, left, hx]
  | error fault h' => rw [left_bind_error hx, left, hx]

namespace Heap

/-- The cell of the variable that holds the document at hand. -/
def documentCell : ℕ := 18

def document (h : Heap) : Datum := h.cell documentCell

/-- The place of the function that names of bound functions are looked up by. -/
def lookupPlace : ℕ := 25

/-- The place of `__with_document`. -/
def withDocumentPlace : ℕ := 27

end Heap

namespace Closure

/-- The variables of the prelude that the functions on the document at hand see. -/
def preludeVariables : List (String × ℕ) :=
  [("current", Heap.documentCell), ("ArrayType", 17), ("DBRefType", 16), ("BinDataType", 15),
    ("RegExpType", 14), ("ObjectIdType", 13), ("DateType", 12), ("null_meta", 11),
    ("less_equal", 10), ("less", 8), ("ordered", 6), ("coerce", 5), ("sentinel", 1),
    (Env.globalsName, Heap.globalsCell)]

/-- `__with_document` up to where the previous document is taken up again. -/
def takeUp : Block :=
  [.bind "previous" (ofName "current"),
    .set "current" (ofName "doc"),
    .declare [⟨"ok", false⟩, ⟨"result", false⟩] [callName "pcall" [ofName "fn", .varargs]],
    .set "current" (ofName "previous")]

/-- The rest of it: what the function raised is raised again, and its result is given back. -/
def passOn : Block :=
  [.when (.unary 0 .not (ofName "ok")) [.call (callName "error" [ofName "result", .int 0])],
    .giveOne (ofName "result")]

/-- A function that begins as `__with_document` does. -/
def takingUp (rest : Block) : Closure :=
  ⟨none, ["doc", "fn"], true, takeUp ++ rest, preludeVariables⟩

def withDocument : Closure := takingUp passOn

/-- What names of bound functions are looked up by. -/
def lookup : Closure :=
  ⟨none, ["_", "name"], false,
    [.when (.eq (ofName "name") (.string "this")) [.giveOne (ofName "current")],
      .when (.eq (callName "type" [ofName "current"]) (.string "table"))
        [.bind "field" (callName "rawget" [ofName "current", ofName "name"]),
          .when (.ne (ofName "field") .nil) [.giveOne (ofName "field")]],
      .giveOne ((ofName "_G").item (ofName "name"))],
    preludeVariables⟩

end Closure

theorem closure_fresh : Heap.fresh.closure Heap.withDocumentPlace = .withDocument ∧
    Heap.fresh.closure Heap.lookupPlace = .lookup := by decide +kernel

/-! The function in steps. -/

namespace TakingUp

variable {call call' : Dispatch} {trace : Trace} {args : List Datum}

/-- What the function sees when it calls the one it was given. -/
def inside (trace : Trace) (args : List Datum) (doc fn previous : ℕ) : Env :=
  ⟨[("previous", previous), ("fn", fn), ("doc", doc)], Closure.preludeVariables, args.drop 2, none,
    trace, true⟩

/-- What it sees when it has the previous document again. -/
def after (env : Env) (ok result : ℕ) : Env :=
  { env with own := ("result", result) :: ("ok", ok) :: env.own }

/-- The call of the function that it was given. -/
def protectedCall : Expr := callName "pcall" [ofName "fn", .varargs]

/-- From the call on, with the cell of the previous document. -/
def protect (call : Dispatch) (env : Env) (previous : ℕ) : Run Env := do
  let ds ← protectedCall.evaluate call env
  let ok ← Run.newCell (ds.headD .nil)
  let result ← Run.newCell (ds.tail.headD .nil)
  Run.writeCell Heap.documentCell (← Run.readCell previous)
  return after env ok result

/-- All of it, up to where the previous document is taken up again. -/
def steps (call : Dispatch) (trace : Trace) (args : List Datum) : Run Env := do
  let doc ← Run.newCell (args.headD .nil)
  let fn ← Run.newCell (args.tail.headD .nil)
  let previous ← Run.newCell (← Run.readCell Heap.documentCell)
  Run.writeCell Heap.documentCell (← Run.readCell doc)
  protect call (inside trace args doc fn previous) previous

/-! One statement after the other. -/

section Statements

variable {env : Env} {x : String} {c : ℕ} {rest : Block} {atEnd : Env → Run Flow}

theorem evaluate_cell_eq (hx : env.cell? x = some c) :
    (ofName x).evaluate call env = (do return [← Run.readCell c]) := by
  simp only [ofName, Expr.evaluate, Env.read, hx]

theorem execute_bind_eq (e : Expr) :
    Block.execute call (.bind x e :: rest) env atEnd = (do
      let ds ← e.evaluate call env
      let c ← Run.newCell (ds.headD .nil)
      Block.execute call rest { env with own := (x, c) :: env.own } atEnd) := by
  rw [Block.execute_cons_eq (by simp [Stmt.bind])]
  simp only [Stmt.bind, Stmt.execute, Expr.evaluateAll, List.map, Env.declare, Run.bindAll,
    bind_assoc, pure_bind]

theorem execute_declare_two_eq (y : String) (e : Expr) :
    Block.execute call (.declare [⟨x, false⟩, ⟨y, false⟩] [e] :: rest) env atEnd = (do
      let ds ← e.evaluate call env
      let c ← Run.newCell (ds.headD .nil)
      let c' ← Run.newCell (ds.tail.headD .nil)
      Block.execute call rest { env with own := (y, c') :: (x, c) :: env.own } atEnd) := by
  rw [Block.execute_cons_eq (by simp)]
  simp only [Stmt.execute, Expr.evaluateAll, List.map, Env.declare, Run.bindAll, bind_assoc,
    pure_bind]

theorem execute_set_eq (e : Expr) (hx : env.cell? x = some c) :
    Block.execute call (.set x e :: rest) env atEnd = (do
      let ds ← e.evaluate call env
      Run.writeCell c (ds.headD .nil)
      Block.execute call rest env atEnd) := by
  rw [Block.execute_cons_eq (by simp [Stmt.set])]
  simp only [Stmt.set, Stmt.execute, Expr.evaluateAll, Target.places, hx, List.mapM_nil, bind_assoc,
    pure_bind, List.length_singleton, fit, List.reverse_singleton, List.zip_cons_cons,
    List.zip_nil_left, Place.writeAll, Place.write]

end Statements

theorem enter_takingUp (rest : Block) :
    Call.enter call trace (.takingUp rest) args = (do
      let env ← steps call trace args
      match ← Block.execute call rest env atBlockEnd with
      | .returned values => return .inr values
      | .handedOn line f args => return .inl ⟨some (env.frame line), f, args⟩
      | _ => return .inr []) := by
  simp only [Call.enter, Closure.takingUp, Closure.takeUp, Env.declare, Run.bindAll, bind_assoc,
    pure_bind, steps, protect, List.cons_append, List.nil_append, if_true]
  refine bind_congr fun doc => bind_congr fun fn => ?_
  rw [execute_bind_eq, evaluate_cell_eq (c := Heap.documentCell) (by rfl)]
  simp only [bind_assoc, pure_bind, List.headD_cons]
  refine bind_congr fun d => bind_congr fun previous => ?_
  rw [execute_set_eq (c := Heap.documentCell) _ (by rfl), evaluate_cell_eq (c := doc) (by rfl)]
  simp only [bind_assoc, pure_bind, List.headD_cons]
  refine bind_congr fun d => bind_congr fun _ => ?_
  rw [execute_declare_two_eq]
  simp only [bind_assoc]
  refine bind_congr fun ds => bind_congr fun ok => bind_congr fun result => ?_
  rw [execute_set_eq (c := Heap.documentCell) _ (by rfl), evaluate_cell_eq (c := previous) (by rfl)]
  simp only [bind_assoc, pure_bind, List.headD_cons]
  rfl

end TakingUp

/-! The guard of a scope. -/

/-- The variable of the globals keeps their table, and `__with_document` alone writes to that of
the document at hand; further cells may be guarded. -/
def Guard.ofScope (more : List (ℕ × Option Datum)) : Guard where
  cells := more ++ [(Heap.globalsCell, some (.table Heap.globals)), (Heap.documentCell, none)]
  functions := [(Heap.lookupPlace, .lookup), (Heap.withDocumentPlace, .withDocument)]

/-- Whether further cells leave it open which document is at hand. -/
def Guard.Open (more : List (ℕ × Option Datum)) : Prop := ∀ d, (Heap.documentCell, some d) ∉ more

section OfScope

variable {more : List (ℕ × Option Datum)} {n : ℕ}

theorem Guard.mem_cells {c : ℕ × Option Datum} : c ∈ (ofScope more).cells ↔ c ∈ more ∨
    c = (Heap.globalsCell, some (.table Heap.globals)) ∨ c = (Heap.documentCell, none) := by
  simp [ofScope]

theorem Guard.mem_functions {f : ℕ × Closure} : f ∈ (ofScope more).functions ↔
    f = (Heap.lookupPlace, .lookup) ∨ f = (Heap.withDocumentPlace, .withDocument) := by
  simp [ofScope]

theorem Guard.mem_document (more : List (ℕ × Option Datum)) :
    (Heap.documentCell, none) ∈ (ofScope more).cells := mem_cells.mpr (.inr (.inr rfl))

theorem Guard.watches_globals (more : List (ℕ × Option Datum)) :
    (ofScope more).Watches Heap.globalsCell :=
  ⟨some (.table Heap.globals), mem_cells.mpr (.inr (.inl rfl))⟩

theorem Guard.Goes.writeDocument (hopen : Open more) (d : Datum) :
    (ofScope more).Same n (Run.writeCell Heap.documentCell d)
      (Run.writeCell Heap.documentCell d) := by
  refine .writeCell (fun v hv => ?_) d
  have hne : (Heap.documentCell, some v) ≠ (Heap.globalsCell, some (Datum.table Heap.globals)) :=
    fun he => absurd (congrArg Prod.fst he) (show (18 : ℕ) ≠ 0 by decide)
  rcases mem_cells.mp hv with hv | hv
  · exact hopen v hv
  · simp [hne] at hv

theorem Guard.Holds.globals {h : Heap} (hh : (ofScope more).Holds h) :
    Heap.globalsCell < h.cells.size ∧ h.cell Heap.globalsCell = .table Heap.globals :=
  (hh.cell _ (mem_cells.mpr (.inr (.inl rfl)))).imp_right fun hcell => hcell _ rfl

theorem Guard.Holds.lookup {h : Heap} (hh : (ofScope more).Holds h) :
    h.closure Heap.lookupPlace = .lookup :=
  (hh.function _ (mem_functions.mpr (.inl rfl))).2.1

theorem Guard.Holds.withDocument {h : Heap} (hh : (ofScope more).Holds h) :
    h.closure Heap.withDocumentPlace = .withDocument :=
  (hh.function _ (mem_functions.mpr (.inr rfl))).2.1

theorem Guard.Holds.preludeVariables {h : Heap} (hh : (ofScope more).Holds h) :
    ∀ v ∈ Closure.preludeVariables, v.2 < h.cells.size :=
  (hh.function (Heap.withDocumentPlace, .withDocument) (mem_functions.mpr (.inr rfl))).2.2

/-- The document at hand can be guarded as it is. -/
theorem Guard.Holds.keepDocument {h : Heap} (hh : (ofScope []).Holds h) :
    (ofScope [(Heap.documentCell, some h.document)]).Holds h where
  cell c hc := by
    rcases List.mem_cons.mp hc with rfl | hc
    · exact ⟨(hh.cell _ (mem_document _)).1, fun d hd => Option.some.inj hd⟩
    · exact hh.cell c hc
  function := hh.function
  closure place hplace v hv := by
    obtain ⟨hlt, hspared⟩ := hh.closure place hplace v hv
    refine ⟨hlt, fun ⟨kept, hw⟩ => hspared ?_⟩
    rcases List.mem_cons.mp hw with he | hw
    · have hcell : v.2 = Heap.documentCell := congrArg Prod.fst he
      exact ⟨none, hcell ▸ mem_document []⟩
    · exact ⟨kept, hw⟩

theorem Guard.Holds.document_eq {h : Heap} {d : Datum}
    (hh : (ofScope [(Heap.documentCell, some d)]).Holds h) : h.document = d :=
  (hh.cell _ (mem_cells.mpr (.inl (List.mem_singleton.mpr rfl)))).2 d rfl

end OfScope

namespace TakingUp

variable {more : List (ℕ × Option Datum)} {n : ℕ} {call call' : Dispatch} {trace : Trace}
  {args : List Datum}

/-- Code that assigns to nothing may run with any variables. -/
theorem admits_of_lt {G : Guard} {vars : List (String × ℕ)} (hvars : ∀ v ∈ vars, v.2 < n) :
    G.Admits n vars fun _ => false :=
  fun v hv => ⟨hvars v hv, fun _ => rfl⟩

theorem goes_protect (hopen : Open more) (hcall : (ofScope more).Agree call call') {env : Env}
    (henv : ∀ v ∈ env.visible, v.2 < n) (previous : ℕ) :
    (ofScope more).Goes n (protect call env previous) (protect call' env previous)
      fun env m => ∀ v ∈ env.visible, v.2 < m := by
  refine .bind (Expr.goes_evaluate hcall protectedCall n env (admits_of_lt henv)) fun ds =>
    .andThen (.newCell _) fun ok m hnm hok => .andThen (.newCell _) fun result k hmk hresult =>
    .bind (.readCell _) fun _ => .bind (.writeDocument hopen _) fun _ => .result fun l hkl => ?_
  intro v hv
  rcases List.mem_cons.mp hv with rfl | hv
  · exact hresult.1.trans_le hkl
  rcases List.mem_cons.mp hv with rfl | hv
  · exact hok.1.trans_le (hmk.trans hkl)
  · exact (henv v hv).trans_le (hnm.trans (hmk.trans hkl))

theorem goes_steps (hopen : Open more) (hcall : (ofScope more).Agree call call')
    (hvars : ∀ v ∈ Closure.preludeVariables, v.2 < n) (trace : Trace) (args : List Datum) :
    (ofScope more).Goes n (steps call trace args) (steps call' trace args)
      fun env m => ∀ v ∈ env.visible, v.2 < m := by
  refine .andThen (.newCell _) fun doc m hnm hdoc => .andThen (.newCell _) fun fn k hmk hfn =>
    .bind (.readCell _) fun d => .andThen (.newCell _) fun previous l hkl hprevious =>
    .bind (.readCell _) fun _ => .bind (.writeDocument hopen _) fun _ =>
    goes_protect hopen hcall (fun v hv => ?_) previous
  rcases List.mem_append.mp hv with hv | hv
  · simp only [inside, List.mem_cons, List.not_mem_nil, or_false] at hv
    rcases hv with rfl | rfl | rfl
    exacts [hprevious.1, hfn.1.trans_le hkl, hdoc.1.trans_le (hmk.trans hkl)]
  · exact (hvars v hv).trans_le (hnm.trans (hmk.trans hkl))

theorem goes_enter_takingUp (hopen : Open more) (hcall : (ofScope more).Agree call call')
    (hvars : ∀ v ∈ Closure.preludeVariables, v.2 < n) {rest : Block}
    (hrest : ∀ x, Block.assigns x rest = false) (trace : Trace) (args : List Datum) :
    (ofScope more).Same n (Call.enter call trace (.takingUp rest) args)
      (Call.enter call' trace (.takingUp rest) args) := by
  rw [enter_takingUp, enter_takingUp]
  refine .andThen (goes_steps hopen hcall hvars trace args) fun env m _ henv =>
    .bind (Block.goes_execute hcall rest m env _ _ ?_ ends_atBlockEnd) fun flow => ?_
  · exact (admits_of_lt henv).imp fun x _ => hrest x
  · split <;> exact .pure _

/-- Looking up a name assigns to nothing. -/
theorem admitted_lookup (hcall : (ofScope more).Agree call call') :
    Call.Admitted (ofScope more) call call' .lookup :=
  fun _ hvars trace _ => Call.goes_enter hcall trace (admits_of_lt hvars) _

theorem admitted_withDocument (hopen : Open more) (hcall : (ofScope more).Agree call call') :
    Call.Admitted (ofScope more) call call' .withDocument :=
  fun _ hvars trace args => goes_enter_takingUp hopen hcall hvars (fun _ => rfl) trace args

/-! What a call leaves. -/

/-- What calls of the library's functions come to: `pcall` always to results, and `error` to what
it raises. -/
structure Hosts (call : Dispatch) (trace : Trace) : Prop where
  pcall : ∀ f args h, ∃ ds h', call trace (.primitive .pcall) (f :: args) h = .ok ds h'
  error : ∀ d h, ∃ fault, call trace (.primitive .error) [d, .int 0] h = .error fault h

variable {h h' : Heap} {env : Env}

/-- A global that the library has under its name. -/
theorem evaluate_global_eq (hh : (ofScope more).Holds h) {x : String} {d : Datum}
    (hx : env.cell? x = none) (hglobals : env.cell? Env.globalsName = some Heap.globalsCell)
    (hd : (h.table Heap.globals).getText x = d) (hpresent : d.isNil = false) :
    (ofName x).evaluate call env h = .ok [d] h := by
  have henv : env.globals h = .ok (.table Heap.globals) h := by
    rw [Env.globals, hglobals]
    exact congrArg (EStateM.Result.ok · h) hh.globals.2
  have hread : env.read call 0 x h = .ok d h := by
    rw [Env.read, hx]
    exact (Run.bind_ok henv).trans
      (env.operate_ok 0 fun call => Operation.index_table call hd hpresent)
  exact Run.bind_ok hread

/-- The function that was given is called by way of the library. -/
theorem evaluate_protectedCall (hh : (ofScope more).Holds h)
    (hpcall : (h.table Heap.globals).getText "pcall" = .primitive .pcall) (doc fn previous : ℕ) :
    protectedCall.evaluate call (inside trace args doc fn previous) h =
      Run.placed ((inside trace args doc fn previous).frame 0)
        (call (trace.push .host) (.primitive .pcall) (h.cell fn :: args.drop 2)) h := by
  have hf : (ofName "pcall").evaluate call (inside trace args doc fn previous) h =
      .ok [.primitive .pcall] h :=
    evaluate_global_eq hh rfl rfl hpcall rfl
  have hargs : Expr.evaluateAll call [ofName "fn", .varargs] (inside trace args doc fn previous) h =
      .ok (h.cell fn :: args.drop 2) h := by
    have hfn : (ofName "fn").evaluate call (inside trace args doc fn previous) h =
        .ok [h.cell fn] h := evaluate_cell rfl rfl 0
    exact Run.bind_ok hfn
  exact (Run.bind_ok hf).trans (Run.bind_ok hargs)

/-- What the document variable is given, it has. -/
theorem document_writeCell (hlt : Heap.documentCell < h.cells.size) (d : Datum) :
    Heap.document { h with cells := h.cells.setIfInBounds Heap.documentCell d } = d := by
  simp [Heap.document, Heap.cell, hlt]

/-- From the call on, the cell of the previous document being guarded: it is at hand again. -/
theorem protect_restores {c : ℕ} {d : Datum}
    (hcall : (ofScope [(c, some d)]).Agree call call) (hhosts : Hosts call (trace.push .host))
    (hh : (ofScope [(c, some d)]).Holds h)
    (hpcall : (h.table Heap.globals).getText "pcall" = .primitive .pcall) {doc fn : ℕ}
    (henv : ∀ v ∈ (inside trace args doc fn c).visible, v.2 < h.cells.size) :
    ∃ ok result h', protect call (inside trace args doc fn c) c h =
      .ok (after (inside trace args doc fn c) ok result) h' ∧ h'.document = d := by
  obtain ⟨ds, h₁, hds⟩ : ∃ ds h₁,
      protectedCall.evaluate call (inside trace args doc fn c) h = .ok ds h₁ := by
    obtain ⟨ds, h₁, hends⟩ := hhosts.pcall (h.cell fn) (args.drop 2) h
    exact ⟨ds, h₁, (evaluate_protectedCall hh hpcall doc fn c).trans (Run.placed_ok _ hends)⟩
  have hh₁ := (Goes.ok (Expr.goes_evaluate hcall protectedCall _ _ (admits_of_lt henv)) hh le_rfl
    hds).1
  obtain ⟨h₂, hok, -⟩ := Run.newCell_keeps (ds.headD .nil) h₁
  have hh₂ := (Goes.ok (.newCell _) hh₁ le_rfl hok).1
  obtain ⟨h₃, hresult, -⟩ := Run.newCell_keeps (ds.tail.headD .nil) h₂
  have hh₃ := (Goes.ok (.newCell _) hh₂ le_rfl hresult).1
  have hprevious : Run.readCell c h₃ = .ok d h₃ :=
    congrArg (EStateM.Result.ok · h₃)
      ((hh₃.cell _ (mem_cells.mpr (.inl (List.mem_singleton.mpr rfl)))).2 d rfl)
  have hlt := (hh₃.cell _ (mem_document _)).1
  exact ⟨_, _, _, (Run.bind_ok hds).trans ((Run.bind_ok hok).trans ((Run.bind_ok hresult).trans
    (Run.bind_ok hprevious))), document_writeCell hlt d⟩

/-- The heap in which the function that was given is called: the previous document is kept, and
the one that was given is at hand. -/
structure Bound (h : Heap) (args : List Datum) (doc fn previous : ℕ) (h' : Heap) : Prop where
  guarded : (ofScope [(previous, some h.document)]).Holds h'
  open_previous : Open [(previous, some h.document)]
  tables : h'.tables = h.tables
  document : h'.document = args.headD .nil
  visible : ∀ trace, ∀ v ∈ (inside trace args doc fn previous).visible, v.2 < h'.cells.size

/-- The function begins by putting the document that it was given in the place of the previous
one. -/
theorem steps_bind (hh : (ofScope []).Holds h) (call : Dispatch) (trace : Trace)
    (args : List Datum) : ∃ doc fn previous h', Bound h args doc fn previous h' ∧
      steps call trace args h = protect call (inside trace args doc fn previous) previous h' := by
  obtain ⟨h₁, hdoc, hkeep₁, hsize₁, hcell₁, htables₁⟩ := Run.newCell_keeps (args.headD .nil) h
  obtain ⟨h₂, hfn, hkeep₂, hsize₂, -, htables₂⟩ := Run.newCell_keeps (args.tail.headD .nil) h₁
  have hh₂ := (Goes.ok (.newCell _) (Goes.ok (.newCell _) hh le_rfl hdoc).1 le_rfl hfn).1
  have hlt := (hh.cell _ (mem_document _)).1
  have hdocument : h₂.document = h.document :=
    (hkeep₂.cell _ (hlt.trans_le hkeep₁.cells_le)).trans (hkeep₁.cell _ hlt)
  -- from here on the cell of the previous document is guarded
  obtain ⟨h₃, hprevious, hkeep₃, hsize₃, -, htables₃⟩ := Run.newCell_keeps h₂.document h₂
  have hh₃ : (ofScope [(h₂.cells.size, some h.document)]).Holds h₃ := by
    obtain rfl : { h₂ with cells := h₂.cells.push h₂.document } = h₃ :=
      (EStateM.Result.ok.inj hprevious).2
    exact hdocument ▸ Holds.newCell hh₂ h₂.document
  have hopen : Open [(h₂.cells.size, some h.document)] := fun d hd => by
    have hcell := congrArg Prod.fst (List.mem_singleton.mp hd)
    exact absurd hcell ((hlt.trans_le hkeep₁.cells_le).trans_le hkeep₂.cells_le).ne
  have hgiven : h₃.cell h.cells.size = args.headD .nil := by
    rw [hkeep₃.cell _ (by omega), hkeep₂.cell _ (by omega), hcell₁]
  obtain ⟨h₄, hwrite, htables₄, hwritten⟩ : ∃ h₄,
      Run.writeCell Heap.documentCell (h₃.cell h.cells.size) h₃ = .ok () h₄ ∧
        h₄.tables = h₃.tables ∧ h₄.document = h₃.cell h.cells.size :=
    ⟨_, rfl, rfl, document_writeCell (hh₃.cell _ (mem_document _)).1 _⟩
  obtain ⟨hh₄, hle₄, -⟩ := Goes.ok (.writeDocument hopen _) hh₃ le_rfl hwrite
  refine ⟨h.cells.size, h₁.cells.size, h₂.cells.size, h₄, ⟨hh₄, hopen, ?_, ?_, ?_⟩, ?_⟩
  · rw [htables₄, htables₃, htables₂, htables₁]
  · rw [hwritten, hgiven]
  · intro trace v hv
    rcases List.mem_append.mp hv with hv | hv
    · simp only [inside, List.mem_cons, List.not_mem_nil, or_false] at hv
      rcases hv with rfl | rfl | rfl <;> dsimp only <;> omega
    · exact hh₄.preludeVariables v hv
  · have hat : Run.readCell Heap.documentCell h₂ = .ok h₂.document h₂ := rfl
    have hread : Run.readCell h.cells.size h₃ = .ok (h₃.cell h.cells.size) h₃ := rfl
    exact (Run.bind_ok hdoc).trans ((Run.bind_ok hfn).trans ((Run.bind_ok hat).trans
      ((Run.bind_ok hprevious).trans ((Run.bind_ok hread).trans (Run.bind_ok hwrite)))))

/-- The function has the document that was at hand before, once it has taken it up again. -/
theorem steps_restore (hcall : ∀ more, Open more → (ofScope more).Agree call call)
    (hhosts : Hosts call (trace.push .host)) (hh : (ofScope []).Holds h)
    (hpcall : (h.table Heap.globals).getText "pcall" = .primitive .pcall) (args : List Datum) :
    ∃ doc fn previous ok result h', steps call trace args h =
      .ok (after (inside trace args doc fn previous) ok result) h' ∧
        h'.document = h.document := by
  obtain ⟨doc, fn, previous, h₁, hbound, hsteps⟩ := steps_bind hh call trace args
  have hpcall₁ : (h₁.table Heap.globals).getText "pcall" = .primitive .pcall := by
    rwa [Heap.table, hbound.tables]
  obtain ⟨ok, result, h', hprotect, hrestored⟩ := protect_restores
    (hcall _ hbound.open_previous) hhosts hbound.guarded hpcall₁ (hbound.visible trace)
  exact ⟨doc, fn, previous, ok, result, h', hsteps.trans hprotect, hrestored⟩

/-- At the end no more is done than the library does: the function that was called has raised
nothing, or what raises it again is the library's `error`. -/
def EndsPlainly (call : Dispatch) (trace : Trace) (args : List Datum) (h : Heap) : Prop :=
  match Call.enter call trace (.takingUp [.giveOne (ofName "ok")]) args h with
  | .ok (.inr [ok]) h' =>
    ok.isTrue = true ∨ (h'.table Heap.globals).getText "error" = .primitive .error
  | _ => False

section PassOn

variable {doc fn previous ok result : ℕ}

theorem enter_giveOk
    (hsteps : steps call trace args h =
      .ok (after (inside trace args doc fn previous) ok result) h') :
    Call.enter call trace (.takingUp [.giveOne (ofName "ok")]) args h =
      .ok (.inr [h'.cell ok]) h' := by
  have hok : (ofName "ok").evaluate call (after (inside trace args doc fn previous) ok result) h' =
      .ok [h'.cell ok] h' := evaluate_cell rfl rfl 0
  have hgive := giveBack_value hok (by simp [ofName]) (by simp [ofName])
  rw [enter_takingUp]
  exact (Run.bind_ok hsteps).trans (Run.bind_ok (execute_giveOne hgive trivial _ _))

theorem endsPlainly_iff
    (hsteps : steps call trace args h =
      .ok (after (inside trace args doc fn previous) ok result) h') :
    EndsPlainly call trace args h ↔
      (h'.cell ok).isTrue = true ∨
        (h'.table Heap.globals).getText "error" = .primitive .error := by
  delta EndsPlainly
  rw [enter_giveOk hsteps]

/-- What decides whether something is raised again. -/
theorem evaluate_notOk (call : Dispatch) (env : Env) (hcell : env.cell? "ok" = some ok) {b : Bool}
    (hok : (h.cell ok).isTrue = b) :
    (Expr.unary 0 .not (ofName "ok")).evaluate call env h = .ok [.boolean !b] h := by
  have hvalue : (ofName "ok").evaluate call env h = .ok [h.cell ok] h := evaluate_cell hcell rfl 0
  have hnot : env.operate call 0 (fun call => Operation.unary call .not (h.cell ok)) h =
      .ok (.boolean !b) h := Env.operate_ok _ 0 fun _ => hok ▸ rfl
  exact (Run.bind_ok hvalue).trans (Run.bind_ok hnot)

/-- Nothing is raised again: the result is given back. -/
theorem left_passOn_of_true (hok : (h.cell ok).isTrue = true) :
    Run.left (Block.execute call Closure.passOn
      (after (inside trace args doc fn previous) ok result) atBlockEnd) h = h := by
  have hcondition := evaluate_notOk call (after (inside trace args doc fn previous) ok result) rfl
    hok
  have hresult : (ofName "result").evaluate call
      (after (inside trace args doc fn previous) ok result) h = .ok [h.cell result] h :=
    evaluate_cell rfl rfl 0
  have hgive := giveBack_value hresult (by simp [ofName]) (by simp [ofName])
  rw [Run.left, Closure.passOn, execute_when_skips _ hcondition, execute_giveOne hgive trivial]

/-- What the function raised is raised again by the library. -/
theorem left_passOn_of_error (hh : (ofScope more).Holds h)
    (hhosts : Hosts call (trace.push .host)) (hok : (h.cell ok).isTrue = false)
    (herror : (h.table Heap.globals).getText "error" = .primitive .error) :
    Run.left (Block.execute call Closure.passOn
      (after (inside trace args doc fn previous) ok result) atBlockEnd) h = h := by
  have hcondition := evaluate_notOk call (after (inside trace args doc fn previous) ok result) rfl
    hok
  set env := after (inside trace args doc fn previous) ok result
  obtain ⟨fault, hraise⟩ := hhosts.error (h.cell result) h
  have hf : (ofName "error").evaluate call env h = .ok [.primitive .error] h :=
    evaluate_global_eq hh rfl rfl herror rfl
  have hargs : Expr.evaluateAll call [ofName "result", .int 0] env h =
      .ok [h.cell result, .int 0] h := by
    have hresult : (ofName "result").evaluate call env h = .ok [h.cell result] h :=
      evaluate_cell rfl rfl 0
    exact Run.bind_ok hresult
  obtain ⟨fault', hcall⟩ : ∃ fault',
      (callName "error" [ofName "result", .int 0]).evaluate call env h = .error fault' h := by
    obtain ⟨fault', happly⟩ := Run.placed_error (env.frame 0) hraise
    exact ⟨fault', (Run.bind_ok hf).trans ((Run.bind_ok hargs).trans happly)⟩
  have hbody : Block.execute call [.call (callName "error" [ofName "result", .int 0])] env
      atBlockEnd h = .error fault' h := by
    rw [Block.execute_cons_eq (by simp)]
    exact Run.bind_error (Run.bind_error hcall)
  have hwhen : (Stmt.when (.unary 0 .not (ofName "ok"))
      [.call (callName "error" [ofName "result", .int 0])]).execute call env h =
        .error fault' h := (Run.bind_ok hcondition).trans (Run.bind_error hbody)
  rw [Closure.passOn, Block.execute_cons_eq (by simp [Stmt.when]), Run.left_bind_error hwhen]

end PassOn

/-- The ways a body can end make no difference to the heap. -/
theorem left_enter_takingUp (rest : Block) {env : Env}
    (hsteps : steps call trace args h = .ok env h') :
    Run.left (Call.enter call trace (.takingUp rest) args) h =
      Run.left (Block.execute call rest env atBlockEnd) h' := by
  rw [enter_takingUp, Run.left_bind_ok hsteps]
  refine Run.left_bind_of_left (fun flow h => ?_) h'
  cases flow <;> rfl

/-- A call of `__with_document` that finds the library's `pcall` leaves the document at hand that
it found, if its end is the library's too, or the functions of scripts that it calls then leave
documents alone. -/
theorem document_left (hcall : ∀ more, Open more → (ofScope more).Agree call call)
    (hhosts : Hosts call (trace.push .host)) (hh : (ofScope []).Holds h)
    (hpcall : (h.table Heap.globals).getText "pcall" = .primitive .pcall)
    (hend : EndsPlainly call trace args h ∨
      (ofScope [(Heap.documentCell, some h.document)]).Agree call call) :
    (Run.left (Call.enter call trace .withDocument args) h).document = h.document := by
  have hbase : (ofScope []).Agree call call := hcall [] (fun _ hd => absurd hd List.not_mem_nil)
  obtain ⟨doc, fn, previous, ok, result, h', hsteps, hdocument⟩ :=
    steps_restore hcall hhosts hh hpcall args
  obtain ⟨hh', -, henv⟩ := Goes.ok (goes_steps (fun _ hd => absurd hd List.not_mem_nil) hbase
    hh.preludeVariables trace args) hh le_rfl hsteps
  rw [Closure.withDocument, left_enter_takingUp _ hsteps]
  rcases hend with hend | hend
  · rcases Bool.eq_false_or_eq_true (h'.cell ok).isTrue with hok | hok
    · rw [left_passOn_of_true hok, hdocument]
    · have herror := ((endsPlainly_iff hsteps).mp hend).resolve_left (by simp [hok])
      rw [left_passOn_of_error hh' hhosts hok herror, hdocument]
  · have hkeep := (Block.goes_execute hend Closure.passOn h'.cells.size _ _ _
      ((admits_of_lt henv).imp fun x _ => rfl) ends_atBlockEnd h' (hdocument ▸ hh'.keepDocument)
      le_rfl).2
    rw [Run.left]
    split
    · next heq =>
      rw [heq] at hkeep
      exact hkeep.1.document_eq
    · next heq =>
      rw [heq] at hkeep
      exact hkeep.1.document_eq

end TakingUp

end Docbase.Script
