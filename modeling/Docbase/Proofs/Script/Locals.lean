import Docbase.Proofs.Script.Construction
import Docbase.Proofs.Script.Content

/-!
Functions that work on their local variables and on tables. Their variables are the cells behind
those that were there when they were called, so the heap in which they run is told in full: the
tables, and what the variables hold.
-/
namespace Docbase.Script

namespace Heap

/-- A heap with more cells. -/
def withCells (h : Heap) (ds : List Datum) : Heap := { h with cells := h.cells ++ ds.toArray }

/-- A heap with a table changed. -/
def update (h : Heap) (place : ℕ) (f : Table → Table) : Heap :=
  { h with tables := h.tables.modify place f }

/-- A heap with one more table. -/
def push (h : Heap) (t : Table) : Heap := { h with tables := h.tables.push t }

variable {h : Heap} {ds : List Datum} {place p : ℕ} {f : Table → Table}

@[simp] theorem table_withCells (h : Heap) (ds : List Datum) (p : ℕ) :
    (h.withCells ds).table p = h.table p := rfl

@[simp] theorem withCells_nil (h : Heap) : h.withCells [] = h := by simp [withCells]

theorem table_update (hp : place < h.tables.size) (q : ℕ) :
    (h.update place f).table q = if q = place then f (h.table place) else h.table q := by
  simp only [update, table, Array.getD_eq_getD_getElem?, Array.getElem?_modify]
  by_cases hq : place = q
  · subst hq
    simp [hp]
  · simp [hq, Ne.symm hq]

@[simp] theorem size_update (h : Heap) (place : ℕ) (f : Table → Table) :
    (h.update place f).tables.size = h.tables.size := by
  simp [update]

@[simp] theorem cells_update (h : Heap) (place : ℕ) (f : Table → Table) :
    (h.update place f).cells = h.cells := rfl

@[simp] theorem closures_update (h : Heap) (place : ℕ) (f : Table → Table) :
    (h.update place f).closures = h.closures := rfl

theorem table_push (t : Table) (hp : p < h.tables.size) : (h.push t).table p = h.table p :=
  Run.table_push h t p hp

@[simp] theorem table_push_self (h : Heap) (t : Table) : (h.push t).table h.tables.size = t := by
  simp [push, table]

/-- Where no table is, an empty one is read. -/
theorem table_push_empty (h : Heap) (p : ℕ) : (h.push .empty).table p = h.table p := by
  rw [table, table, push, Array.getD_eq_getD_getElem?, Array.getD_eq_getD_getElem?,
    Array.getElem?_push]
  split_ifs with hp
  · rw [hp, Array.getElem?_eq_none le_rfl]
    rfl
  · rfl

@[simp] theorem size_push (h : Heap) (t : Table) :
    (h.push t).tables.size = h.tables.size + 1 := by
  simp [push]

@[simp] theorem cells_push (h : Heap) (t : Table) : (h.push t).cells = h.cells := rfl

@[simp] theorem closures_push (h : Heap) (t : Table) : (h.push t).closures = h.closures := rfl

theorem update_id (place : ℕ) (hf : ∀ t, f t = t) : h.update place f = h := by
  have htables : h.tables.modify place f = h.tables := by
    apply Array.ext (by simp)
    intro i _ _
    rw [Array.getElem_modify, hf, ite_self]
  exact congrArg (fun tables => { h with tables }) htables

theorem cell_withCells {c : ℕ} (hc : c < h.cells.size) (ds : List Datum) :
    (h.withCells ds).cell c = h.cell c := by
  simp [withCells, cell, Array.getElem?_append, hc]

end Heap

/-! Variables and tables. -/

namespace Run

variable {h : Heap} {ds : List Datum} {i : ℕ} {d : Datum}

theorem readCell_local (hd : ds[i]? = some d) :
    readCell (h.cells.size + i) (h.withCells ds) = .ok d (h.withCells ds) := by
  have hcell : (h.withCells ds).cells.getD (h.cells.size + i) .nil = d := by
    simp [Heap.withCells, Array.getElem?_append, hd]
  rw [readCell, hcell]

theorem readCell_old {c : ℕ} (hc : c < h.cells.size) :
    readCell c (h.withCells ds) = .ok (h.cell c) (h.withCells ds) :=
  congrArg (EStateM.Result.ok · _) (Heap.cell_withCells hc ds)

theorem writeCell_local (h : Heap) (ds : List Datum) (i : ℕ) (d : Datum) :
    writeCell (h.cells.size + i) d (h.withCells ds) = .ok () (h.withCells (ds.set i d)) := by
  have hcells : (h.cells ++ ds.toArray).setIfInBounds (h.cells.size + i) d =
      h.cells ++ (ds.set i d).toArray := by
    apply Array.ext'
    simp
  rw [writeCell]
  exact congrArg (fun cells => EStateM.Result.ok () { h with cells }) hcells

theorem newCell_local (h : Heap) (ds : List Datum) (d : Datum) :
    newCell d (h.withCells ds) =
      .ok (h.cells.size + ds.length) (h.withCells (ds ++ [d])) := by
  have hcells : (h.cells ++ ds.toArray).push d = h.cells ++ (ds ++ [d]).toArray := by
    apply Array.ext'
    simp
  have hsize : (h.withCells ds).cells.size = h.cells.size + ds.length := by
    simp [Heap.withCells]
  rw [newCell, hsize]
  exact congrArg (fun cells => EStateM.Result.ok _ { h with cells }) hcells

/-- A look at a key may move the place where the search for a border starts. -/
theorem rawGet_eq (place : ℕ) (key : Datum) (h : Heap) :
    rawGet place key h =
      .ok ((h.table place).get key) (h.update place fun t => t.touch key.normalizeKey) := by
  have hother (hkey : ∀ n, key.normalizeKey ≠ .int n) :
      (h.update place fun t => t.touch key.normalizeKey) = h := by
    refine Heap.update_id place fun t => ?_
    unfold Table.touch
    split
    · next i hi =>
      obtain ⟨n, hn, -⟩ := Table.slot?_eq_some hi
      exact absurd hn (hkey n)
    · rfl
  rw [rawGet]
  split
  · rfl
  · next hkey =>
    rw [hother fun n hn => hkey n hn]
    rfl

theorem rawSet_eq {key : Datum} (hkey : key.isKey = true) (place : ℕ) (value : Datum) (h : Heap) :
    rawSet place key value h = .ok () (h.update place fun t => t.set key value) := by
  have hnil : key.isNil = false := by cases key <;> simp_all [Datum.isKey, Datum.isNil]
  rw [rawSet, hnil, hkey]
  rfl

end Run

/-! Operations. -/

namespace Operation

variable {h : Heap} {p m : ℕ}

theorem metamethod_none (hp : (h.table p).metatable = none) (event : String) :
    metamethod (.table p) event h = .ok .nil h := by
  have hmeta : metatable? (.table p) h = .ok none h := congrArg (EStateM.Result.ok · h) hp
  exact Run.bind_ok hmeta

theorem metamethod_some (hp : (h.table p).metatable = some m) (event : String) :
    metamethod (.table p) event h = .ok ((h.table m).getText event) h := by
  have hmeta : metatable? (.table p) h = .ok (some m) h := congrArg (EStateM.Result.ok · h) hp
  exact Run.bind_ok hmeta

/-- Whether an event has no handler for a table. -/
def Unhandled (h : Heap) (p : ℕ) (event : String) : Prop :=
  ∀ m, (h.table p).metatable = some m → (h.table m).getText event = .nil

theorem metamethod_unhandled {event : String} (hu : Unhandled h p event) :
    metamethod (.table p) event h = .ok .nil h := by
  cases hm : (h.table p).metatable with
  | none => exact metamethod_none hm event
  | some m => rw [metamethod_some hm, hu m hm]

theorem setIndex_eq (call : Callee) {key : Datum} (hkey : key.isKey = true) (value : Datum)
    (hu : Unhandled h p "__newindex") :
    setIndex call (.table p) key value h = .ok () (h.update p fun t => t.set key value) :=
  (Run.bind_ok (metamethod_unhandled hu)).trans (Run.rawSet_eq hkey p value h)

/-- A look at a table that has what is looked for, or no handler for what it lacks. -/
theorem index_eq (call : Callee) (key : Datum)
    (hu : ((h.table p).get key).isNil = true →
      Unhandled (h.update p fun t => t.touch key.normalizeKey) p "__index") :
    index call (.table p) key h =
      .ok ((h.table p).get key) (h.update p fun t => t.touch key.normalizeKey) := by
  refine (Run.bind_ok (Run.rawGet_eq p key h)).trans ?_
  dsimp only
  cases hd : ((h.table p).get key).isNil with
  | false => rfl
  | true =>
    refine (Run.bind_ok (metamethod_unhandled (hu hd))).trans ?_
    rw [Datum.isNil_iff.mp hd]
    rfl

theorem length_eq (call : Callee) (hu : Unhandled h p "__len") :
    length call (.table p) h = .ok (.int (Int64.ofNat (h.table p).findBorder.1))
      (h.update p fun t => { t with edge := (h.table p).findBorder.2 }) :=
  Run.bind_ok (metamethod_unhandled hu)

theorem add_one (call : Callee) (n : ℕ) :
    binary call .add (.int (Int64.ofNat n)) (.int 1) h = .ok (.int (Int64.ofNat (n + 1))) h := by
  have hsum : Int64.ofInt ((Int64.ofNat n).toInt + (1 : Int64).toInt) = Int64.ofNat (n + 1) := by
    rw [Int64.ofInt_add, Int64.ofInt_toInt, Int64.ofInt_toInt, Int64.ofNat_add]
    rfl
  rw [← hsum]
  rfl

theorem equals_nil (call : Callee) (d : Datum) :
    binary call .eq d .nil h = .ok (.boolean d.isNil) h := by
  cases d <;> rfl

/-- Only NaN is not what it is. -/
theorem ne_self (call : Callee) {d : Datum} (hd : d.isNil = false) :
    binary call .ne d d h = .ok (.boolean !d.isKey) h := by
  have hequal : d.rawEqual d = d.isKey := by
    cases d with
    | double x =>
      change (x.compare? x == some .eq) = !x.isNaN
      rw [Binary64.compare?]
      cases x.isNaN <;> simp
    | nil => simp [Datum.isNil] at hd
    | _ => simp [Datum.rawEqual, Datum.isKey]
  have hequals : equals call d d h = .ok d.isKey h := by
    unfold equals
    rw [hequal]
    cases d with
    | double x => cases (Datum.double x).isKey <;> rfl
    | nil => simp [Datum.isNil] at hd
    | _ => rfl
  exact Run.bind_ok hequals

end Operation

/-! Expressions. -/

section Evaluate

variable {call : Dispatch} {env : Env} {h h₁ h₂ h₃ : Heap} {ds : List Datum} {i line : ℕ}
  {x : String} {d : Datum}

theorem evaluate_of_read (hread : env.read call line x h = .ok d h₁) :
    (Expr.name line x).evaluate call env h = .ok [d] h₁ := Run.bind_ok hread

theorem evaluate_local (call : Dispatch) (env : Env) (line : ℕ)
    (hx : env.own.lookup x = some (h.cells.size + i)) (hd : ds[i]? = some d) :
    (Expr.name line x).evaluate call env (h.withCells ds) = .ok [d] (h.withCells ds) := by
  refine evaluate_of_read ?_
  rw [Env.read, Env.cell?_of_own hx]
  exact Run.readCell_local hd

theorem evaluate_captured (call : Dispatch) (env : Env) (line : ℕ) {c : ℕ}
    (hx : env.own.lookup x = none) (hc : env.captured.lookup x = some c) (hlt : c < h.cells.size)
    (ds : List Datum) :
    (Expr.name line x).evaluate call env (h.withCells ds) = .ok [h.cell c] (h.withCells ds) := by
  refine evaluate_of_read ?_
  rw [Env.read, Env.cell?_of_captured hx, hc]
  exact Run.readCell_old hlt

/-- Names of no variable are fields of the globals. -/
structure Env.Global (env : Env) (h : Heap) : Prop where
  own : env.own.lookup Env.globalsName = none
  captured : env.captured.lookup Env.globalsName = some 0
  cell_lt : 0 < h.cells.size
  cell : h.cell 0 = .table 0

theorem evaluate_free (call : Dispatch) (line : ℕ) (hg : env.Global h) (hx : env.cell? x = none)
    (hd : (h.table 0).getText x = d) (hpresent : d.isNil = false) (ds : List Datum) :
    (Expr.name line x).evaluate call env (h.withCells ds) = .ok [d] (h.withCells ds) := by
  have hglobals : env.globals (h.withCells ds) = .ok (.table Heap.globals) (h.withCells ds) := by
    rw [Env.globals, Env.cell?_of_captured hg.own, hg.captured]
    exact (Run.readCell_old hg.cell_lt).trans (by rw [hg.cell]; rfl)
  refine evaluate_of_read ?_
  rw [Env.read, hx]
  exact (Run.bind_ok hglobals).trans
    (env.operate_ok line fun call => Operation.index_table call hd hpresent)

/-- An operand that is a variable waits for the other one. -/
theorem waitingCell?_name {op : BinaryOp} (hop : op ≠ .concat) (line : ℕ) (x : String) :
    env.waitingCell? op (.name line x) = env.own.lookup x := by
  rw [Env.waitingCell?, if_neg hop]
  rfl

theorem evaluate_binary_waiting {op : BinaryOp} {a b : Expr} {c : ℕ} {y z : Datum}
    (hwaiting : env.waitingCell? op a = some c) (hb : b.evaluate call env h = .ok [y] h₁)
    (hread : Run.readCell c h₁ = .ok d h₁)
    (hop : ∀ call, Operation.binary call op d y h₁ = .ok z h₂) :
    (Expr.binary line op a b).evaluate call env h = .ok [z] h₂ := by
  rw [Expr.evaluate.eq_def]
  dsimp only
  rw [hwaiting]
  exact (Run.bind_ok hb).trans ((Run.bind_ok hread).trans (Run.bind_ok (env.operate_ok line hop)))

/-- Whether a variable is nil. -/
theorem evaluate_isNil (call : Dispatch) (hx : env.own.lookup x = some (h.cells.size + i))
    (hd : ds[i]? = some d) :
    (Expr.isNil (.ofName x)).evaluate call env (h.withCells ds) =
      .ok [.boolean d.isNil] (h.withCells ds) :=
  evaluate_binary_waiting ((waitingCell?_name (by decide) 0 x).trans hx) rfl
    (Run.readCell_local hd) fun call => Operation.equals_nil call d

theorem evaluate_binary {op : BinaryOp} {a b : Expr} {y z : Datum}
    (hwaiting : env.waitingCell? op a = none) (ha : a.evaluate call env h = .ok [d] h₁)
    (hb : b.evaluate call env h₁ = .ok [y] h₂)
    (hop : ∀ call, Operation.binary call op d y h₂ = .ok z h₃) :
    (Expr.binary line op a b).evaluate call env h = .ok [z] h₃ := by
  rw [Expr.evaluate.eq_def]
  dsimp only
  rw [hwaiting]
  exact (Run.bind_ok ha).trans ((Run.bind_ok hb).trans (Run.bind_ok (env.operate_ok line hop)))

theorem evaluate_unary {op : UnaryOp} {a : Expr} {z : Datum}
    (ha : a.evaluate call env h = .ok [d] h₁)
    (hop : ∀ call, Operation.unary call op d h₁ = .ok z h₂) :
    (Expr.unary line op a).evaluate call env h = .ok [z] h₂ :=
  (Run.bind_ok ha).trans (Run.bind_ok (env.operate_ok line hop))

theorem evaluate_index {object key : Expr} {k z : Datum} (hobject : env.objectCell? object = none)
    (ho : object.evaluate call env h = .ok [d] h₁) (hk : key.evaluate call env h₁ = .ok [k] h₂)
    (hop : ∀ call, Operation.index call d k h₂ = .ok z h₃) :
    (Expr.index line object key).evaluate call env h = .ok [z] h₃ := by
  rw [Expr.evaluate.eq_def]
  dsimp only
  rw [hobject]
  exact (Run.bind_ok ho).trans ((Run.bind_ok hk).trans (Run.bind_ok (env.operate_ok line hop)))

/-- A table without items. -/
theorem evaluate_tableOf_nil (call : Dispatch) (env : Env) (h : Heap) :
    (Expr.tableOf []).evaluate call env h =
      .ok [.table h.tables.size] (h.push .empty) := by
  have hfill : Item.storeAll call h.tables.size 0 [] env #[] 0 (h.push .empty) =
      .ok () (h.push .empty) := by
    have hsame : (h.push .empty).update h.tables.size (fun t => t.fillFrom 0 []) =
        h.push .empty := Heap.update_id _ fun t => rfl
    exact congrArg (EStateM.Result.ok ()) hsame
  have hnew : Run.allocate (.forItems []) h = .ok h.tables.size (h.push .empty) := rfl
  exact (evaluate_table 0 [] h).trans ((Run.bind_ok hnew).trans (Run.bind_ok hfill))

end Evaluate

/-! Statements. -/

section Execute

variable {call : Dispatch} {env env' : Env} {h h₁ h₂ h₃ : Heap} {ds : List Datum} {i : ℕ}
  {x : String} {d : Datum} {e : Expr}

theorem execute_cons {s : Stmt} (hs : ∀ name, s ≠ .label name)
    (hrun : s.execute call env h = .ok (.next, env') h₁) (rest : Block)
    (atEnd : Env → Run Flow) :
    Block.execute call (s :: rest) env atEnd h = Block.execute call rest env' atEnd h₁ := by
  rw [Block.execute.eq_def]
  cases s with
  | label name => exact absurd rfl (hs name)
  | _ => exact Run.bind_ok hrun

/-- A new variable takes the first value. -/
theorem execute_bind {values : List Datum}
    (he : e.evaluate call env h = .ok values (h₁.withCells ds)) :
    (Stmt.bind x e).execute call env h =
      .ok (.next, { env with own := (x, h₁.cells.size + ds.length) :: env.own })
        (h₁.withCells (ds ++ [values.headD .nil])) := by
  have hbind : Run.bindAll [x] values env.own (h₁.withCells ds) =
      .ok ((x, h₁.cells.size + ds.length) :: env.own)
        (h₁.withCells (ds ++ [values.headD .nil])) :=
    Run.bind_ok (Run.newCell_local h₁ ds (values.headD .nil))
  have hdeclare : env.declare [x] values (h₁.withCells ds) =
      .ok { env with own := (x, h₁.cells.size + ds.length) :: env.own }
        (h₁.withCells (ds ++ [values.headD .nil])) := Run.bind_ok hbind
  exact (Run.bind_ok he).trans (Run.bind_ok hdeclare)

/-- A variable takes another value. -/
theorem execute_set (hx : env.own.lookup x = some (h₁.cells.size + i))
    (he : e.evaluate call env h = .ok [d] (h₁.withCells ds)) :
    (Stmt.set x e).execute call env h = .ok (.next, env) (h₁.withCells (ds.set i d)) := by
  have hplaces : Target.places call [.name x] env [] h =
      .ok [.cell (h₁.cells.size + i)] h := by
    rw [Target.places.eq_def]
    dsimp only
    rw [Env.cell?_of_own hx]
    rfl
  have hwrite : Place.writeAll call env 0 [(.cell (h₁.cells.size + i), d)] (h₁.withCells ds) =
      .ok () (h₁.withCells (ds.set i d)) := Run.bind_ok (Run.writeCell_local h₁ ds i d)
  exact (Run.bind_ok hplaces).trans ((Run.bind_ok he).trans (Run.bind_ok hwrite))

/-- What is no variable is stored among the globals. -/
theorem execute_setGlobal (hg : env.Global h₁) (hx : env.cell? x = none)
    (hshort : (Expr.string x).isShortText = true)
    (he : e.evaluate call env h = .ok [d] (h₁.withCells ds))
    (hset : ∀ call, Operation.setIndex call (.table 0) (.ofText x) d (h₁.withCells ds) =
      .ok () h₂) :
    (Stmt.set x e).execute call env h = .ok (.next, env) h₂ := by
  have hplace : env.globalPlace x h = .ok (.slot (.variable 0) (.value (.ofText x))) h := by
    rw [Env.globalPlace, hg.own, hg.captured]
    dsimp only
    rw [show (Expr.text (Utf8.encode x)).isShortText = true from hshort]
    rfl
  have hplaces : Target.places call [.name x] env [] h =
      .ok [.slot (.variable 0) (.value (.ofText x))] h := by
    rw [Target.places.eq_def]
    dsimp only
    rw [hx]
    exact Run.bind_ok hplace
  have hread : (Operand.variable 0).read (h₁.withCells ds) = .ok (.table 0) (h₁.withCells ds) :=
    (Run.readCell_old hg.cell_lt).trans (by rw [hg.cell])
  have hstore : Place.write call env 0 d (.slot (.variable 0) (.value (.ofText x)))
      (h₁.withCells ds) = .ok () h₂ :=
    (Run.bind_ok hread).trans (env.operate_ok 0 hset)
  have hwrite : Place.writeAll call env 0 [(.slot (.variable 0) (.value (.ofText x)), d)]
      (h₁.withCells ds) = .ok () h₂ := Run.bind_ok hstore
  exact (Run.bind_ok hplaces).trans ((Run.bind_ok he).trans (Run.bind_ok hwrite))

/-- A place in a table that a variable holds. -/
theorem places_local {key : Expr} {k : Datum} {c : ℕ} (line : ℕ)
    (hx : env.own.lookup x = some c) (hkey : env.ownCell? key = none)
    (hk : key.evaluate call env h = .ok [k] h₁) :
    Target.places call [.index (.name line x) key] env [] h =
      .ok [.slot (.variable c) (.value k)] h₁ := by
  have hown : env.ownCell? (.name line x) = some c := hx
  rw [Target.places.eq_def]
  dsimp only
  rw [hkey, hown]
  dsimp only
  have hoperand : (do return Operand.value (Operation.first (← key.evaluate call env)) :
      Run Operand) h = .ok (.value k) h₁ := Run.bind_ok hk
  exact Run.bind_ok hoperand

/-- A place that a variable names in a table of the globals. -/
theorem places_global {o : Datum} {c : ℕ} {y : String} (line : ℕ) (hx : env.cell? x = none)
    (ho : (Expr.name line x).evaluate call env h = .ok [o] h)
    (hy : env.own.lookup y = some c) :
    Target.places call [.index (.name line x) (.name line y)] env [] h =
      .ok [.slot (.value o) (.variable c)] h := by
  obtain ⟨hown, hcaptured⟩ := cells_of_free line hx
  have hkey : env.ownCell? (.name line y) = some c := hy
  rw [Target.places.eq_def]
  dsimp only
  rw [hown, hcaptured, hkey]
  exact Run.bind_ok ho

/-- A value is stored in a table, which is found before the value. -/
theorem execute_setIndex {object key : Expr} {o k : Operand} {od kd : Datum}
    (hplaces : Target.places call [.index object key] env [] h = .ok [.slot o k] h₁)
    (he : e.evaluate call env h₁ = .ok [d] h₂) (ho : o.read h₂ = .ok od h₂)
    (hk : k.read h₂ = .ok kd h₂)
    (hset : ∀ call, Operation.setIndex call od kd d h₂ = .ok () h₃) :
    (Stmt.setIndex object key e).execute call env h = .ok (.next, env) h₃ := by
  have hstore : Place.write call env 0 d (.slot o k) h₂ = .ok () h₃ :=
    (Run.bind_ok ho).trans ((Run.bind_ok hk).trans (env.operate_ok 0 hset))
  have hwrite : Place.writeAll call env 0 [(.slot o k, d)] h₂ = .ok () h₃ := Run.bind_ok hstore
  exact (Run.bind_ok hplaces).trans ((Run.bind_ok he).trans (Run.bind_ok hwrite))

theorem execute_when_false {condition : Expr} (body : Block)
    (hc : condition.evaluate call env h = .ok [.boolean false] h₁) :
    (Stmt.when condition body).execute call env h = .ok (.next, env) h₁ := Run.bind_ok hc

theorem execute_when_true {condition : Expr} {body : Block}
    (hc : condition.evaluate call env h = .ok [.boolean true] h₁)
    (hbody : Block.execute call body env atBlockEnd h₁ = .ok .next h₂) :
    (Stmt.when condition body).execute call env h = .ok (.next, env) h₂ :=
  (Run.bind_ok hc).trans (Run.bind_ok hbody)

end Execute

/-- A call of a function that gives nothing back. -/
theorem within_closure {trace : Trace} (htrace : trace.hosted < Trace.hostedLimit) (depth : ℕ)
    {place : ℕ} {c : Closure} {args : List Datum} {own : List (String × ℕ)} {h h₁ h₂ : Heap}
    (hc : h.closure place = c) (hfixed : c.variadic = false)
    (hbind : Run.bindAll c.params args [] h = .ok own h₁)
    (hbody : Block.execute (Call.within depth) c.body
      ⟨own, c.captured, [], c.unit, trace, true⟩ atBlockEnd h₁ = .ok .next h₂) :
    Call.within (depth + 1) trace (.closure place) args h = .ok [] h₂ := by
  obtain ⟨turns, hturns⟩ := within_eq htrace depth (.closure place) args (h := h)
  have hread : Run.readClosure place h = .ok c h := congrArg (EStateM.Result.ok · h) hc
  have hdeclare : Env.declare ⟨[], c.captured, [], c.unit, trace, true⟩ c.params args h =
      .ok ⟨own, c.captured, [], c.unit, trace, true⟩ h₁ := Run.bind_ok hbind
  have henter : Call.enter (Call.within depth) trace c args h = .ok (.inr []) h₂ := by
    rw [Call.enter, hfixed]
    exact (Run.bind_ok hdeclare).trans (Run.bind_ok hbody)
  have hstep : Call.step (Call.within depth) trace ⟨none, .closure place, args⟩ h =
      .ok (.inr []) h₂ := (Run.bind_ok hread).trans henter
  rw [hturns]
  exact Run.iterate_result hstep _

end Docbase.Script
