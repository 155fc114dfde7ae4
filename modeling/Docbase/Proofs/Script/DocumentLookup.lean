import Docbase.Proofs.Script.Coercion
import Docbase.Proofs.Script.WithDocument

/-!
Names of bound functions. The function that they are looked up by gives the document at hand for
`this`, for any other name the document's field of that name, and a global if it has none.
-/
namespace Docbase.Script

open Docbase.Script.Expr (ofName callName)
open Guard

namespace Heap

/-- The field that the document at hand has under a name; nil if it has none. -/
def documentField (h : Heap) (x : String) : Datum :=
  match h.document with
  | .table place => (h.table place).getText x
  | _ => .nil

/-- What a name of a bound function stands for, as far as that is told without a call of a
function that the library does not have under its name. -/
inductive Binds (h : Heap) : String → Datum → Prop
  | this : Binds h "this" h.document
  | field {x : String} {d : Datum} (hx : x ≠ "this") (hfield : h.documentField x = d)
    (hpresent : d.isNil = false)
    (htype : (h.table globals).getText "type" = .primitive .type)
    (hrawget : (h.table globals).getText "rawget" = .primitive .rawget) : Binds h x d
  | global {x : String} {place : ℕ} {d : Datum} (hx : x ≠ "this") (hnone : h.documentField x = .nil)
    (htype : (h.table globals).getText "type" = .primitive .type)
    (hrawget : (h.table globals).getText "rawget" = .primitive .rawget)
    (hglobals : (h.table globals).getText "_G" = .table place)
    (hglobal : h.field? x place = some d) : Binds h x d

end Heap

theorem Datum.typeName_eq_table (d : Datum) :
    decide (d.typeName = "table") = true ↔ ∃ place, d = .table place := by
  cases d <;> simp [typeName]

namespace Lookup

variable {h : Heap} {x : String} {d self : Datum} {trace : Trace} {place : ℕ}

/-- What the function sees. -/
def env (trace : Trace) (own : List (String × ℕ)) : Env :=
  ⟨own, Closure.preludeVariables, [], none, trace, true⟩

/-- Its variables, the last one first. -/
def own₂ (n : ℕ) : List (String × ℕ) := [("name", n + 1), ("_", n + 0)]
def own₃ (n : ℕ) : List (String × ℕ) := ("field", n + 2) :: own₂ n

theorem global_of_holds (hh : (ofScope []).Holds h) {own : List (String × ℕ)}
    (hown : own.lookup Env.globalsName = none) : (env trace own).Global h :=
  ⟨hown, rfl, hh.globals.1, hh.globals.2⟩

theorem evaluate_current (hh : (ofScope []).Holds h) (call : Dispatch) (trace : Trace)
    (own : List (String × ℕ)) (hown : own.lookup "current" = none) (ds : List Datum) :
    (ofName "current").evaluate call (env trace own) (h.withCells ds) =
      .ok [h.document] (h.withCells ds) :=
  evaluate_captured call (env trace own) 0 hown rfl (hh.cell _ (mem_document [])).1 ds

theorem evaluate_isThis (call : Dispatch) (trace : Trace) (h : Heap) (self : Datum) (x : String) :
    (Expr.eq (ofName "name") (.string "this")).evaluate call (env trace (own₂ h.cells.size))
      (h.withCells [self, .ofText x]) =
        .ok [.boolean (decide (x = "this"))] (h.withCells [self, .ofText x]) := by
  have hname : (env trace (own₂ h.cells.size)).own.lookup "name" = some (h.cells.size + 1) := rfl
  have hread : Run.readCell (h.cells.size + 1) (h.withCells [self, .ofText x]) =
      .ok (.ofText x) (h.withCells [self, .ofText x]) := Run.readCell_local rfl
  have hsame : decide (Datum.ofText x = .ofText "this") = decide (x = "this") := by
    simp [Table.ofText_inj]
  rw [← hsame]
  exact evaluate_binary_waiting ((waitingCell?_name (by decide) 0 "name").trans hname) rfl hread
    fun call => Run.bind_ok (Operation.equals_ofText call _ _ _)

/-- A call of the library's, by a global that has it. -/
theorem evaluate_library (hh : (ofScope []).Holds h) (hhosted : trace.hosted < Trace.hostedLimit)
    (depth : ℕ) {own : List (String × ℕ)} (hown : own.lookup Env.globalsName = none) {f : String}
    {q : Primitive} (hf : (env trace own).cell? f = none)
    (hq : (h.table Heap.globals).getText f = .primitive q) {args : List Expr}
    {gs out ds : List Datum}
    (hargs : Expr.evaluateAll (Call.within (depth + 1)) args (env trace own) (h.withCells ds) =
      .ok gs (h.withCells ds))
    (hout : ∀ call trace, q.apply call trace gs (h.withCells ds) = .ok out (h.withCells ds)) :
    (callName f args).evaluate (Call.within (depth + 1)) (env trace own) (h.withCells ds) =
      .ok out (h.withCells ds) :=
  evaluate_call (evaluate_free _ 0 (global_of_holds hh hown) hf hq rfl ds) hargs
    (within_primitive (show ((env trace own).trace 0).hosted < _ from hhosted) depth gs hout)

section Field

variable (hh : (ofScope []).Holds h) (hhosted : trace.hosted < Trace.hostedLimit) (depth : ℕ)
include hh hhosted

theorem evaluate_isTable (htype : (h.table Heap.globals).getText "type" = .primitive .type)
    (ds : List Datum) :
    (Expr.eq (callName "type" [ofName "current"]) (.string "table")).evaluate
      (Call.within (depth + 1)) (env trace (own₂ h.cells.size)) (h.withCells ds) =
        .ok [.boolean (decide (h.document.typeName = "table"))] (h.withCells ds) := by
  have hcurrent := evaluate_current hh (Call.within (depth + 1)) trace (own₂ h.cells.size) rfl ds
  have hname : (callName "type" [ofName "current"]).evaluate (Call.within (depth + 1))
      (env trace (own₂ h.cells.size)) (h.withCells ds) =
        .ok [.ofText h.document.typeName] (h.withCells ds) :=
    evaluate_library hh hhosted depth rfl rfl htype hcurrent fun _ _ => rfl
  have hsame : decide (Datum.ofText h.document.typeName = .ofText "table") =
      decide (h.document.typeName = "table") := by
    simp [Table.ofText_inj]
  rw [← hsame]
  exact evaluate_binary rfl hname rfl fun call => Run.bind_ok (Operation.equals_ofText call _ _ _)

theorem evaluate_rawget (hdocument : h.document = .table place)
    (hrawget : (h.table Heap.globals).getText "rawget" = .primitive .rawget)
    (self : Datum) (x : String) :
    (callName "rawget" [ofName "current", ofName "name"]).evaluate (Call.within (depth + 1))
      (env trace (own₂ h.cells.size)) (h.withCells [self, .ofText x]) =
        .ok [h.documentField x] (h.withCells [self, .ofText x]) := by
  have hcurrent := evaluate_current hh (Call.within (depth + 1)) trace (own₂ h.cells.size) rfl
    [self, .ofText x]
  have hname : (ofName "name").evaluate (Call.within (depth + 1))
      (env trace (own₂ h.cells.size)) (h.withCells [self, .ofText x]) =
        .ok [.ofText x] (h.withCells [self, .ofText x]) := evaluate_local _ _ 0 (i := 1) rfl rfl
  rw [Heap.documentField]
  rw [hdocument] at hcurrent ⊢
  exact evaluate_library hh hhosted depth rfl rfl hrawget
    ((Run.bind_ok hcurrent).trans (Run.bind_ok hname)) fun _ _ => rfl

end Field

theorem evaluate_isField (call : Dispatch) (trace : Trace) (h : Heap) (self : Datum) (x : String)
    (d : Datum) : (Expr.ne (ofName "field") .nil).evaluate call (env trace (own₃ h.cells.size))
      (h.withCells [self, .ofText x, d]) =
        .ok [.boolean !d.isNil] (h.withCells [self, .ofText x, d]) := by
  have hfield : (env trace (own₃ h.cells.size)).own.lookup "field" = some (h.cells.size + 2) := rfl
  refine evaluate_binary_waiting ((waitingCell?_name (by decide) 0 "field").trans hfield) rfl
    (Run.readCell_local rfl) fun call => ?_
  cases d <;> rfl

/-- The field is given back if it is there. -/
theorem execute_field (call : Dispatch) (trace : Trace) (h : Heap) (self : Datum) (x : String)
    (hpresent : d.isNil = false) :
    Block.execute call [.when (.ne (ofName "field") .nil) [.giveOne (ofName "field")]]
      (env trace (own₃ h.cells.size)) atBlockEnd (h.withCells [self, .ofText x, d]) =
        .ok (.returned [d]) (h.withCells [self, .ofText x, d]) := by
  have hcondition := evaluate_isField call trace h self x d
  rw [hpresent] at hcondition
  have hvalue : (ofName "field").evaluate call (env trace (own₃ h.cells.size))
      (h.withCells [self, .ofText x, d]) = .ok [d] (h.withCells [self, .ofText x, d]) :=
    evaluate_local _ _ 0 (i := 2) rfl rfl
  have hgive := giveBack_value hvalue (by simp [ofName]) (by simp [ofName])
  exact execute_when_ends hcondition hgive trivial _ _

/-- Without a field the global is given back. -/
theorem execute_global (hh : (ofScope []).Holds h) (call : Dispatch) (trace : Trace)
    (hglobals : (h.table Heap.globals).getText "_G" = .table place)
    (hglobal : h.field? x place = some d) {ds : List Datum} (hds : ds[1]? = some (.ofText x)) :
    Block.execute call [.giveOne ((ofName "_G").item (ofName "name"))]
      (env trace (own₂ h.cells.size)) atBlockEnd (h.withCells ds) =
        .ok (.returned [d]) (h.withCells ds) := by
  have hobject : (ofName "_G").evaluate call (env trace (own₂ h.cells.size)) (h.withCells ds) =
      .ok [.table place] (h.withCells ds) :=
    evaluate_free _ 0 (global_of_holds hh rfl) rfl hglobals rfl ds
  have hname : (ofName "name").evaluate call (env trace (own₂ h.cells.size)) (h.withCells ds) =
      .ok [.ofText x] (h.withCells ds) := evaluate_local _ _ 0 (i := 1) rfl hds
  have hitem : ((ofName "_G").item (ofName "name")).evaluate call
      (env trace (own₂ h.cells.size)) (h.withCells ds) = .ok [d] (h.withCells ds) :=
    evaluate_index rfl hobject hname fun call =>
      Operation.index_field call (((h.asked_withCells ds).field? x place).trans hglobal)
  have hgive := giveBack_value hitem (by simp [Expr.item]) (by simp [Expr.item])
  exact execute_giveOne hgive trivial _ _

/-- Whether the body of the function comes to something for a name. -/
def Finds (h : Heap) (trace : Trace) (depth : ℕ) (self : Datum) (x : String) (d : Datum) : Prop :=
  ∃ h', Block.execute (Call.within (depth + 1)) Closure.lookup.body (env trace (own₂ h.cells.size))
    atBlockEnd (h.withCells [self, .ofText x]) = .ok (.returned [d]) h'

theorem finds_document (hh : (ofScope []).Holds h) (trace : Trace) (depth : ℕ) (self : Datum) :
    Finds h trace depth self "this" h.document := by
  have hisThis := evaluate_isThis (Call.within (depth + 1)) trace h self "this"
  have hcurrent := evaluate_current hh (Call.within (depth + 1)) trace (own₂ h.cells.size) rfl
    [self, .ofText "this"]
  have hgive := giveBack_value hcurrent (by simp [ofName]) (by simp [ofName])
  exact ⟨_, execute_when_ends hisThis hgive trivial _ _⟩

section Other

variable (hh : (ofScope []).Holds h) (hhosted : trace.hosted < Trace.hostedLimit) (depth : ℕ)
  (self : Datum) (hx : x ≠ "this")
  (htype : (h.table Heap.globals).getText "type" = .primitive .type)
  (hrawget : (h.table Heap.globals).getText "rawget" = .primitive .rawget)
include hh hhosted hx htype hrawget

theorem finds_field (hfield : h.documentField x = d) (hpresent : d.isNil = false) :
    Finds h trace depth self x d := by
  have hisThis := evaluate_isThis (Call.within (depth + 1)) trace h self x
  rw [decide_eq_false hx] at hisThis
  obtain ⟨place, hdocument⟩ : ∃ place, h.document = .table place := by
    rw [Heap.documentField] at hfield
    cases hdocument : h.document with
    | table place => exact ⟨place, rfl⟩
    | _ =>
      rw [hdocument] at hfield
      exact absurd (hfield ▸ hpresent) (by simp [Datum.isNil])
  have hisTable := evaluate_isTable hh hhosted depth htype [self, .ofText x]
  rw [h.document.typeName_eq_table.mpr ⟨place, hdocument⟩] at hisTable
  have hbound := evaluate_rawget hh hhosted depth hdocument hrawget self x
  rw [hfield] at hbound
  have hfound := (execute_cons (by simp [Stmt.bind]) (execute_bind hbound) _ _).trans
    (execute_field (Call.within (depth + 1)) trace h self x hpresent)
  exact ⟨_, (execute_when_skips _ hisThis _ _).trans (execute_cons_ends (by simp [Stmt.when])
    (execute_branch_true _ hisTable hfound) trivial _ _)⟩

theorem finds_global (hnone : h.documentField x = .nil)
    (hglobals : (h.table Heap.globals).getText "_G" = .table place)
    (hglobal : h.field? x place = some d) : Finds h trace depth self x d := by
  have hisThis := evaluate_isThis (Call.within (depth + 1)) trace h self x
  rw [decide_eq_false hx] at hisThis
  have hisTable := evaluate_isTable hh hhosted depth htype [self, .ofText x]
  have hrest {ds : List Datum} (hds : ds[1]? = some (.ofText x)) :=
    execute_global hh (Call.within (depth + 1)) trace hglobals hglobal hds
  by_cases htable : ∃ place, h.document = .table place
  · -- the document has no such field
    rw [h.document.typeName_eq_table.mpr htable] at hisTable
    obtain ⟨place, hdocument⟩ := htable
    have hbound := evaluate_rawget hh hhosted depth hdocument hrawget self x
    rw [hnone] at hbound
    have habsent := (execute_cons (by simp [Stmt.bind]) (execute_bind hbound) _ _).trans
      (execute_when_skips [.giveOne (ofName "field")] (evaluate_isField _ trace h self x .nil) []
        atBlockEnd)
    exact ⟨_, (execute_when_skips _ hisThis _ _).trans
      ((execute_cons (by simp [Stmt.when]) (execute_branch_true [] hisTable habsent) _ _).trans
        (hrest rfl))⟩
  · have hskip : decide (h.document.typeName = "table") = false := by
      rw [← Bool.not_eq_true, h.document.typeName_eq_table]
      exact htable
    rw [hskip] at hisTable
    exact ⟨_, (execute_when_skips _ hisThis _ _).trans
      ((execute_when_skips _ hisTable _ _).trans (hrest rfl))⟩

end Other

end Lookup

open Lookup in
/-- Each name that stands for something is looked up as that. -/
theorem step_lookup {h : Heap} (hh : (ofScope []).Holds h) {trace : Trace}
    (hhosted : trace.hosted < Trace.hostedLimit) {x : String} {d : Datum} (hb : h.Binds x d)
    (depth : ℕ) (caller : Option Frame) (self : Datum) :
    ∃ h', Call.step (Call.within (depth + 1)) trace
      ⟨caller, .closure Heap.lookupPlace, [self, .ofText x]⟩ h = .ok (.inr [d]) h' := by
  have hbind := bindAll_two "_" "name" self (.ofText x) [] h
  have hfinds : Finds h trace depth self x d := by
    cases hb with
    | this => exact finds_document hh trace depth self
    | field hx hfield hpresent htype hrawget =>
      exact finds_field hh hhosted depth self hx htype hrawget hfield hpresent
    | global hx hnone htype hrawget hglobals hglobal =>
      exact finds_global hh hhosted depth self hx htype hrawget hnone hglobals hglobal
  obtain ⟨h', hbody⟩ := hfinds
  exact ⟨h', step_body caller hh.lookup rfl rfl hbind hbody⟩

end Docbase.Script
