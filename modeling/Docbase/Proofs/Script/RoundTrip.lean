import Docbase.Proofs.Script.LiteralMeaning

/-!
Values go in and out of a scope. The unit that stores a value in a global puts a datum there
that means the value; it stays there while other globals are stored, so all globals give their
values back.
-/
namespace Docbase

namespace Script

open Docbase.Script.Table (record)

/-! Storing in the table of the globals. -/

/-- All that the table of the globals holds has a name. -/
def Heap.GlobalsNamed (h : Heap) : Prop :=
  ∃ (fields : List (String × Datum)) (room : ℕ), h.table Heap.globals = record fields room none ∧
    ∀ f ∈ fields, f.2.isNil = false

variable {h h' : Heap}

theorem Heap.HoldsPrelude.globalsNamed (hp : h.HoldsPrelude) : h.GlobalsNamed := by
  obtain ⟨fields, htable, hfields⟩ := Table.eq_record_of_isRecord hp.globals
  rw [hp.metatable (0, none) (by decide)] at htable
  exact ⟨fields, _, htable, hfields⟩

theorem Heap.GlobalsNamed.keeps (hn : h.GlobalsNamed) (hr : h.Ready) (hk : h.Keeps h') :
    h'.GlobalsNamed := by
  obtain ⟨fields, room, htable, hfields⟩ := hn
  exact ⟨fields, room, (hk.table 0 (Nat.lt_of_lt_of_le (by decide) hr.tables_le) id).trans htable,
    hfields⟩

/-- A datum that is stored under a name of no use to literals. -/
theorem setIndex_globals (hr : h.Ready) (hn : h.GlobalsNamed) (x : String)
    (hx : x ∉ Literal.globals.map Prod.fst) {d : Datum} (hd : d.isNil = false) :
    ∃ h', (∀ call, Operation.setIndex call (.table Heap.globals) (.ofText x) d h = .ok () h') ∧
      h.Grows (· = 0) h' ∧ h'.tables.size = h.tables.size ∧ h'.Ready ∧ h'.GlobalsNamed ∧
      (h'.table 0).getText x = d ∧
      ∀ y, y ≠ x → (h'.table 0).getText y = (h.table 0).getText y := by
  obtain ⟨fields, room, htable, hfields⟩ := hn
  obtain ⟨fields', room', hset, hfields', hlookup, hothers⟩ := Table.set_record_spec
    room none hfields x d hd
  have hzero : 0 < h.tables.size := Nat.lt_of_lt_of_le (by decide) hr.tables_le
  obtain ⟨h', hrun, hgrows, hsize, htable'⟩ := Run.modifyTable_grows 0
    (fun t => t.set (.ofText x) d) h hzero
  have hnew : h'.table 0 = record fields' room' none := by
    rw [htable', ← hset]
    exact congrArg (Table.set · (.ofText x) d) htable
  have hget (y : String) (hy : y ≠ x) : (h'.table 0).getText y = (h.table 0).getText y := by
    rw [hnew, show h.table 0 = _ from htable, Table.getText_record, Table.getText_record,
      hothers y hy]
  refine ⟨h', fun call => ?_, hgrows, hsize,
    ⟨hr.grows.trans hgrows, fun g hg => ?_, by rw [hnew]; rfl⟩,
    ⟨fields', room', hnew, hfields'⟩, by rw [hnew, Table.getText_of_lookup hlookup], hget⟩
  · have hmeta : Operation.metatable? (.table 0) h = .ok none h :=
      congrArg (EStateM.Result.ok · h) hr.metatable
    have hhandler : Operation.metamethod (.table 0) "__newindex" h = .ok .nil h :=
      Run.bind_ok hmeta
    exact (Run.bind_ok hhandler).trans hrun
  · rw [hget g.1 fun heq => hx (heq ▸ List.mem_map_of_mem hg)]
    exact hr.global g hg

/-! The unit that stores a value. -/

theorem execute_assignment {call : Dispatch} {env : Env} {h₁ h₂ : Heap} {x : String} {v : Value}
    {d : Datum} (hs : env.Sees Literal.sight h)
    (heval : (Literal.expr v).evaluate call env h = .ok [d] h₁)
    (hset : ∀ call, Operation.setIndex call (.table Heap.globals) (.ofText x) d h₁ = .ok () h₂) :
    Block.execute call [Literal.assignment x v] env atBlockEnd h = .ok .next h₂ := by
  have hobject := evaluate_global call hs 1 (x := "_G") (d := .table 0) (by decide)
    (by decide)
  have hplaces : Target.places call [.index (.name 1 "_G") (Literal.textExpr x)] env [] h =
      .ok [.slot (.value (.table 0)) (.value (.ofText x))] h := by
    obtain ⟨hown, hcaptured⟩ := cells_of_free 1 (hs.free "_G" (by decide))
    rw [Target.places.eq_def]
    dsimp only
    rw [hown, hcaptured]
    exact Run.bind_ok hobject
  have hwrite : Place.writeAll call env 1
      [(.slot (.value (.table 0)) (.value (.ofText x)), d)] h₁ = .ok () h₂ :=
    Run.bind_ok (Run.placed_ok _ (hset _))
  have hexecute : Stmt.execute call (Literal.assignment x v) env h = .ok (.next, env) h₂ :=
    (Run.bind_ok hplaces).trans ((Run.bind_ok heval).trans (Run.bind_ok hwrite))
  rw [Block.execute.eq_def]
  exact Run.bind_ok hexecute

/-- What a script sees: no variable but the one that holds the globals. -/
def Env.ofScript (unit : Option Bytes) (c : ℕ) : Env :=
  ⟨[], [(globalsName, c)], [], unit, .start, true⟩

/-- A unit that does not assign to the variable of the globals shares it. -/
theorem mainFunction_shared (unit : Option String) {body : Block}
    (hbody : Block.assigns Env.globalsName body = false) (h : Heap) :
    Run.mainFunction unit body (.table Heap.globals) h =
      .ok ⟨unit.map unitLabel, [], true, body, [(Env.globalsName, Heap.globalsCell)]⟩ h := by
  have hcell : Run.globalsCell body (.table Heap.globals) h = .ok Heap.globalsCell h := by
    rw [Run.globalsCell, hbody]
    rfl
  exact Run.bind_ok hcell

/-- A unit whose statements end with the last one. -/
theorem script_ok {unit : Option String} {body : Block} {h h' : Heap}
    (hbody : Block.assigns Env.globalsName body = false)
    (hrun : Block.execute (Call.within 189999) body
      (.ofScript (unit.map unitLabel) Heap.globalsCell) atBlockEnd h = .ok .next h') :
    Run.script unit body (.table Heap.globals) h = .ok [] h' := by
  have henter : Call.enter (Call.within 189999) .start
      ⟨unit.map unitLabel, [], true, body, [(Env.globalsName, Heap.globalsCell)]⟩ [] h =
      .ok (.inr []) h' := Run.bind_ok hrun
  exact (Run.bind_ok (mainFunction_shared unit hbody h)).trans (Run.bind_ok henter)

/-- The unit stores a datum that means the value, and nothing else under names. -/
theorem script_assignment (hr : h.Ready) (hn : h.GlobalsNamed) (unit : Option String) (x : String)
    (hx : x ∉ Literal.globals.map Prod.fst) {v : Value} (hv : v.WellFormed) :
    ∃ h' d, Run.script unit [Literal.assignment x v] (.table Heap.globals) h = .ok [] h' ∧
      h'.Ready ∧ h'.GlobalsNamed ∧ h.Grows (· = 0) h' ∧ (h'.table 0).getText x = d ∧
      Means h' h.tables.size h'.tables.size d v ∧
      ∀ y, y ≠ x → (h'.table 0).getText y = (h.table 0).getText y := by
  have hstart : Trace.start.hosted < Trace.hostedLimit := by decide
  have hs : Env.Sees (Env.ofScript (unit.map unitLabel) Heap.globalsCell) Literal.sight h := by
    refine ⟨hr, fun y e hy => ?_, List.mem_cons_self, ?_⟩
    · obtain ⟨rfl, rfl⟩ := Prod.mk.inj (List.mem_singleton.mp hy)
      exact ⟨Heap.globalsCell, rfl, hr.cell (c := (0, .table 0)) (by decide)⟩
    · intro y hy
      have hname : ∀ y ∈ Literal.globals.map Prod.fst, (y == Env.globalsName) = false := by decide
      rw [Env.cell?_of_captured rfl, Env.ofScript, List.lookup_cons, hname y hy]
      rfl
  obtain ⟨d, h₂, heval, hkeeps, hd⟩ := gives_literal 189997
    (.ofScript (unit.map unitLabel) Heap.globalsCell) hstart hv h hs
  have hapart : h.GrowsApart h₂ := Heap.Keeps.grows hkeeps
  obtain ⟨h', hset, hgrows, hsize, hr', hn', hvalue, hothers⟩ := setIndex_globals
    (hr.growsApart hapart) (hn.keeps hr hkeeps) x hx hd.present
  refine ⟨h', d, script_ok (assigns_assignment x v) (execute_assignment hs heval hset), hr', hn',
    (Heap.Keeps.grows hkeeps).trans hgrows, hvalue, ?_, fun y hy => ?_⟩
  · have hsame : h₂.Agrees h.tables.size h₂.tables.size h' :=
      hgrows.agrees (hr.growsApart hapart).tables_le le_rfl fun p hp =>
        ⟨.inl hp, .inl (hp ▸ Nat.lt_of_lt_of_le (by decide) hr.tables_le)⟩
    exact hd.mono le_rfl hsize.ge hsame
  · rw [hothers y hy, hkeeps.table 0 (Nat.lt_of_lt_of_le (by decide) hr.tables_le) id]

/-- The limits of the parser on the unit that stores a value: how deep its source nests, and
how many slots a frame has. -/
structure Literal.WithinLimits (x : String) (v : Value) : Prop where
  levels : (expr v).levels + 2 < Parser.depthLimit
  slots : Slots.fits [assignment x v] = true

end Script

open Script

namespace Scope

/-- Globals whose data mean the values that were stored in them. -/
structure Holds (s : Scope) (entries : List (String × Value)) : Prop where
  ready : s.heap.Ready
  named : s.heap.GlobalsNamed
  means : ∀ e ∈ entries, ∃ low high, 0 < low ∧ high ≤ s.heap.tables.size ∧
    Means s.heap low high ((s.heap.table 0).getText e.1) e.2

theorem holds_nil {h : Heap} (hr : h.Ready) (hn : h.GlobalsNamed) : Holds ⟨h⟩ [] :=
  ⟨hr, hn, by simp⟩

variable {s : Scope} {entries : List (String × Value)}

/-- One more global. -/
theorem holds_setGlobal (hs : s.Holds entries) {x : String} {v : Value}
    (hname : isUnitName x = true) (hnew : x ∉ entries.map Prod.fst)
    (hx : x ∉ Literal.globals.map Prod.fst) (hv : v.WellFormed)
    (hlimits : Literal.WithinLimits x v) :
    ∃ s', setGlobal x v s = .ok () s' ∧ s'.Holds (entries ++ [(x, v)]) := by
  obtain ⟨h', d, hrun, hr', hn', hgrows, hvalue, hd, hothers⟩ :=
    script_assignment hs.ready hs.named (some x) x hx hv
  refine ⟨⟨h'⟩, ?_, hr', hn', fun e he => ?_⟩
  · have hcheck : checkName x s = .ok () s := by rw [checkName, if_pos hname]; rfl
    have hcompile : orFailure (compile (assignment x v)) s = .ok [Literal.assignment x v] s := by
      rw [compile_assignment x v hlimits.levels hlimits.slots]
      rfl
    have hblock : execBlock (some x) [Literal.assignment x v] s = .ok () ⟨h'⟩ := by
      have hscript : run (Run.script (some x) [Literal.assignment x v] (.table Heap.globals)) s =
          .ok [] ⟨h'⟩ := by rw [run, hrun]
      exact Run.bind_ok hscript
    exact (Run.bind_ok hcheck).trans ((Run.bind_ok hcompile).trans hblock)
  · have hsize := hs.ready.tables_le
    rcases List.mem_append.mp he with he | he
    · obtain ⟨low, high, hlow, hhigh, hmeans⟩ := hs.means e he
      have hother : e.1 ≠ x := fun heq => hnew (heq ▸ List.mem_map_of_mem he)
      refine ⟨low, high, hlow, hhigh.trans hgrows.tables_le, ?_⟩
      rw [hothers e.1 hother]
      exact hmeans.mono le_rfl le_rfl (hgrows.agrees hsize hhigh fun p hp =>
        ⟨.inl hp, .inl (hp ▸ hlow)⟩)
    · obtain rfl := List.mem_singleton.mp he
      refine ⟨_, _, Nat.lt_of_lt_of_le (by decide) hsize, le_rfl, ?_⟩
      rw [hvalue]
      exact hd

/-- Globals one after the other. -/
theorem holds_setGlobals (sets : List (String × Value)) (hs : s.Holds entries)
    (hname : ∀ e ∈ sets, isUnitName e.1 = true)
    (hnew : ((entries ++ sets).map Prod.fst).Nodup)
    (hx : ∀ e ∈ sets, e.1 ∉ Literal.globals.map Prod.fst) (hv : ∀ e ∈ sets, e.2.WellFormed)
    (hlimits : ∀ e ∈ sets, Literal.WithinLimits e.1 e.2) :
    ∃ s', (sets.forM fun e => setGlobal e.1 e.2) s = .ok () s' ∧ s'.Holds (entries ++ sets) := by
  induction sets generalizing s entries with
  | nil => exact ⟨s, rfl, by simpa using hs⟩
  | cons e sets ih =>
    obtain ⟨x, v⟩ := e
    rw [List.forall_mem_cons] at hname hx hv hlimits
    have hfresh : x ∉ entries.map Prod.fst := fun hmem => by
      rw [List.map_append] at hnew
      exact List.disjoint_of_nodup_append hnew hmem (by simp)
    obtain ⟨s₁, hfirst, hs₁⟩ := holds_setGlobal hs hname.1 hfresh hx.1 hv.1 hlimits.1
    obtain ⟨s', hrest, hs'⟩ := ih hs₁ hname.2 (by simpa using hnew) hx.2 hv.2 hlimits.2
    exact ⟨s', (Run.bind_ok hfirst).trans hrest, by simpa using hs'⟩

/-- A global gives its value back if its tables do not nest too deep. -/
theorem global_eq (hs : s.Holds entries) {x : String} {v : Value} (hx : (x, v) ∈ entries) :
    global x s = if v.nesting ≤ Materialize.levelLimit then .ok v.settled s
      else .error (.unconvertible .tooDeep) s := by
  obtain ⟨low, high, -, -, hmeans⟩ := hs.means (x, v) hx
  have hindex : Operation.index call (.table Heap.globals) (.ofText x) s.heap =
      .ok ((s.heap.table 0).getText x) s.heap := Operation.index_table call rfl hmeans.present
  have hread : readGlobal x s = .ok ((s.heap.table 0).getText x) s := by
    rw [readGlobal, run, hindex]
  have hvalue : s.heap.valueOf ((s.heap.table 0).getText x) = limited Materialize.levelLimit v :=
    hmeans.ofDatum s.heap (fun _ _ => rfl) _
  refine (Run.bind_ok hread).trans ?_
  rw [value, hvalue, limited]
  split_ifs <;> rfl

/-- Literals take values into a scope, and the globals give them back up to the kinds of their
numbers, as long as their tables do not nest too deep. -/
theorem literals_round_trip (sets : List (String × Value))
    (hnames : (sets.map Prod.fst).Nodup) (hunit : ∀ e ∈ sets, isUnitName e.1 = true)
    (hfree : ∀ e ∈ sets, e.1 ∉ Literal.globals.map Prod.fst)
    (hvalues : ∀ e ∈ sets, e.2.WellFormed)
    (hlimits : ∀ e ∈ sets, Literal.WithinLimits e.1 e.2) :
    ∃ s, (sets.forM fun e => setGlobal e.1 e.2) fresh = .ok () s ∧
      ∀ e ∈ sets, global e.1 s =
        if e.2.nesting ≤ Materialize.levelLimit then .ok e.2.settled s
        else .error (.unconvertible .tooDeep) s := by
  obtain ⟨s, hrun, hs⟩ := holds_setGlobals sets
    (holds_nil Heap.ready_fresh holdsPrelude_fresh.globalsNamed) hunit (by simpa using hnames)
    hfree hvalues hlimits
  exact ⟨s, hrun, fun e he => global_eq hs (by simpa using he)⟩

/-- References one inside the other. -/
def nestedReference : ℕ → Value
  | 0 => .null
  | n + 1 => .reference none "next" (nestedReference n)

theorem nestedReference_wellFormed (n : ℕ) : (nestedReference n).WellFormed := by
  induction n with
  | zero => exact .scalar trivial (by rintro r ⟨⟩)
  | succ n ih => exact .reference none "next" ih

/-- A document that changes the kinds of its numbers on its way, and a value of one level too
many. -/
def samples : List (String × Value) :=
  [("reading", .document [("count", .int64 7), ("marks", .array [.null, .double .nan])]),
    ("deep", nestedReference 100)]

theorem samples_round_trip :
    ∃ s, (samples.forM fun e => setGlobal e.1 e.2) fresh = .ok () s ∧
      global "reading" s = .ok (.document [("count", .int32 7),
        ("marks", .array [.null, .double .invalid])]) s ∧
      global "deep" s = .error (.unconvertible .tooDeep) s := by
  have hvalues : ∀ e ∈ samples, e.2.WellFormed := by
    intro e he
    rcases List.mem_pair.mp he with rfl | rfl
    · refine .document (by decide) (by decide) fun entry hentry => ?_
      rcases List.mem_pair.mp hentry with rfl | rfl
      · exact .scalar trivial (by simp)
      · refine .array (by decide) fun v hv => ?_
        rcases List.mem_pair.mp hv with rfl | rfl <;> exact .scalar trivial (by simp)
    · exact nestedReference_wellFormed 100
  have hlimits : ∀ e ∈ samples, Literal.WithinLimits e.1 e.2 := by
    intro e he
    rcases List.mem_pair.mp he with rfl | rfl
    · exact ⟨by decide +kernel, by decide +kernel⟩
    · exact ⟨by decide +kernel, by decide +kernel⟩
  obtain ⟨s, hrun, hget⟩ := literals_round_trip samples (by decide) (by decide) (by decide)
    hvalues hlimits
  refine ⟨s, hrun, (hget _ List.mem_cons_self).trans ?_,
    (hget ("deep", nestedReference 100) (List.mem_cons_of_mem _ List.mem_cons_self)).trans ?_⟩
  · rw [if_pos (by decide)]
    rfl
  · rw [if_neg (by decide)]

/-- A name with a NUL is none that a unit can have, so nothing is stored under it. -/
theorem setGlobal_badName {x : String} (hx : isUnitName x = false) (v : Value) (s : Scope) :
    setGlobal x v s = .error .badName s := by
  have hcheck : checkName x s = .error .badName s := by
    rw [checkName, hx]
    rfl
  exact Run.bind_error hcheck

/-- Without the condition on the names there is a value that does not come back. -/
theorem setGlobal_unnameable :
    ¬∀ sets : List (String × Value), (sets.map Prod.fst).Nodup →
      (∀ e ∈ sets, e.1 ∉ Literal.globals.map Prod.fst) → (∀ e ∈ sets, e.2.WellFormed) →
      (∀ e ∈ sets, Literal.WithinLimits e.1 e.2) →
      ∃ s, (sets.forM fun e => setGlobal e.1 e.2) fresh = .ok () s ∧
        ∀ e ∈ sets, global e.1 s =
          if e.2.nesting ≤ Materialize.levelLimit then .ok e.2.settled s
          else .error (.unconvertible .tooDeep) s := by
  intro hall
  obtain ⟨s, hrun, -⟩ := hall [("a\x00b", .int32 1)] (by simp) (by decide)
    (fun e he => List.mem_singleton.mp he ▸ .scalar trivial (by simp))
    (fun e he => List.mem_singleton.mp he ▸ ⟨by decide +kernel, by decide +kernel⟩)
  have hset : ([("a\x00b", Value.int32 1)].forM fun e => setGlobal e.1 e.2) fresh =
      .error .badName fresh := Run.bind_error (setGlobal_badName (by decide) _ _)
  rw [hset] at hrun
  exact absurd hrun (by simp)

end Scope

end Docbase
