import Docbase.Proofs.Script.Comparison
import Docbase.Proofs.Script.Returning

/-!
The number that the prelude's comparisons take a value for. There is one rule for each kind of
value; `coerce` follows them, with one turn for each array of one item that it goes into.
-/
namespace Docbase.Script.Comparison

open Docbase.Script.Expr (ofName callName)

variable {h h' : Heap}

/-! What a value is taken for. -/

/-- What `coerce` gives for a value, and how many arrays of one item it goes through: numbers
count as they are and `null` as 0, a date as its milliseconds, an empty array as 0, an array of
one item as that item, and all other values as nil. Dates and arrays are what is named so. -/
inductive Coerces (h : Heap) : ℕ → Datum → Datum → Prop
  | number {d : Datum} (hnumber : d.number?.isSome = true) : Coerces h 0 d d
  | null : Coerces h 0 null (.int 0)
  | date {p : ℕ} {ms : Datum} (hnull : .table p ≠ null)
    (htag : h.tag? (.table p) = some (.ofText "Date")) (hms : h.field? "ms" p = some ms) :
    Coerces h 0 (.table p) ms
  | empty {p : ℕ} (hnull : .table p ≠ null) (htag : h.tag? (.table p) = some (.ofText "Array"))
    (hlength : h.handler (.table p) "__len" = .nil) (hborder : (h.table p).border = 0) :
    Coerces h 0 (.table p) (.int 0)
  | single {n p : ℕ} {r : Datum} (hnull : .table p ≠ null)
    (htag : h.tag? (.table p) = some (.ofText "Array"))
    (hlength : h.handler (.table p) "__len" = .nil) (hborder : (h.table p).border = 1)
    (hitem : Coerces h n ((h.table p).get (.int 1)) r) : Coerces h (n + 1) (.table p) r
  | longer {p : ℕ} (hnull : .table p ≠ null) (htag : h.tag? (.table p) = some (.ofText "Array"))
    (hlength : h.handler (.table p) "__len" = .nil) (hborder : 1 < (h.table p).border) :
    Coerces h 0 (.table p) .nil
  | other {d tag : Datum} (hnumber : d.number? = none) (hnull : d ≠ null)
    (htag : h.tag? d = some tag) (hdate : tag ≠ .ofText "Date") (harray : tag ≠ .ofText "Array") :
    Coerces h 0 d .nil

theorem Coerces.asked {n : ℕ} {d r : Datum} (hc : Coerces h n d r) (ha : h.Asked h') :
    Coerces h' n d r := by
  induction hc with
  | number hnumber => exact .number hnumber
  | null => exact .null
  | date hnull htag hms =>
    exact .date hnull ((ha.tag? _).trans htag) ((ha.field? _ _).trans hms)
  | empty hnull htag hlength hborder =>
    exact .empty hnull ((ha.tag? _).trans htag) ((ha.handler _ _).trans hlength)
      ((ha.table _).border.trans hborder)
  | single hnull htag hlength hborder _ ih =>
    refine .single hnull ((ha.tag? _).trans htag) ((ha.handler _ _).trans hlength)
      ((ha.table _).border.trans hborder) ?_
    rwa [Table.get, (ha.table _).moved.getKey]
  | longer hnull htag hlength hborder =>
    exact .longer hnull ((ha.tag? _).trans htag) ((ha.handler _ _).trans hlength)
      (hborder.trans_eq (ha.table _).border.symm)
  | other hnumber hnull htag hdate harray =>
    exact .other hnumber hnull ((ha.tag? _).trans htag) hdate harray

theorem name_ne : Datum.ofText "Date" ≠ .ofText "Array" := by simp [Table.ofText_inj]

/-- A value is taken for one thing only, in one number of turns. -/
theorem Coerces.unique {n m : ℕ} {d r s : Datum} (hc : Coerces h n d r) (hd : Coerces h m d s) :
    n = m ∧ r = s := by
  have hname := name_ne
  induction hc generalizing m s with
  | number hnumber => cases hd <;> simp_all [Datum.number?, Comparison.null]
  | null => cases hd <;> simp_all [Datum.number?, Comparison.null]
  | date hnull htag hms => cases hd <;> simp_all [Datum.number?, Comparison.null]
  | empty hnull htag hlength hborder => cases hd <;> simp_all [Datum.number?, Comparison.null]
  | single hnull htag hlength hborder _ ih =>
    cases hd with
    | single _ _ _ _ hitem => simpa using ih hitem
    | _ => simp_all [Datum.number?, Comparison.null]
  | longer hnull htag hlength hborder => cases hd <;> simp_all [Datum.number?, Comparison.null]
  | other hnumber hnull htag hdate harray =>
    cases hd <;> simp_all [Datum.number?, Comparison.null]

/-- Going through arrays of one item leads to no array twice, so there are no more turns than
tables. -/
theorem Coerces.le_size {n : ℕ} {d r : Datum} (hc : Coerces h n d r) : n ≤ h.tables.size := by
  have hpath : ∃ places : List ℕ, places.length = n ∧ places.Nodup ∧ ∀ p ∈ places,
      p < h.tables.size ∧ ∃ k ≤ n, Coerces h k (.table p) r := by
    induction hc with
    | @single n p r hnull htag hlength hborder hitem ih =>
      obtain ⟨places, hplaces, hnodup, hall⟩ := ih
      have hp : p < h.tables.size := by
        by_contra hp
        have hempty : h.table p = .empty := by simp [Heap.table, hp]
        rw [hempty] at hborder
        exact absurd hborder (by decide)
      have hself := Coerces.single hnull htag hlength hborder hitem
      refine ⟨p :: places, congrArg (· + 1) hplaces, List.nodup_cons.mpr ⟨fun hmem => ?_, hnodup⟩,
        List.forall_mem_cons.mpr ⟨⟨hp, n + 1, le_rfl, hself⟩, fun q hq => ?_⟩⟩
      · obtain ⟨-, k, hk, hagain⟩ := hall p hmem
        have heq := (hagain.unique hself).1
        omega
      · obtain ⟨hlt, k, hk, hq⟩ := hall q hq
        exact ⟨hlt, k, hk.trans (Nat.le_succ n), hq⟩
    | _ => exact ⟨[], rfl, List.nodup_nil, by simp⟩
  obtain ⟨places, rfl, hnodup, hall⟩ := hpath
  have hsub : places ⊆ List.range h.tables.size := fun p hp => List.mem_range.mpr (hall p hp).1
  simpa using (hnodup.subperm hsub).length_le

/-! Which values are taken for something. -/

/-- Whether all that `coerce` reads of a value is found without a call of a function. -/
def Readable (h : Heap) (d : Datum) : Prop :=
  ∃ tag, h.tag? d = some tag ∧
    (tag = .ofText "Date" → ∃ p ms, d = .table p ∧ h.field? "ms" p = some ms) ∧
    (tag = .ofText "Array" → ∃ p, d = .table p ∧ h.handler d "__len" = .nil)

/-- Whether a value is the item of an array of one. -/
def IsOnlyItem (h : Heap) (item d : Datum) : Prop :=
  ∃ p, d = .table p ∧ h.tag? d = some (.ofText "Array") ∧ (h.table p).border = 1 ∧
    item = (h.table p).get (.int 1)

/-- Every value is taken for something, unless its arrays of one item go on without end. -/
theorem exists_coerces (hread : ∀ d, Readable h d) {d : Datum} (hends : Acc (IsOnlyItem h) d) :
    ∃ n r, Coerces h n d r := by
  induction hends with
  | intro d _ ih =>
    obtain ⟨tag, htag, hdate, harray⟩ := hread d
    cases hnumber : d.number?.isSome with
    | true => exact ⟨0, d, .number hnumber⟩
    | false =>
      by_cases hnull : d = null
      · exact ⟨0, .int 0, hnull ▸ .null⟩
      · by_cases hisDate : tag = .ofText "Date"
        · obtain ⟨p, ms, rfl, hms⟩ := hdate hisDate
          exact ⟨0, ms, .date hnull (hisDate ▸ htag) hms⟩
        · by_cases hisArray : tag = .ofText "Array"
          · obtain ⟨p, rfl, hlength⟩ := harray hisArray
            subst hisArray
            rcases Nat.lt_trichotomy (h.table p).border 1 with hlt | hone | hgt
            · exact ⟨0, .int 0, .empty hnull htag hlength (Nat.lt_one_iff.mp hlt)⟩
            · obtain ⟨n, r, hitem⟩ := ih _ ⟨p, rfl, htag, hone, rfl⟩
              exact ⟨n + 1, r, .single hnull htag hlength hone hitem⟩
            · exact ⟨0, .nil, .longer hnull htag hlength hgt⟩
          · exact ⟨0, .nil, .other (by simpa using hnumber) hnull htag hisDate hisArray⟩

/-- An array whose only item is the array itself is taken for nothing. -/
theorem not_coerces_self {p n : ℕ} {r : Datum} (hnull : .table p ≠ null)
    (htag : h.tag? (.table p) = some (.ofText "Array")) (hborder : (h.table p).border = 1)
    (hself : (h.table p).get (.int 1) = .table p) : ¬Coerces h n (.table p) r := by
  intro hc
  have hname := name_ne
  cases hc with
  | single _ _ hlength _ hitem =>
    rw [hself] at hitem
    have hturns := (hitem.unique (.single hnull htag hlength hborder (hself ▸ hitem))).1
    omega
  | null => exact hnull rfl
  | _ => simp_all [Datum.number?]

/-! What `coerce` reads. -/

section Turn

variable {trace : Trace} {own : List (String × ℕ)} {ds : List Datum} {d m : Datum} {i p q : ℕ}
  {x : String}

/-- What `coerce` sees beside its own variables. -/
def coerceEnv (trace : Trace) (own : List (String × ℕ)) : Env :=
  ⟨own, shared, [], none, trace, true⟩

/-- The variables of `coerce`, the last one first. -/
def own₁ (n : ℕ) : List (String × ℕ) := [("v", n + 0)]
def own₂ (n : ℕ) : List (String × ℕ) := [("meta", n + 1), ("v", n + 0)]

theorem evaluate_v (call : Dispatch) (trace : Trace) (h : Heap) (d : Datum) :
    (ofName "v").evaluate call (coerceEnv trace (own₁ h.cells.size)) (h.withCells [d]) =
      .ok [d] (h.withCells [d]) := evaluate_local call (coerceEnv trace _) 0 (i := 0) rfl rfl

/-- A global that `coerce` reads. -/
theorem Wired.evaluate_global (hw : Wired h) (call : Dispatch) {g : String × Datum}
    (hg : g ∈ globals) (hown : own.lookup Env.globalsName = none) (hfree : own.lookup g.1 = none)
    (ds : List Datum) :
    (ofName g.1).evaluate call (coerceEnv trace own) (h.withCells ds) =
      .ok [g.2] (h.withCells ds) := by
  have hsees : (coerceEnv trace own).Global h :=
    ⟨hown, rfl, Nat.lt_of_lt_of_le (by decide) hw.cells_le, hw.cell (0, .table 0) (by decide)⟩
  have hknown : ∀ g ∈ globals, g.2.isNil = false ∧ shared.lookup g.1 = none := by decide
  refine evaluate_free call 0 hsees ?_ (hw.global g hg) (hknown g hg).1 ds
  rw [Env.cell?_of_captured hfree]
  exact (hknown g hg).2

/-- A call of the library that leaves the heap as it is. -/
theorem Wired.evaluate_library (hw : Wired h) (htrace : trace.hosted < Trace.hostedLimit)
    (depth : ℕ) {f : String} {q : Primitive} (hf : (f, Datum.primitive q) ∈ globals)
    (hown : own.lookup Env.globalsName = none) (hfree : own.lookup f = none) {args : List Expr}
    {gs out : List Datum}
    (hargs : Expr.evaluateAll (Call.within (depth + 1)) args (coerceEnv trace own)
      (h.withCells ds) = .ok gs (h.withCells ds))
    (hq : ∀ call trace, q.apply call trace gs (h.withCells ds) = .ok out (h.withCells ds)) :
    (callName f args).evaluate (Call.within (depth + 1)) (coerceEnv trace own) (h.withCells ds) =
      .ok out (h.withCells ds) := by
  have htrace' : ((coerceEnv trace own).trace 0).hosted < Trace.hostedLimit := htrace
  exact evaluate_call (hw.evaluate_global _ hf hown hfree ds) hargs
    (within_primitive htrace' depth gs hq)

/-- The name of the type of what a variable holds. -/
theorem Wired.evaluate_type (hw : Wired h) (htrace : trace.hosted < Trace.hostedLimit)
    (depth : ℕ) (hown : own.lookup Env.globalsName = none) (hfree : own.lookup "type" = none)
    (hx : own.lookup x = some (h.cells.size + i)) (hd : ds[i]? = some d) :
    (callName "type" [ofName x]).evaluate (Call.within (depth + 1)) (coerceEnv trace own)
      (h.withCells ds) = .ok [.ofText d.typeName] (h.withCells ds) :=
  hw.evaluate_library htrace depth (q := .type) (by decide) hown hfree
    (evaluate_local _ (coerceEnv trace own) 0 hx hd) fun _ _ => rfl

theorem typeName_number (d : Datum) :
    decide (Datum.ofText d.typeName = .ofText "number") = d.number?.isSome := by
  cases d <;> simp [Datum.typeName, Datum.number?, Table.ofText_inj]

theorem Wired.evaluate_typeIsNumber (hw : Wired h) (htrace : trace.hosted < Trace.hostedLimit)
    (depth : ℕ) (d : Datum) :
    typeIsNumber.evaluate (Call.within (depth + 1)) (coerceEnv trace (own₁ h.cells.size))
      (h.withCells [d]) = .ok [.boolean d.number?.isSome] (h.withCells [d]) := by
  have htype : (callName "type" [ofName "v"]).evaluate (Call.within (depth + 1))
      (coerceEnv trace (own₁ h.cells.size)) (h.withCells [d]) =
        .ok [.ofText d.typeName] (h.withCells [d]) :=
    hw.evaluate_type htrace depth (i := 0) rfl rfl rfl rfl
  rw [← typeName_number]
  exact evaluate_binary rfl htype rfl fun call =>
    Run.bind_ok (Operation.equals_ofText call _ _ _)

theorem Wired.evaluate_isNull (hw : Wired h) (htrace : trace.hosted < Trace.hostedLimit)
    (depth : ℕ) (d : Datum) :
    isNull.evaluate (Call.within (depth + 1)) (coerceEnv trace (own₁ h.cells.size))
      (h.withCells [d]) = .ok [.boolean (decide (d = null))] (h.withCells [d]) := by
  have hv := evaluate_v (Call.within (depth + 1)) trace h d
  have hnull : (ofName "null").evaluate (Call.within (depth + 1))
      (coerceEnv trace (own₁ h.cells.size)) (h.withCells [d]) = .ok [null] (h.withCells [d]) :=
    hw.evaluate_global _ (g := ("null", null)) (by decide) rfl rfl [d]
  refine hw.evaluate_library htrace depth (q := .rawequal) (by decide) rfl rfl
    ((Run.bind_ok hv).trans (Run.bind_ok hnull)) fun _ _ => ?_
  rw [null, ← rawEqual_table]
  rfl

theorem Wired.evaluate_typeIsNoTable (hw : Wired h) (htrace : trace.hosted < Trace.hostedLimit)
    (depth : ℕ) (d m : Datum) :
    typeIsNoTable.evaluate (Call.within (depth + 1)) (coerceEnv trace (own₂ h.cells.size))
      (h.withCells [d, m]) =
        .ok [.boolean !decide (Datum.ofText m.typeName = .ofText "table")]
          (h.withCells [d, m]) := by
  have htype : (callName "type" [ofName "meta"]).evaluate (Call.within (depth + 1))
      (coerceEnv trace (own₂ h.cells.size)) (h.withCells [d, m]) =
        .ok [.ofText m.typeName] (h.withCells [d, m]) :=
    hw.evaluate_type htrace depth (i := 1) rfl rfl rfl rfl
  exact evaluate_binary rfl htype rfl fun call =>
    Run.bind_ok (Operation.equals_ofText call _ _ _)

/-- A field of what a variable of `coerce` holds. -/
theorem evaluate_field_local {call : Dispatch} {y : String} {z : Datum}
    (hx : own.lookup x = some (h.cells.size + i)) (hd : ds[i]? = some (.table p))
    (hfield : h.field? y p = some z) :
    ((ofName x).field y).evaluate call (coerceEnv trace own) (h.withCells ds) =
      .ok [z] (h.withCells ds) :=
  evaluate_index_local hx rfl (Run.readCell_local hd) fun call =>
    Operation.index_field call (((h.asked_withCells ds).field? y p).trans hfield)

theorem evaluate_isNamed (call : Dispatch) (trace : Trace) (d : Datum) {tag : Datum}
    (htag : h.field? "__name" q = some tag) (x : String) :
    (isNamed x).evaluate call (coerceEnv trace (own₂ h.cells.size))
      (h.withCells [d, .table q]) =
        .ok [.boolean (decide (tag = .ofText x))] (h.withCells [d, .table q]) := by
  have hname : ((ofName "meta").field "__name").evaluate call
      (coerceEnv trace (own₂ h.cells.size)) (h.withCells [d, .table q]) =
        .ok [tag] (h.withCells [d, .table q]) := evaluate_field_local (i := 1) rfl rfl htag
  exact evaluate_binary rfl hname rfl fun call =>
    Run.bind_ok (Operation.equals_ofText call _ _ _)

/-- The heap after a table was asked for its length. -/
def measured (h : Heap) (p : ℕ) : Heap :=
  h.update p fun t => { t with edge := (h.table p).findBorder.2 }

theorem Wired.asked_measured (hw : Wired h) (p : ℕ) : h.Asked (measured h p) :=
  Heap.asked_update (Table.asked_findBorder (hw.measurable p))

theorem Wired.border_lt (hw : Wired h) (p : ℕ) : (h.table p).border < 2 ^ 63 := by
  have hlast : Table.lastPosition = 2 ^ 63 - 1 := rfl
  obtain ⟨-, hend⟩ := (Table.findBorder_spec (hw.measurable p)).1
  omega

theorem Wired.evaluate_hasLength (hw : Wired h) (call : Dispatch) (trace : Trace) (m : Datum)
    (hlength : h.handler (.table p) "__len" = .nil) {k : Int64} {n : ℕ}
    (hk : k = Int64.ofNat n) (hn : n < 2 ^ 63) :
    (hasLength k).evaluate call (coerceEnv trace (own₂ h.cells.size))
      (h.withCells [.table p, m]) = .ok [.boolean (decide ((h.table p).border = n))]
        ((measured h p).withCells [.table p, m]) := by
  have hv : (ofName "v").evaluate call (coerceEnv trace (own₂ h.cells.size))
      (h.withCells [.table p, m]) = .ok [.table p] (h.withCells [.table p, m]) :=
    evaluate_local call _ 0 (i := 0) rfl rfl
  have hborder : (ofName "v").length.evaluate call (coerceEnv trace (own₂ h.cells.size))
      (h.withCells [.table p, m]) = .ok [.int (Int64.ofNat (h.table p).border)]
        ((measured h p).withCells [.table p, m]) :=
    evaluate_unary hv fun call => Operation.length_eq (h := h.withCells [.table p, m]) call
      (Operation.unhandled_of_handler hlength)
  have hsame : (Int64.ofNat (h.table p).border == k) = decide ((h.table p).border = n) := by
    have hlt := hw.border_lt p
    rw [hk, beq_eq_decide, decide_eq_decide]
    exact ⟨Table.ofNat_inj (by omega) (by omega), congrArg Int64.ofNat⟩
  rw [← hsame]
  exact evaluate_binary rfl hborder rfl fun call => Run.bind_ok (Operation.equals_int call _ _ _)

/-! Numbers, `null` and values without a metatable. -/

variable (hw : Wired h) (htrace : trace.hosted < Trace.hostedLimit) (depth : ℕ)

include hw htrace

/-- A number is given back as it is. -/
theorem execute_number (hnumber : d.number?.isSome = true) :
    Block.execute (Call.within (depth + 1)) coerceBody (coerceEnv trace (own₁ h.cells.size))
      atBlockEnd (h.withCells [d]) = .ok (.returned [d]) (h.withCells [d]) := by
  have hcondition := hw.evaluate_typeIsNumber htrace depth d
  rw [hnumber] at hcondition
  have hv := evaluate_v (Call.within (depth + 1)) trace h d
  exact execute_when_ends hcondition (giveBack_value hv nofun nofun) trivial _ _

/-- What is no number is compared with `null`. -/
theorem execute_noNumber (hnumber : d.number? = none) :
    Block.execute (Call.within (depth + 1)) coerceBody (coerceEnv trace (own₁ h.cells.size))
      atBlockEnd (h.withCells [d]) =
    Block.execute (Call.within (depth + 1)) coerceBody.tail
      (coerceEnv trace (own₁ h.cells.size)) atBlockEnd (h.withCells [d]) := by
  have hcondition := hw.evaluate_typeIsNumber htrace depth d
  rw [hnumber] at hcondition
  exact execute_when_skips _ hcondition _ _

theorem execute_null :
    Block.execute (Call.within (depth + 1)) coerceBody (coerceEnv trace (own₁ h.cells.size))
      atBlockEnd (h.withCells [null]) = .ok (.returned [.int 0]) (h.withCells [null]) := by
  have hcondition := hw.evaluate_isNull htrace depth null
  rw [decide_eq_true rfl] at hcondition
  exact (execute_noNumber hw htrace depth rfl).trans
    (execute_when_ends hcondition (giveBack_value (e := .int 0) rfl nofun nofun) trivial _ _)

/-- For all other values, the metatable is looked up. -/
theorem execute_other (hnumber : d.number? = none) (hnull : d ≠ null) :
    Block.execute (Call.within (depth + 1)) coerceBody (coerceEnv trace (own₁ h.cells.size))
      atBlockEnd (h.withCells [d]) =
    Block.execute (Call.within (depth + 1)) (.when typeIsNoTable [.giveOne .nil] :: ofNamed)
      (coerceEnv trace (own₂ h.cells.size)) atBlockEnd
        (h.withCells [d, h.shownMetatable d]) := by
  have hcondition := hw.evaluate_isNull htrace depth d
  rw [decide_eq_false hnull] at hcondition
  have hv := evaluate_v (Call.within (depth + 1)) trace h d
  have hmeta : (callName "getmetatable" [ofName "v"]).evaluate (Call.within (depth + 1))
      (coerceEnv trace (own₁ h.cells.size)) (h.withCells [d]) =
        .ok [h.shownMetatable d] (h.withCells [d]) :=
    hw.evaluate_library htrace depth (q := .getmetatable) (by decide) rfl rfl hv
      fun _ _ => getmetatable_eq d _
  rw [execute_noNumber hw htrace depth hnumber]
  refine (execute_when_skips _ hcondition _ _).trans ?_
  exact execute_cons (by simp [Stmt.bind]) (execute_bind hmeta) _ _

/-- Without a table in the place of the metatable there is no number. -/
theorem execute_bare (d : Datum) (hm : ∀ q, m ≠ .table q) :
    Block.execute (Call.within (depth + 1)) (.when typeIsNoTable [.giveOne .nil] :: ofNamed)
      (coerceEnv trace (own₂ h.cells.size)) atBlockEnd (h.withCells [d, m]) =
        .ok (.returned [.nil]) (h.withCells [d, m]) := by
  have hcondition := hw.evaluate_typeIsNoTable htrace depth d m
  have htype : Datum.ofText m.typeName ≠ .ofText "table" := by
    cases m with
    | table q => exact absurd rfl (hm q)
    | _ => simp [Datum.typeName, Table.ofText_inj]
  rw [decide_eq_false htype] at hcondition
  exact execute_when_ends hcondition (giveBack_value (e := .nil) rfl nofun nofun) trivial _ _

theorem execute_withTable (d : Datum) (q : ℕ) :
    Block.execute (Call.within (depth + 1)) (.when typeIsNoTable [.giveOne .nil] :: ofNamed)
      (coerceEnv trace (own₂ h.cells.size)) atBlockEnd (h.withCells [d, .table q]) =
    Block.execute (Call.within (depth + 1)) ofNamed
      (coerceEnv trace (own₂ h.cells.size)) atBlockEnd (h.withCells [d, .table q]) := by
  have hcondition := hw.evaluate_typeIsNoTable htrace depth d (.table q)
  have htype : Datum.ofText (Datum.table q).typeName = .ofText "table" := rfl
  rw [decide_eq_true htype] at hcondition
  exact execute_when_skips _ hcondition _ _

omit hw htrace

/-! Values that are named by their metatables. -/

theorem execute_date (call : Dispatch) (trace : Trace)
    (htag : h.field? "__name" q = some (.ofText "Date")) {ms : Datum}
    (hms : h.field? "ms" p = some ms) :
    Block.execute call ofNamed (coerceEnv trace (own₂ h.cells.size)) atBlockEnd
      (h.withCells [.table p, .table q]) =
        .ok (.returned [ms]) (h.withCells [.table p, .table q]) := by
  have hcondition := evaluate_isNamed call trace (.table p) htag "Date"
  rw [decide_eq_true rfl] at hcondition
  have hfield : ((ofName "v").field "ms").evaluate call (coerceEnv trace (own₂ h.cells.size))
      (h.withCells [.table p, .table q]) = .ok [ms] (h.withCells [.table p, .table q]) :=
    evaluate_field_local (i := 0) rfl rfl hms
  exact execute_when_ends hcondition (giveBack_value hfield nofun nofun) trivial _ _

/-- What is no date may be an array. -/
theorem execute_noDate (call : Dispatch) (trace : Trace) (d : Datum) {tag : Datum}
    (htag : h.field? "__name" q = some tag) (hdate : tag ≠ .ofText "Date") :
    Block.execute call ofNamed (coerceEnv trace (own₂ h.cells.size)) atBlockEnd
      (h.withCells [d, .table q]) =
    Block.execute call ofNamed.tail (coerceEnv trace (own₂ h.cells.size)) atBlockEnd
      (h.withCells [d, .table q]) := by
  have hcondition := evaluate_isNamed call trace d htag "Date"
  rw [decide_eq_false hdate] at hcondition
  exact execute_when_skips _ hcondition _ _

theorem execute_nameless (call : Dispatch) (trace : Trace) (d : Datum) {tag : Datum}
    (htag : h.field? "__name" q = some tag) (hdate : tag ≠ .ofText "Date")
    (harray : tag ≠ .ofText "Array") :
    Block.execute call ofNamed (coerceEnv trace (own₂ h.cells.size)) atBlockEnd
      (h.withCells [d, .table q]) = .ok (.returned [.nil]) (h.withCells [d, .table q]) := by
  have hcondition := evaluate_isNamed call trace d htag "Array"
  rw [decide_eq_false harray] at hcondition
  rw [execute_noDate call trace d htag hdate]
  refine (execute_when_skips _ hcondition _ _).trans ?_
  exact execute_giveOne (giveBack_value (e := .nil) rfl nofun nofun) trivial _ _

/-! Arrays, by their length. -/

theorem execute_array (call : Dispatch) (trace : Trace)
    (htag : h.field? "__name" q = some (.ofText "Array")) {flow : Flow} {h₁ : Heap}
    (hflow : flow.Ends)
    (hbody : Block.execute call ofArray (coerceEnv trace (own₂ h.cells.size)) atBlockEnd
      (h.withCells [d, .table q]) = .ok flow h₁) :
    Block.execute call ofNamed (coerceEnv trace (own₂ h.cells.size)) atBlockEnd
      (h.withCells [d, .table q]) = .ok flow h₁ := by
  have hcondition := evaluate_isNamed call trace d htag "Array"
  rw [decide_eq_true rfl] at hcondition
  rw [execute_noDate call trace d htag name_ne.symm]
  exact execute_cons_ends (by simp) (execute_branch_true [] hcondition hbody) hflow _ _

include hw

/-- An empty array is 0. -/
theorem execute_empty (call : Dispatch) (trace : Trace) (m : Datum)
    (hlength : h.handler (.table p) "__len" = .nil) (hborder : (h.table p).border = 0) :
    Block.execute call ofArray (coerceEnv trace (own₂ h.cells.size)) atBlockEnd
      (h.withCells [.table p, m]) =
        .ok (.returned [.int 0]) ((measured h p).withCells [.table p, m]) := by
  have hcondition := hw.evaluate_hasLength call trace m hlength (k := 0) (n := 0) rfl (by decide)
  rw [decide_eq_true hborder] at hcondition
  exact execute_cons_ends (by simp) (execute_branch_true _ hcondition
    (execute_giveOne (giveBack_value (e := .int 0) rfl nofun nofun) trivial _ _)) trivial _ _

/-- An array that is not empty is asked again. -/
theorem execute_filled (call : Dispatch) (trace : Trace) (m : Datum)
    (hlength : h.handler (.table p) "__len" = .nil) (hborder : (h.table p).border ≠ 0)
    {flow : Flow} {h₁ : Heap}
    (hbody : Block.execute call [.when (hasLength 1) handOnItem]
      (coerceEnv trace (own₂ h.cells.size)) atBlockEnd
        ((measured h p).withCells [.table p, m]) = .ok flow h₁) :
    Stmt.execute call (.branch (hasLength 0) [.giveOne (.int 0)] [.when (hasLength 1) handOnItem])
      (coerceEnv trace (own₂ h.cells.size)) (h.withCells [.table p, m]) =
        .ok (flow, coerceEnv trace (own₂ h.cells.size)) h₁ := by
  have hcondition := hw.evaluate_hasLength call trace m hlength (k := 0) (n := 0) rfl (by decide)
  rw [decide_eq_false hborder] at hcondition
  exact execute_branch_false _ hcondition hbody

/-- An array that is neither empty nor of one item is like what has no name. -/
theorem execute_longer (call : Dispatch) (trace : Trace)
    (htag : h.field? "__name" q = some (.ofText "Array"))
    (hlength : h.handler (.table p) "__len" = .nil) (hborder : 1 < (h.table p).border) :
    Block.execute call ofNamed (coerceEnv trace (own₂ h.cells.size)) atBlockEnd
      (h.withCells [.table p, .table q]) = .ok (.returned [.nil])
        ((measured (measured h p) p).withCells [.table p, .table q]) := by
  have ha := hw.asked_measured p
  have hsecond := (hw.asked ha).evaluate_hasLength call trace (.table q)
    ((ha.handler _ _).trans hlength) (k := 1) (n := 1) rfl (by decide)
  rw [(ha.table p).border, decide_eq_false hborder.ne'] at hsecond
  have hinner := execute_when_skips handOnItem hsecond [] atBlockEnd
  have hbranch := execute_filled hw call trace (.table q) hlength (by omega) (hinner.trans rfl)
  have hbody := (execute_cons (by simp) hbranch [] atBlockEnd).trans rfl
  have hcondition := evaluate_isNamed call trace (.table p) htag "Array"
  rw [decide_eq_true rfl] at hcondition
  rw [execute_noDate call trace (.table p) htag name_ne.symm]
  refine (execute_cons (by simp) (execute_branch_true [] hcondition hbody) _ _).trans ?_
  exact execute_giveOne (giveBack_value (e := .nil) rfl nofun nofun) trivial _ _

/-- The item of an array of one. -/
theorem evaluate_onlyItem (call : Dispatch) (trace : Trace) (m : Datum)
    (hborder : (h.table p).border = 1) :
    ((ofName "v").item (.int 1)).evaluate call (coerceEnv trace (own₂ h.cells.size))
      (h.withCells [.table p, m]) = .ok [(h.table p).get (.int 1)]
        ((h.update p fun t => t.touch (.int 1)).withCells [.table p, m]) := by
  have hpresent : ((h.table p).get (.int 1)).isNil = false := by
    obtain ⟨hfirst, -⟩ := (Table.findBorder_spec (hw.measurable p)).1
    rw [hborder] at hfirst
    exact hfirst.resolve_left one_ne_zero
  refine evaluate_index_local (c := h.cells.size + 0) rfl rfl (Run.readCell_local (i := 0) rfl)
    fun call => ?_
  refine Operation.index_eq (h := h.withCells [.table p, m]) call (.int 1) fun hnil => ?_
  rw [Heap.table_withCells, hpresent] at hnil
  cases hnil

theorem evaluate_coerce (call : Dispatch) (hown : own.lookup "coerce" = none)
    (ds : List Datum) :
    (ofName "coerce").evaluate call (coerceEnv trace own) (h.withCells ds) =
      .ok [.closure coercePlace] (h.withCells ds) := by
  have hlt : coerceCell < h.cells.size := Nat.lt_of_lt_of_le (by decide) hw.cells_le
  have hcell := evaluate_captured call (coerceEnv trace own) 0 (c := coerceCell) hown rfl hlt ds
  rwa [hw.cell (coerceCell, .closure coercePlace) (by decide)] at hcell

/-- The item of an array of one is handed on to another turn. -/
theorem execute_single (call : Dispatch) (trace : Trace) (m : Datum)
    (hlength : h.handler (.table p) "__len" = .nil) (hborder : (h.table p).border = 1) :
    ∃ h', Block.execute call ofArray (coerceEnv trace (own₂ h.cells.size)) atBlockEnd
      (h.withCells [.table p, m]) =
        .ok (.handedOn 0 (.closure coercePlace) [(h.table p).get (.int 1)]) h' ∧
      h.Asked h' := by
  have ha := hw.asked_measured p
  have hw₁ := hw.asked ha
  have hcondition := hw₁.evaluate_hasLength call trace m ((ha.handler _ _).trans hlength)
    (k := 1) (n := 1) rfl (by decide)
  rw [(ha.table p).border, decide_eq_true hborder] at hcondition
  have ha₂ := ha.trans (hw₁.asked_measured p)
  set h₂ := measured (measured h p) p
  have hw₂ := hw.asked ha₂
  have hborder₂ := (ha₂.table p).border.trans hborder
  have hcoerce : (ofName "coerce").evaluate call (coerceEnv trace (own₂ h.cells.size))
      (h₂.withCells [.table p, m]) =
        .ok [.closure coercePlace] (h₂.withCells [.table p, m]) :=
    evaluate_coerce hw₂ call rfl _
  have hargs : Expr.evaluateAll call [(ofName "v").item (.int 1)]
      (coerceEnv trace (own₂ h.cells.size)) (h₂.withCells [.table p, m]) =
        .ok [(h₂.table p).get (.int 1)]
          ((h₂.update p fun t => t.touch (.int 1)).withCells [.table p, m]) :=
    evaluate_onlyItem hw₂ call trace m hborder₂
  have hbranch := execute_filled hw call trace m hlength (by omega)
    (execute_when_ends hcondition (giveBack_call 0 rfl hcoerce hargs) trivial [] atBlockEnd)
  have hsame : (h₂.table p).get (.int 1) = (h.table p).get (.int 1) :=
    (ha₂.table p).moved.getKey _
  rw [hsame] at hbranch
  have ha₃ : h₂.Asked (h₂.update p fun t => t.touch (.int 1)) :=
    Heap.asked_update (Table.asked_touch (hw₂.measurable p) hborder₂)
  exact ⟨_, execute_cons_ends (by simp) hbranch trivial _ _,
    (ha₂.trans ha₃).trans (Heap.asked_withCells _ _)⟩

/-! Turns of `coerce`. -/

omit hw

/-- The metatable of a value names it, or there is none. -/
theorem tag?_eq_some {tag : Datum} (htag : h.tag? d = some tag) :
    (∃ q, h.shownMetatable d = .table q ∧ h.field? "__name" q = some tag) ∨
      (∀ q, h.shownMetatable d ≠ .table q) ∧ tag = .nil := by
  rw [Heap.tag?] at htag
  cases hshown : h.shownMetatable d with
  | table q =>
    rw [hshown] at htag
    exact .inl ⟨q, rfl, htag⟩
  | _ =>
    rw [hshown] at htag
    exact .inr ⟨by simp, (Option.some_inj.mp htag).symm⟩

include hw htrace

/-- A value that is named by its metatable. -/
theorem execute_named (hnumber : d.number? = none) (hnull : d ≠ null) {tag : Datum}
    (htag : h.tag? d = some tag) (hpresent : tag ≠ .nil) :
    ∃ q, h.field? "__name" q = some tag ∧
      Block.execute (Call.within (depth + 1)) coerceBody (coerceEnv trace (own₁ h.cells.size))
        atBlockEnd (h.withCells [d]) =
      Block.execute (Call.within (depth + 1)) ofNamed (coerceEnv trace (own₂ h.cells.size))
        atBlockEnd (h.withCells [d, .table q]) := by
  obtain ⟨q, hshown, hname⟩ | ⟨-, hnil⟩ := tag?_eq_some htag
  · refine ⟨q, hname, ?_⟩
    rw [execute_other hw htrace depth hnumber hnull, hshown]
    exact execute_withTable hw htrace depth d q
  · exact absurd hnil hpresent

/-- What takes one turn. -/
theorem execute_coerce {r : Datum} (hc : Coerces h 0 d r) :
    ∃ h', Block.execute (Call.within (depth + 1)) coerceBody
      (coerceEnv trace (own₁ h.cells.size)) atBlockEnd (h.withCells [d]) =
        .ok (.returned [r]) h' ∧ h.Asked h' := by
  cases hc with
  | number hnumber => exact ⟨_, execute_number hw htrace depth hnumber, h.asked_withCells _⟩
  | null => exact ⟨_, execute_null hw htrace depth, h.asked_withCells _⟩
  | date hnull htag hms =>
    obtain ⟨q, hname, hrun⟩ := execute_named hw htrace depth rfl hnull htag nofun
    exact ⟨_, hrun.trans (execute_date _ _ hname hms), h.asked_withCells _⟩
  | @empty p hnull htag hlength hborder =>
    obtain ⟨q, hname, hrun⟩ := execute_named hw htrace depth rfl hnull htag nofun
    have hempty := execute_empty hw (Call.within (depth + 1)) trace (.table q) hlength hborder
    exact ⟨_, hrun.trans (execute_array _ _ hname trivial hempty),
      (hw.asked_measured p).trans (Heap.asked_withCells _ _)⟩
  | @longer p hnull htag hlength hborder =>
    obtain ⟨q, hname, hrun⟩ := execute_named hw htrace depth rfl hnull htag nofun
    have ha := hw.asked_measured p
    exact ⟨_, hrun.trans (execute_longer hw _ _ hname hlength hborder),
      (ha.trans ((hw.asked ha).asked_measured p)).trans (Heap.asked_withCells _ _)⟩
  | other hnumber hnull htag hdate harray =>
    obtain ⟨q, hshown, hname⟩ | ⟨hbare, -⟩ := tag?_eq_some htag
    · refine ⟨_, ?_, h.asked_withCells [d, .table q]⟩
      rw [execute_other hw htrace depth hnumber hnull, hshown,
        execute_withTable hw htrace depth d q]
      exact execute_nameless _ _ d hname hdate harray
    · refine ⟨_, ?_, h.asked_withCells [d, h.shownMetatable d]⟩
      rw [execute_other hw htrace depth hnumber hnull]
      exact execute_bare hw htrace depth d hbare

theorem execute_coerce_single (hnull : .table p ≠ null)
    (htag : h.tag? (.table p) = some (.ofText "Array"))
    (hlength : h.handler (.table p) "__len" = .nil) (hborder : (h.table p).border = 1) :
    ∃ h', Block.execute (Call.within (depth + 1)) coerceBody
      (coerceEnv trace (own₁ h.cells.size)) atBlockEnd (h.withCells [.table p]) =
        .ok (.handedOn 0 (.closure coercePlace) [(h.table p).get (.int 1)]) h' ∧ h.Asked h' := by
  obtain ⟨q, hname, hrun⟩ := execute_named hw htrace depth rfl hnull htag nofun
  obtain ⟨h', hsingle, ha⟩ :=
    execute_single hw (Call.within (depth + 1)) trace (.table q) hlength hborder
  exact ⟨h', hrun.trans (execute_array _ _ hname trivial hsingle), ha⟩

omit htrace

theorem step_coerce (caller : Option Frame) {flow : Flow}
    (hbody : Block.execute (Call.within (depth + 1)) coerceBody
      (coerceEnv trace (own₁ h.cells.size)) atBlockEnd (h.withCells [d]) = .ok flow h') :
    Call.step (Call.within (depth + 1)) trace ⟨caller, .closure coercePlace, [d]⟩ h =
      .ok (afterBody flow) h' :=
  step_body caller (hw.closure (coercePlace, coerceClosure) (by simp [closures])) rfl rfl
    (bindAll_one "v" d [] h) hbody

include htrace

/-- Every array of one item on the way takes a turn. -/
theorem iterate_coerce {n : ℕ} {r : Datum} (hc : Coerces h n d r) (caller : Option Frame)
    (turns : ℕ) :
    ∃ h', iterate (Call.step (Call.within (depth + 1)) trace) (turns + n + 1)
        ⟨caller, .closure coercePlace, [d]⟩ h = .ok [r] h' ∧ h.Asked h' := by
  induction n generalizing h d caller with
  | zero =>
    obtain ⟨h', hrun, ha⟩ := execute_coerce hw htrace depth hc
    exact ⟨h', Run.iterate_result (step_coerce hw depth caller hrun) _, ha⟩
  | succ n ih =>
    cases hc with
    | single hnull htag hlength hborder hitem =>
      obtain ⟨h₁, hrun, ha⟩ :=
        execute_coerce_single hw htrace depth hnull htag hlength hborder
      obtain ⟨h₂, hrest, ha₂⟩ := ih (hw.asked ha) (hitem.asked ha) (some .host)
      exact ⟨h₂, (Run.iterate_next (step_coerce hw depth caller hrun) _).trans hrest,
        ha.trans ha₂⟩

/-- `coerce` gives what the rules tell. -/
theorem within_coerce {n : ℕ} {r : Datum} (hc : Coerces h n d r) (hn : n < turnLimit) :
    ∃ h', Call.within (depth + 2) trace (.closure coercePlace) [d] h = .ok [r] h' ∧
      h.Asked h' := by
  obtain ⟨h', hrun, ha⟩ := iterate_coerce hw htrace depth hc none (turnLimit - n - 1)
  refine ⟨h', ?_, ha⟩
  rw [Call.within, if_neg htrace.not_ge]
  rwa [show turnLimit - n - 1 + n + 1 = turnLimit by omega] at hrun

end Turn

end Docbase.Script.Comparison
