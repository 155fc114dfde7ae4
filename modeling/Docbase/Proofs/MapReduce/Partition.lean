import Docbase.Proofs.MapReduce.Filing

/-!
Whatever happens between the calls, as long as it leaves the registry alone: `emit` files each
emission under its key, so the registry is a partition of all emissions by their classes.
-/
namespace Docbase.MapReduce

open Docbase.Script
open Registry (nanPlace)

namespace Registry

variable {h h' : Heap} {ks : List Datum} {lists : List (ℕ × List Datum)} {calls : ℕ}
  {trace : Trace} {k v : Datum}

/-- The list of a slot. -/
theorem Filed.get_emits (hf : Filed h ks lists calls) {i q : ℕ} {l : List Datum}
    (hi : lists[i]? = some (q, l)) :
    (h.table emitsPlace).get (.int (Int64.ofNat (i + 1))) = .table q := by
  obtain ⟨hlt, heq⟩ := List.getElem?_eq_some_iff.mp hi
  have hget := hf.emits.getInt_of_lt (i := i) (by simpa using hlt)
  rw [Table.getInt, Int64.ofInt_eq_ofNat] at hget
  refine hget.trans ?_
  simp [heq]

/-- The value comes last in a list that a variable holds. -/
theorem execute_push (hf : Filed h ks lists calls) (call : Dispatch) (env : Env)
    (ds : List Datum) {i j m q : ℕ} {l : List Datum} (hi : lists[i]? = some (q, l))
    (hv : v.isNil = false) (hsmall : l.length + 1 < 2 ^ 63)
    (hvalues : env.own.lookup "values" = some (h.cells.size + j)) (hj : ds[j]? = some (.table q))
    (hvalue : env.own.lookup "value" = some (h.cells.size + m)) (hm : ds[m]? = some v) :
    ∃ h', h'.cells = h.cells ∧ SamePrelude h h' ∧
      Filed h' ks (lists.set i (q, l ++ [v])) calls ∧
      (Stmt.setIndex (.ofName "values") (plusOne (Expr.ofName "values").length)
        (.ofName "value")).execute call env (h.withCells ds) =
          .ok (.next, env) (h'.withCells ds) := by
  have hmem := List.mem_of_getElem? hi
  have hunhandled (event : String) (he : event ∈ events) {h' : Heap}
      (hf' : Filed h' ks lists calls) : Operation.Unhandled h' q event :=
    hf'.wired.unhandled he (.inr (hf'.array _ hmem))
  have hnext := evaluate_next call (evaluate_local call env 0 hvalues hj)
    (hunhandled "__len" (by decide) hf) (hf.values _ hmem)
  have hpart : IsPart lists q := .inr (List.mem_map_of_mem hmem)
  have hf₁ := hf.search hpart (hf.values _ hmem)
  have hsame₁ : SamePrelude h (h.update q fun t =>
      { t with edge := (h.table q).findBorder.2 }) := hf.samePrelude_update hpart
  set h₁ := h.update q fun t => { t with edge := (h.table q).findBorder.2 }
  have hread : (Expr.ofName "value").evaluate call env (h₁.withCells ds) =
      .ok [v] (h₁.withCells ds) := evaluate_local call env 0 hvalue hm
  have hsilent := hunhandled "__newindex" (by decide) hf₁
  refine ⟨h₁.update q fun t => t.set (.int (Int64.ofNat (l.length + 1))) v, rfl,
    hsame₁.trans (hf₁.samePrelude_update hpart), filed_pushed hf₁ hi hv hsmall, ?_⟩
  exact execute_setIndex (places_local 0 hvalues rfl hnext) hread (Run.readCell_local hj) rfl
    fun call => Operation.setIndex_eq (h := h₁.withCells ds) call (int_isKey _) v hsilent

/-- The call is counted. -/
theorem execute_count (hf : Filed h ks lists calls) (call : Dispatch) {env : Env}
    (hg : env.Global h) (hfree : env.cell? emitCountName = none)
    (hown : env.own.lookup emitCountName = none) (ds : List Datum) :
    ∃ h', SamePrelude h h' ∧ Filed h' ks lists (calls + 1) ∧
      (Stmt.set emitCountName (plusOne (.ofName emitCountName))).execute call env
        (h.withCells ds) = .ok (.next, env) (h'.withCells ds) := by
  have hname : (Expr.ofName emitCountName).evaluate call env (h.withCells ds) =
      .ok [.int (Int64.ofNat calls)] (h.withCells ds) :=
    evaluate_free call 0 hg hfree hf.count rfl _
  have hplus : (plusOne (.ofName emitCountName)).evaluate call env (h.withCells ds) =
      .ok [.int (Int64.ofNat (calls + 1))] (h.withCells ds) :=
    evaluate_binary ((waitingCell?_name (by decide) 0 _).trans hown) hname rfl
      fun call => Operation.add_one call calls
  have hsilent : Operation.Unhandled h 0 "__newindex" :=
    hf.wired.unhandled (by decide) (.inl (hf.wired.metatable (0, none) (by decide)))
  refine ⟨_, samePrelude_update (.inl rfl)
    (Nat.lt_of_lt_of_le (by decide) hf.wired.tables_le), filed_counted hf, ?_⟩
  exact execute_setGlobal hg hfree (by decide) hplus fun call =>
    Operation.setIndex_eq (h := h.withCells ds) call rfl _ hsilent

/-- The value comes last among those of its slot, and the call is counted. -/
theorem execute_value (hf : Filed h ks lists calls) (call : Dispatch) {i q : ℕ} {l : List Datum}
    (hi : lists[i]? = some (q, l)) (hv : v.isNil = false) (hsmall : l.length + 1 < 2 ^ 63)
    (trace : Trace) (k s : Datum) (extra : List Datum) :
    ∃ h' ds, SamePrelude h h' ∧ Filed h' ks (lists.set i (q, l ++ [v])) (calls + 1) ∧
      Block.execute call
          [.bind "values" ((Expr.ofName emitsName).item (.ofName "slot")),
            .setIndex (.ofName "values") (plusOne (Expr.ofName "values").length) (.ofName "value"),
            .set emitCountName (plusOne (.ofName emitCountName))]
          (emitEnv trace (own₄ h.cells.size)) atBlockEnd
          (h.withCells ([k, v, s, .int (Int64.ofNat (i + 1))] ++ extra)) =
        .ok .next (h'.withCells ds) := by
  set ds := [k, v, s, .int (Int64.ofNat (i + 1))] ++ extra
  have hitem : ((Expr.ofName emitsName).item (.ofName "slot")).evaluate call
      (emitEnv trace (own₄ h.cells.size)) (h.withCells ds) =
      .ok [(h.table emitsPlace).get (.int (Int64.ofNat (i + 1)))]
        ((h.update emitsPlace fun t => t.touch (.int (Int64.ofNat (i + 1)))).withCells ds) :=
    hf.evaluate_item (by decide) (by simp) rfl rfl (i := 3) rfl rfl
  rw [hf.get_emits hi] at hitem
  have hf₁ := hf.touch (p := emitsPlace) (.inl (by simp)) (.int (Int64.ofNat (i + 1)))
  have hsame₁ : SamePrelude h (h.update emitsPlace fun t => t.touch (.int (Int64.ofNat (i + 1)))) :=
    hf.samePrelude_update (.inl (by simp))
  set h₁ := h.update emitsPlace fun t => t.touch (.int (Int64.ofNat (i + 1)))
  set e := emitEnv trace (("values", h.cells.size + ds.length) :: own₄ h.cells.size)
  have hbind : (Stmt.bind "values" ((Expr.ofName emitsName).item (.ofName "slot"))).execute call
      (emitEnv trace (own₄ h.cells.size)) (h.withCells ds) =
      .ok (.next, e) (h₁.withCells (ds ++ [Datum.table q])) := execute_bind hitem
  obtain ⟨h₂, hcells, hsame₂, hf₂, hpush⟩ := execute_push hf₁ call e (ds ++ [Datum.table q])
    (j := ds.length) (m := 1) hi hv hsmall rfl (by simp) rfl rfl
  have hg : e.Global h₂ := hf₂.wired.sees_emit trace rfl
  obtain ⟨h₃, hsame₃, hf₃, hcount⟩ := execute_count hf₂ call hg rfl rfl (ds ++ [Datum.table q])
  refine ⟨h₃, ds ++ [Datum.table q], hsame₁.trans (hsame₂.trans hsame₃), hf₃, ?_⟩
  exact (execute_cons (by simp [Stmt.bind]) hbind _ _).trans
    ((execute_cons (by simp [Stmt.setIndex]) hpush _ _).trans
      ((execute_cons (by simp [Stmt.set]) hcount _ _).trans rfl))

theorem bindAll_emit (h : Heap) (args : List Datum) :
    Run.bindAll ["key", "value"] args [] h =
      .ok (own₂ h.cells.size) (h.withCells [args.headD .nil, args.tail.headD .nil]) := by
  have hfirst := Run.newCell_local h [] (args.headD .nil)
  have hsecond := Run.newCell_local h [args.headD .nil] (args.tail.headD .nil)
  rw [Heap.withCells_nil] at hfirst
  exact (Run.bind_ok hfirst).trans (Run.bind_ok hsecond)

/-- At first the variables get what the arguments emit, and what stands for the key. -/
theorem Wired.execute_emission (hw : Wired h) (call : Dispatch) (trace : Trace)
    (args : List Datum) (rest : Block) (atEnd : Env → Run Flow) :
    Block.execute call
        (nullIfNil "key" :: nullIfNil "value" :: .bind "slot_key" (.ofName "key") ::
          .when ((Expr.ofName "key").ne (.ofName "key"))
            [.set "slot_key" (.ofName "nan_slot")] :: rest)
        (emitEnv trace (own₂ h.cells.size)) atEnd
        (h.withCells [args.headD .nil, args.tail.headD .nil]) =
      Block.execute call rest (emitEnv trace (own₃ h.cells.size)) atEnd
        (h.withCells [(Emission.ofArgs args).key, (Emission.ofArgs args).value,
          slotKey (Emission.ofArgs args).key]) := by
  set e := Emission.ofArgs args
  set env := emitEnv trace (own₂ h.cells.size)
  have hg : env.Global h := hw.sees_emit trace rfl
  have hnull : (h.table 0).getText "null" = null := hw.global ("null", null) (by decide)
  have hkey : (nullIfNil "key").execute call env
      (h.withCells [args.headD .nil, args.tail.headD .nil]) =
      .ok (.next, env) (h.withCells [e.key, args.tail.headD .nil]) :=
    execute_nullIfNil hnull hg rfl (i := 0) rfl rfl
  have hvalue : (nullIfNil "value").execute call env
      (h.withCells [e.key, args.tail.headD .nil]) =
      .ok (.next, env) (h.withCells [e.key, e.value]) :=
    execute_nullIfNil hnull hg rfl (i := 1) rfl rfl
  have hbind : (Stmt.bind "slot_key" (.ofName "key")).execute call env
      (h.withCells [e.key, e.value]) = .ok (.next, emitEnv trace (own₃ h.cells.size))
        (h.withCells [e.key, e.value, e.key]) :=
    execute_bind (evaluate_local call env 0 (i := 0) rfl rfl)
  calc _ = _ := execute_cons (by simp [nullIfNil, Stmt.when]) hkey _ _
    _ = _ := execute_cons (by simp [nullIfNil, Stmt.when]) hvalue _ _
    _ = _ := execute_cons (by simp [Stmt.bind]) hbind _ _
    _ = _ := execute_cons (by simp [Stmt.when]) (execute_slotKey hw (orNull_isNil _)) _ _

/-- A new slot has no values yet. -/
theorem Opens.length_lt {key : Datum} {ks' : List Datum} {lists' : List (ℕ × List Datum)}
    (hopens : Opens ks lists key ks' lists') (hlists : ∀ l ∈ lists, l.2.length + 1 < 2 ^ 63) :
    ∀ l ∈ lists', l.2.length + 1 < 2 ^ 63 := by
  rcases hopens with ⟨-, -, rfl⟩ | ⟨-, -, p, rfl⟩
  · exact hlists
  · exact List.forall_mem_append.mpr ⟨hlists, List.forall_mem_singleton.mpr (by norm_num)⟩

/-- A call of `emit` files its value under its key, and leaves the prelude as it was. -/
theorem emit_spec (hf : Filed h ks lists calls) {trace : Trace}
    (htrace : trace.hosted < Trace.hostedLimit) (depth : ℕ) (args : List Datum)
    (hkeys : ks.length + 1 < 2 ^ 63) (hlists : ∀ l ∈ lists, l.2.length + 1 < 2 ^ 63) :
    ∃ h' ks' lists' i q l,
      Call.within (depth + 2) trace (.closure emitPlace) args h = .ok [] h' ∧
      Opens ks lists (Emission.ofArgs args).key ks' lists' ∧
      (ks'[i]?).map filedUnder = some (filedUnder (Emission.ofArgs args).key) ∧
      lists'[i]? = some (q, l) ∧
      Filed h' ks' (lists'.set i (q, l ++ [(Emission.ofArgs args).value])) (calls + 1) ∧
      SamePrelude h h' := by
  set e := Emission.ofArgs args
  set call := Call.within (depth + 1)
  obtain ⟨h₁, ks', lists', i, extra, hcells, hsame₁, hf₁, hopens, hi, hslot⟩ :=
    execute_slot hf htrace depth (orNull_isNil _ : e.key.isNil = false) hkeys e.value
      [.bind "values" ((Expr.ofName emitsName).item (.ofName "slot")),
        .setIndex (.ofName "values") (plusOne (Expr.ofName "values").length) (.ofName "value"),
        .set emitCountName (plusOne (.ofName emitCountName))] atBlockEnd
  obtain ⟨⟨q, l⟩, hq⟩ : ∃ l, lists'[i]? = some l := by
    obtain ⟨k, hk, -⟩ := Option.map_eq_some_iff.mp hi
    have hlt := (List.getElem?_eq_some_iff.mp hk).1
    exact ⟨_, List.getElem?_eq_getElem (hf₁.length.symm ▸ hlt)⟩
  obtain ⟨h₂, ds, hsame₂, hf₂, hvalues⟩ := execute_value hf₁ call hq
    (orNull_isNil _ : e.value.isNil = false) (hopens.length_lt hlists _ (List.mem_of_getElem? hq))
    trace e.key (slotKey e.key) extra
  rw [hcells] at hvalues
  have hbody : Block.execute call emitBody (emitEnv trace (own₂ h.cells.size)) atBlockEnd
      (h.withCells [args.headD .nil, args.tail.headD .nil]) = .ok .next (h₂.withCells ds) :=
    (hf.wired.execute_emission call trace args _ _).trans (hslot.trans hvalues)
  refine ⟨h₂.withCells ds, ks', lists', i, q, l, ?_, hopens, hi, hq, ?_, hsame₁.trans hsame₂⟩
  · exact within_closure htrace (depth + 1) hf.wired.emit rfl (bindAll_emit h args) hbody
  · exact hf₂.moved (hf₂.wired.keeps_withCells ds) rfl fun _ _ => .refl _

theorem emit_files (hf : Filed h ks lists calls) {trace : Trace}
    (htrace : trace.hosted < Trace.hostedLimit) (depth : ℕ) (args : List Datum)
    (hkeys : ks.length + 1 < 2 ^ 63) (hlists : ∀ l ∈ lists, l.2.length + 1 < 2 ^ 63) :
    ∃ h' ks' lists' i q l,
      Call.within (depth + 2) trace (.closure emitPlace) args h = .ok [] h' ∧
      Opens ks lists (Emission.ofArgs args).key ks' lists' ∧
      (ks'[i]?).map filedUnder = some (filedUnder (Emission.ofArgs args).key) ∧
      lists'[i]? = some (q, l) ∧
      Filed h' ks' (lists'.set i (q, l ++ [(Emission.ofArgs args).value])) (calls + 1) := by
  obtain ⟨h', ks', lists', i, q, l, hcall, hopens, hi, hq, hf', -⟩ :=
    emit_spec hf htrace depth args hkeys hlists
  exact ⟨h', ks', lists', i, q, l, hcall, hopens, hi, hq, hf'⟩

/-! Any number of calls. -/

/-- A table of the registry: of its keys, slots or lists, or a list of values. -/
def Holds (h : Heap) (p : ℕ) : Prop :=
  p ∈ [keysPlace, slotsPlace, emitsPlace] ∨ ∃ n, (h.table emitsPlace).getKey n = .table p

/-- What happens leaves the registry alone: the tables of the registry hold what they held,
under the names that they had, and so does the count. -/
structure Untouched (h h' : Heap) : Prop extends Keeps h h' where
  count : (h'.table 0).getText emitCountName = (h.table 0).getText emitCountName
  table : ∀ p, Holds h p → (h.table p).Moved (h'.table p)

theorem Filed.untouched (hf : Filed h ks lists calls) (hu : Untouched h h') :
    Filed h' ks lists calls := by
  refine hf.moved hu.toKeeps hu.count fun p hp => hu.table p (hp.imp_right fun hmem => ?_)
  obtain ⟨l, hl, rfl⟩ := List.mem_map.mp hmem
  obtain ⟨i, hi⟩ := List.mem_iff_getElem?.mp hl
  exact ⟨_, hf.get_emits hi⟩

end Registry

open Registry (Filed Opens)

/-- Heaps that are reached from a fresh registry by calls of `emit`, each with room for the calls
that it makes in turn, and by anything between them that leaves the registry alone. -/
inductive Emitted : List Emission → Heap → Prop
  | fresh : Emitted [] Registry.fresh
  | emit {ems : List Emission} {h h' : Heap} {trace : Trace} {depth : ℕ} {args ds : List Datum}
      (prior : Emitted ems h) (htrace : trace.hosted < Trace.hostedLimit)
      (hcall : Call.within (depth + 2) trace (.closure Registry.emitPlace) args h = .ok ds h') :
      Emitted (ems ++ [.ofArgs args]) h'
  | other {ems : List Emission} {h h' : Heap} (prior : Emitted ems h)
      (hsame : Registry.Untouched h h') : Emitted ems h'

/-- The registry holds each emission once. -/
structure Partitioned (h : Heap) (ems : List Emission) : Prop where
  /-- One key for each class, the one that came first. -/
  keys : ∃ p, (h.table Heap.globals).getText keysName = .table p ∧
    (h.table p).Lists (firstKeys ems)
  /-- For each key the values of its class, in a table of their own. -/
  values : ∃ p places, (h.table Heap.globals).getText emitsName = .table p ∧
    (h.table p).Lists (places.map .table) ∧ places.Nodup ∧
    List.Forall₂ (fun q k => (h.table q).Lists (valuesOf k ems)) places (firstKeys ems)
  /-- The counter counts the calls. -/
  count : (h.table Heap.globals).getText emitCountName = .int (Int64.ofNat ems.length)
  /-- No value is lost, and none is there twice. -/
  total : ((firstKeys ems).map fun k => (valuesOf k ems).length).sum = ems.length

variable {ems : List Emission} {h : Heap} {k : Datum}

theorem length_firstKeys_le (ems : List Emission) : (firstKeys ems).length ≤ ems.length := by
  have hsub : (firstKeys ems).map classOf ⊆ ems.map fun e => classOf e.key :=
    fun _ => mem_classes_iff.mp
  have hlength := ((nodup_classes ems).subperm hsub).length_le
  rwa [List.length_map, List.length_map] at hlength

theorem length_valuesOf_le (k : Datum) (ems : List Emission) :
    (valuesOf k ems).length ≤ ems.length := by
  rw [valuesOf, List.length_map]
  exact List.length_filter_le _ _

theorem length_lists_lt {lists : List (ℕ × List Datum)}
    (hlists : lists.map Prod.snd = (firstKeys ems).map fun k => valuesOf k ems)
    (hcount : ems.length + 1 < 2 ^ 63) : ∀ l ∈ lists, l.2.length + 1 < 2 ^ 63 := by
  intro l hl
  have hmem : l.2 ∈ lists.map Prod.snd := List.mem_map_of_mem hl
  rw [hlists] at hmem
  obtain ⟨k, -, heq⟩ := List.mem_map.mp hmem
  have hle := length_valuesOf_le k ems
  rw [heq] at hle
  omega

theorem valuesOf_eq_nil (h : classOf k ∉ (firstKeys ems).map classOf) : valuesOf k ems = [] := by
  rw [valuesOf, List.map_eq_nil_iff, List.filter_eq_nil_iff]
  intro e he heq
  rw [mem_classes_iff] at h
  exact h (List.mem_map.mpr ⟨e, he, by simpa using heq⟩)

/-- One more emission is one more value of its class. -/
theorem map_valuesOf_append {ks : List Datum} (hnodup : (ks.map classOf).Nodup) {i : ℕ}
    {e : Emission} (hi : ks[i]? = some k) (hclass : classOf k = classOf e.key) :
    (ks.map fun k => valuesOf k ems).set i (valuesOf k ems ++ [e.value]) =
      ks.map fun k => valuesOf k (ems ++ [e]) := by
  refine List.ext_getElem? fun j => ?_
  rw [List.getElem?_set, List.getElem?_map, List.getElem?_map]
  split_ifs with hij hlt
  · subst hij
    rw [hi, Option.map_some, valuesOf_append, if_pos hclass.symm]
  · subst hij
    rw [List.length_map] at hlt
    exact absurd (List.getElem?_eq_some_iff.mp hi).1 hlt
  · cases hj : ks[j]? with
    | none => rfl
    | some k' =>
      rw [Option.map_some, Option.map_some, valuesOf_append, if_neg]
      intro heq
      obtain ⟨hilt, hi⟩ := List.getElem?_eq_some_iff.mp hi
      obtain ⟨hjlt, hj⟩ := List.getElem?_eq_some_iff.mp hj
      have hilt' : i < (ks.map classOf).length := by rwa [List.length_map]
      have hjlt' : j < (ks.map classOf).length := by rwa [List.length_map]
      have hsame : (ks.map classOf)[i] = (ks.map classOf)[j] := by
        rw [List.getElem_map, List.getElem_map, hi, hj, hclass, heq]
      exact hij (hnodup.getElem_inj_iff.mp hsame)

theorem filedUnder_mem_iff {ks : List Datum} {key : Datum}
    (hks : ∀ k ∈ ks, k ≠ .table nanPlace) (hkey : key ≠ .table nanPlace) :
    filedUnder key ∈ ks.map filedUnder ↔ classOf key ∈ ks.map classOf := by
  rw [List.mem_map, List.mem_map]
  exact exists_congr fun k => and_congr_right fun hk => filedUnder_eq_iff (hks k hk) hkey

/-- A registry that an emission opens has the keys of all emissions, and no value of the last
one yet. -/
theorem opens_firstKeys {ks' : List Datum} {lists lists' : List (ℕ × List Datum)} {e : Emission}
    (hkeys : ∀ e ∈ ems, e.key ≠ .table nanPlace) (hkey : e.key ≠ .table nanPlace)
    (hlists : lists.map Prod.snd = (firstKeys ems).map fun k => valuesOf k ems)
    (hopens : Opens (firstKeys ems) lists e.key ks' lists') :
    ks' = firstKeys (ems ++ [e]) ∧
      lists'.map Prod.snd = (firstKeys (ems ++ [e])).map fun k => valuesOf k ems := by
  have hfirst : ∀ k ∈ firstKeys ems, k ≠ .table nanPlace := by
    intro k hk
    obtain ⟨e, he, rfl⟩ := exists_of_mem_firstKeys hk
    exact hkeys e he
  rw [firstKeys_append]
  rcases hopens with ⟨hmem, rfl, rfl⟩ | ⟨hnew, rfl, p, rfl⟩
  · rw [filedUnder_mem_iff hfirst hkey] at hmem
    rw [if_pos hmem]
    exact ⟨rfl, hlists⟩
  · rw [filedUnder_mem_iff hfirst hkey] at hnew
    rw [if_neg hnew]
    refine ⟨rfl, ?_⟩
    rw [List.map_append, List.map_append, hlists, List.map_singleton, List.map_singleton,
      valuesOf_eq_nil hnew]

/-- What a reached heap has filed. -/
theorem Emitted.filed (hrun : Emitted ems h) (hkeys : ∀ e ∈ ems, e.key ≠ .table nanPlace)
    (hcount : ems.length < 2 ^ 63) :
    ∃ lists, Filed h (firstKeys ems) lists ems.length ∧
      lists.map Prod.snd = (firstKeys ems).map fun k => valuesOf k ems := by
  induction hrun with
  | fresh => exact ⟨[], Registry.filed_fresh, rfl⟩
  | @emit ems h h' trace depth args ds prior htrace hcall ih =>
    rw [List.length_append, List.length_singleton] at hcount ⊢
    rw [List.forall_mem_append, List.forall_mem_singleton] at hkeys
    obtain ⟨lists, hf, hlists⟩ := ih hkeys.1 (by omega)
    obtain ⟨h₁, ks', lists', i, q, l, hrun, hopens, hi, hq, hf₁⟩ := Registry.emit_files hf htrace
      depth args (lt_of_le_of_lt (Nat.succ_le_succ (length_firstKeys_le ems)) hcount)
      (length_lists_lt hlists hcount)
    rw [hcall] at hrun
    obtain ⟨rfl, rfl⟩ := EStateM.Result.ok.inj hrun
    obtain ⟨rfl, hlists'⟩ := opens_firstKeys hkeys.1 hkeys.2 hlists hopens
    refine ⟨_, hf₁, ?_⟩
    obtain ⟨k, hk, hsame⟩ := Option.map_eq_some_iff.mp hi
    have hkey : k ≠ .table nanPlace := by
      obtain ⟨e, he, rfl⟩ := exists_of_mem_firstKeys (List.mem_of_getElem? hk)
      rcases List.mem_append.mp he with he | he
      · exact hkeys.1 e he
      · rw [List.mem_singleton.mp he]
        exact hkeys.2
    have hl : l = valuesOf k ems := by
      have hget := congrArg (·[i]?) hlists'
      simpa [hq, hk] using hget
    rw [List.map_set, hlists', hl]
    exact map_valuesOf_append (nodup_classes _) hk ((filedUnder_eq_iff hkey hkeys.2).mp hsame)
  | other prior hsame ih =>
    obtain ⟨lists, hf, hlists⟩ := ih hkeys hcount
    exact ⟨lists, hf.untouched hsame, hlists⟩

/-- Calls of `emit` return, and partition their emissions by the classes of keys: the registry
holds the first key of each class, the values of each class, and how many there were, as long as
no key is the table that stands for NaN and the counter reaches. -/
theorem emissions_partitioned (hrun : Emitted ems h) (hkeys : ∀ e ∈ ems, e.key ≠ .table nanPlace)
    (hcount : ems.length < 2 ^ 63) :
    Partitioned h ems ∧
      ∀ (trace : Trace) (depth : ℕ) (args : List Datum), trace.hosted < Trace.hostedLimit →
        ems.length + 1 < 2 ^ 63 → ∃ h', Call.within (depth + 2) trace
          (.closure Registry.emitPlace) args h = .ok [] h' := by
  obtain ⟨lists, hf, hlists⟩ := hrun.filed hkeys hcount
  have hw := hf.wired
  constructor
  · refine ⟨⟨Registry.keysPlace, hw.global (_, _) (by decide), hf.keys⟩,
      ⟨Registry.emitsPlace, lists.map Prod.fst, hw.global (_, _) (by decide), ?_, hf.nodup, ?_⟩,
      hf.count, sum_length_valuesOf ems⟩
    · rw [List.map_map]
      exact hf.emits
    · have hequal : List.Forall₂ (fun l k => l.2 = valuesOf k ems) lists (firstKeys ems) := by
        rw [← List.forall₂_map_right_iff, ← List.forall₂_map_left_iff, hlists]
        exact List.forall₂_refl _
      rw [List.forall₂_iff_zip] at hequal
      rw [List.forall₂_map_left_iff, List.forall₂_iff_zip]
      refine ⟨hequal.1, fun {l k} hmem => ?_⟩
      rw [← hequal.2 hmem]
      exact hf.values l (List.of_mem_zip hmem).1
  · intro trace depth args htrace hmore
    obtain ⟨h', -, -, -, -, -, hrun, -⟩ := Registry.emit_files hf htrace depth args
      (lt_of_le_of_lt (Nat.succ_le_succ (length_firstKeys_le ems)) hmore)
      (length_lists_lt hlists hmore)
    exact ⟨h', hrun⟩

/-- Calls under one number in two kinds, under NaN and without a key. -/
def sample : List Emission :=
  [[.int 1, .int 10], [.double .nan, .int 20], [.double (.ofInt 1), .int 30], []].map .ofArgs

theorem emissions_partitioned_sample :
    (∃ h, Emitted sample h ∧ Partitioned h sample) ∧
      firstKeys sample = [.int 1, .double .nan, null] ∧
      valuesOf (.int 1) sample = [.int 10, .int 30] := by
  refine ⟨?_, by decide +kernel, by decide +kernel⟩
  have hstep {ems : List Emission} {h : Heap} (hrun : Emitted ems h)
      (hkeys : ∀ e ∈ ems, e.key ≠ .table nanPlace) (hlength : ems.length < 4)
      (args : List Datum) : ∃ h', Emitted (ems ++ [Emission.ofArgs args]) h' := by
    obtain ⟨h', hcall⟩ := (emissions_partitioned hrun hkeys (by omega)).2 .start 0 args (by decide)
      (by omega)
    exact ⟨h', .emit hrun (by decide) hcall⟩
  obtain ⟨h₁, hrun₁⟩ := hstep .fresh (by simp) (by decide) [.int 1, .int 10]
  obtain ⟨h₂, hrun₂⟩ := hstep hrun₁ (by decide) (by decide) [.double .nan, .int 20]
  obtain ⟨h₃, hrun₃⟩ := hstep hrun₂ (by decide +kernel) (by decide) [.double (.ofInt 1), .int 30]
  obtain ⟨h₄, hrun₄⟩ := hstep hrun₃ (by decide +kernel) (by decide) []
  exact ⟨h₄, hrun₄, (emissions_partitioned hrun₄ (by decide +kernel) (by decide)).1⟩

/-- The table that stands for NaN can be emitted itself: a script finds it among the keys of the
slots. It is filed with NaN then. -/
theorem emissions_misfiled :
    ¬∀ (ems : List Emission) (h : Heap), Emitted ems h → ems.length < 2 ^ 63 →
      Partitioned h ems := by
  intro hall
  have htrace : Trace.start.hosted < Trace.hostedLimit := by decide
  obtain ⟨h₁, -, -, -, -, -, hcall₁, -⟩ := Registry.emit_files Registry.filed_fresh htrace 0
    [.double .nan, .int 1] (by decide) (by simp)
  have hrun₁ : Emitted [⟨.double .nan, .int 1⟩] h₁ := .emit .fresh htrace hcall₁
  obtain ⟨lists, hf, hlists⟩ := hrun₁.filed (by decide) (by decide)
  obtain ⟨h₂, ks, _, _, _, _, hcall₂, hopens, _, _, hf₂⟩ := Registry.emit_files hf htrace 0
    [.table nanPlace, .int 2] (by decide +kernel) (length_lists_lt hlists (by decide))
  have hrun₂ : Emitted [⟨.double .nan, .int 1⟩, ⟨.table nanPlace, .int 2⟩] h₂ :=
    .emit hrun₁ htrace hcall₂
  -- The registry knows the second key as NaN.
  obtain rfl : ks = [.double .nan] := by
    rcases hopens with ⟨-, hks, -⟩ | ⟨hnew, -⟩
    · exact hks
    · exact absurd (by decide +kernel) hnew
  obtain ⟨p, hname, hkeys⟩ := (hall _ h₂ hrun₂ (by decide)).keys
  have hplace := hf₂.wired.global (keysName, .table Registry.keysPlace) (by decide)
  obtain rfl : p = Registry.keysPlace := Datum.table.inj (hname.symm.trans hplace)
  have hlength := hkeys.findBorder.1.symm.trans hf₂.keys.findBorder.1
  exact absurd hlength (by decide +kernel)

end Docbase.MapReduce
