import Docbase.Proofs.MapReduce.Grouping
import Docbase.Proofs.MapReduce.Partition
import Docbase.Proofs.Script.Meaning

/-!
Runs of `emit` with plain keys. The registry gives keys of one class one slot, and what the
globals give back of its keys are their values.
-/
namespace Docbase.MapReduce

open Docbase.Script
open Registry (Filed SamePrelude Untouched nanPlace)

/-! Null as a value. -/

/-- The table of null is told by its name. -/
structure NamesNull (h : Heap) : Prop where
  metatable : (h.table 6).metatable = some 7
  name : (h.table 7).getText "__name" = .ofText "null"

variable {h h' : Heap} {ems : List Emission} {k : Datum}

theorem NamesNull.samePrelude (hn : NamesNull h) (hs : SamePrelude h h') : NamesNull h' where
  metatable := (congrArg Table.metatable (hs 6 (by decide) (by decide))).trans hn.metatable
  name := (congrArg (Table.getText · "__name") (hs 7 (by decide) (by decide))).trans hn.name

theorem namesNull_fresh : NamesNull Registry.fresh := by
  have hfresh : (Registry.fresh.table 6).metatable = some 7 ∧
      (Registry.fresh.table 7).getText "__name" = .ofText "null" := by
    decide +kernel
  exact ⟨hfresh.1, hfresh.2⟩

/-- Plain keys become their values wherever null has its name. -/
theorem ofDatum_plain (hn : NamesNull h) (hk : IsPlain k) (levels : ℕ) :
    Materialize.ofDatum h (levels + 1) k = .ok (plainValue k) := by
  cases hk with
  | boolean | int | double | text => rfl
  | null =>
    refine (ofDatum_table h levels 6).trans ?_
    rw [hn.metatable]
    exact tagged_null _ _ _ _ hn.name

/-! The runs. -/

/-- Heaps that are reached from a fresh registry by calls of `emit`, and by anything between them
that leaves the registry and null alone. -/
inductive Undisturbed : List Emission → Heap → Prop
  | fresh : Undisturbed [] Registry.fresh
  | emit {ems : List Emission} {h h' : Heap} {trace : Trace} {depth : ℕ} {args ds : List Datum}
      (prior : Undisturbed ems h) (htrace : trace.hosted < Trace.hostedLimit)
      (hcall : Call.within (depth + 2) trace (.closure Registry.emitPlace) args h = .ok ds h') :
      Undisturbed (ems ++ [.ofArgs args]) h'
  | other {ems : List Emission} {h h' : Heap} (prior : Undisturbed ems h)
      (hsame : Untouched h h') (hnull : NamesNull h') : Undisturbed ems h'

theorem Undisturbed.emitted (hrun : Undisturbed ems h) : Emitted ems h := by
  induction hrun with
  | fresh => exact .fresh
  | emit _ htrace hcall ih => exact .emit ih htrace hcall
  | other _ hsame _ ih => exact .other ih hsame

theorem IsPlain.ne_nan (hk : IsPlain k) : k ≠ .table nanPlace := by
  cases hk with
  | null => decide
  | _ => exact nofun

theorem Undisturbed.namesNull (hrun : Undisturbed ems h) (hplain : ∀ e ∈ ems, IsPlain e.key)
    (hcount : ems.length < 2 ^ 63) : NamesNull h := by
  induction hrun with
  | fresh => exact namesNull_fresh
  | @emit ems h h' trace depth args ds prior htrace hcall ih =>
    rw [List.length_append, List.length_singleton] at hcount
    rw [List.forall_mem_append] at hplain
    obtain ⟨lists, hf, hlists⟩ :=
      prior.emitted.filed (fun e he => (hplain.1 e he).ne_nan) (by omega)
    obtain ⟨h₁, -, -, -, -, -, hrun, -, -, -, -, hsame⟩ := Registry.emit_spec hf htrace depth args
      (lt_of_le_of_lt (Nat.succ_le_succ (length_firstKeys_le ems)) hcount)
      (length_lists_lt hlists hcount)
    rw [hcall] at hrun
    obtain ⟨-, rfl⟩ := EStateM.Result.ok.inj hrun
    exact (ih hplain.1 (by omega)).samePrelude hsame
  | other _ _ hnull => exact hnull

/-- Any calls can follow one another. -/
theorem exists_undisturbed (calls : List (List Datum)) (hcount : calls.length < 2 ^ 63)
    (hplain : ∀ e ∈ calls.map Emission.ofArgs, IsPlain e.key) :
    ∃ h, Undisturbed (calls.map .ofArgs) h := by
  induction calls using List.reverseRecOn with
  | nil => exact ⟨Registry.fresh, .fresh⟩
  | append_singleton calls args ih =>
    rw [List.length_append, List.length_singleton] at hcount
    rw [List.map_append, List.forall_mem_append] at hplain
    obtain ⟨h, hrun⟩ := ih (by omega) hplain.1
    have hcount' : (calls.map Emission.ofArgs).length + 1 < 2 ^ 63 := by rwa [List.length_map]
    have htrace : Trace.start.hosted < Trace.hostedLimit := by decide
    obtain ⟨lists, hf, hlists⟩ :=
      hrun.emitted.filed (fun e he => (hplain.1 e he).ne_nan) (by omega)
    obtain ⟨h', -, -, -, -, -, hcall, -⟩ := Registry.emit_spec hf htrace 0 args
      (lt_of_le_of_lt (Nat.succ_le_succ (length_firstKeys_le _)) hcount')
      (length_lists_lt hlists hcount')
    rw [List.map_append]
    exact ⟨h', hrun.emit htrace hcall⟩

/-! Groups. -/

/-- The slot in which a key is filed. -/
def slotOf (h : Heap) (key : Datum) : Datum := (h.table Registry.slotsPlace).get (slotKey key)

/-- Emitted keys have one slot exactly if they are of one class. -/
theorem slotOf_eq_iff {lists : List (ℕ × List Datum)}
    (hf : Filed h (firstKeys ems) lists ems.length)
    (hkeys : ∀ e ∈ ems, e.key ≠ .table nanPlace) (hcount : ems.length < 2 ^ 63) {e e' : Emission}
    (he : e ∈ ems) (he' : e' ∈ ems) :
    slotOf h e.key = slotOf h e'.key ↔ classOf e.key = classOf e'.key := by
  have hslot {e : Emission} (he : e ∈ ems) : ∃ i k, (firstKeys ems)[i]? = some k ∧
      classOf k = classOf e.key ∧ slotOf h e.key = .int (Int64.ofNat (i + 1)) := by
    have hmem : classOf e.key ∈ (firstKeys ems).map classOf :=
      mem_classes_iff.mpr (List.mem_map_of_mem he)
    obtain ⟨k, hk, hclass⟩ := List.mem_map.mp hmem
    obtain ⟨i, hi⟩ := List.mem_iff_getElem?.mp hk
    obtain ⟨e₀, he₀, rfl⟩ := exists_of_mem_firstKeys hk
    refine ⟨i, e₀.key, hi, hclass, ?_⟩
    rw [← hf.known i _ hi, (filedUnder_eq_iff (hkeys e₀ he₀) (hkeys e he)).mpr hclass]
    rfl
  constructor
  · intro h
    obtain ⟨i, k, hi, hclass, hvalue⟩ := hslot he
    obtain ⟨j, l, hj, hclass', hvalue'⟩ := hslot he'
    have hsmall := length_firstKeys_le ems
    have hilt := (List.getElem?_eq_some_iff.mp hi).1
    have hjlt := (List.getElem?_eq_some_iff.mp hj).1
    rw [hvalue, hvalue', Datum.int.injEq] at h
    have hij : i = j := by
      have hto := congrArg Int64.toInt h
      rw [Int64.toInt_ofNat_of_lt (by omega), Int64.toInt_ofNat_of_lt (by omega)] at hto
      omega
    subst hij
    rw [← hclass, ← hclass', Option.some_inj.mp (hi.symm.trans hj)]
  · intro hclass
    have hfiled := (filedUnder_eq_iff (hkeys e he) (hkeys e' he')).mpr hclass
    exact congrArg (h.table Registry.slotsPlace).getKey hfiled

/-- Emitted plain keys have one slot exactly if their values are equal, unless they are joined or
parted. -/
theorem Undisturbed.groups (hrun : Undisturbed ems h) (hplain : ∀ e ∈ ems, IsPlain e.key)
    (hcount : ems.length < 2 ^ 63) {e e' : Emission} (he : e ∈ ems) (he' : e' ∈ ems) :
    ∃ v v', h.valueOf e.key = .ok v ∧ h.valueOf e'.key = .ok v' ∧
      (slotOf h e.key = slotOf h e'.key ∧ v.equal v' = false ↔ Joined e.key e'.key) ∧
      (slotOf h e.key ≠ slotOf h e'.key ∧ v.equal v' = true ↔ Parted e.key e'.key) := by
  have hnull := hrun.namesNull hplain hcount
  have hkeys : ∀ e ∈ ems, e.key ≠ .table nanPlace := fun e he => (hplain e he).ne_nan
  obtain ⟨lists, hf, -⟩ := hrun.emitted.filed hkeys hcount
  obtain ⟨hjoined, hparted⟩ := plain_keys (hplain e he) (hplain e' he')
  refine ⟨plainValue e.key, plainValue e'.key, ofDatum_plain hnull (hplain e he) _,
    ofDatum_plain hnull (hplain e' he') _, ?_, ?_⟩
  · rw [slotOf_eq_iff hf hkeys hcount he he', ← Bool.not_eq_true, ← plainKey_eq_iff]
    exact hjoined
  · rw [Ne, slotOf_eq_iff hf hkeys hcount he he', ← plainKey_eq_iff]
    exact hparted

/-! The keys as values. -/

/-- What follows never gives a result. -/
theorem bind_ne_ok {ε α β : Type} {x : Except ε α} {f : α → Except ε β} {b : β}
    (h : ∀ a, f a ≠ .ok b) : x.bind f ≠ .ok b := by
  cases x with
  | error e => exact nofun
  | ok a => exact h a

theorem objectId_ne_array (s : String) (items : List Value) :
    Materialize.objectId s ≠ .ok (.array items) := by
  unfold Materialize.objectId
  dsimp only
  split_ifs
  · exact nofun
  · split
    · exact nofun
    · split <;> exact nofun

theorem document_ne_array (value : Datum → Except Unconvertible Value) (t : Table)
    (order : Option Table) (items : List Value) :
    Materialize.document value t order ≠ .ok (.array items) := by
  cases order with
  | none =>
    refine bind_ne_ok fun fields => bind_ne_ok fun doc => ?_
    exact nofun
  | some order =>
    refine bind_ne_ok fun ordered => bind_ne_ok fun fields => bind_ne_ok fun doc => ?_
    exact nofun

theorem untagged_eq_array {value : Datum → Except Unconvertible Value} {t : Table}
    {items : List Value} (hvalue : Materialize.untagged value t = .ok (.array items)) :
    Materialize.sequence value t t.border = .ok (.array items) := by
  delta Materialize.untagged at hvalue
  dsimp only at hvalue
  split_ifs at hvalue
  · exact hvalue
  · exact absurd hvalue (document_ne_array value t none items)

/-- A table that becomes an array is a sequence, whatever it is named. -/
theorem tagged_eq_array {value : Datum → Except Unconvertible Value} {t metatable : Table}
    {items : List Value} (hvalue : Materialize.tagged value h t metatable = .ok (.array items)) :
    Materialize.sequence value t t.border = .ok (.array items) := by
  delta Materialize.tagged at hvalue
  cases hname : Materialize.text? (metatable.getText "__name") with
  | error e =>
    rw [hname] at hvalue
    cases hvalue
  | ok name =>
    rw [hname] at hvalue
    change Except.bind _ _ = _ at hvalue
    rw [Except.bind] at hvalue
    -- the cases are the names in the order in which they are looked for
    split at hvalue
    case h_1 | h_2 | h_3 => cases hvalue
    case h_4 =>
      refine absurd hvalue (bind_ne_ok fun n => ?_)
      exact nofun
    case h_5 => exact absurd hvalue (bind_ne_ok fun hex => objectId_ne_array hex items)
    case h_6 =>
      refine absurd hvalue (bind_ne_ok fun pattern => bind_ne_ok fun options => ?_)
      exact nofun
    case h_7 =>
      refine absurd hvalue (bind_ne_ok fun subtype => ?_)
      split_ifs
      · exact nofun
      · split <;> exact nofun
    case h_8 =>
      refine absurd hvalue (bind_ne_ok fun collection => bind_ne_ok fun database =>
        bind_ne_ok fun id => ?_)
      exact nofun
    case h_9 => exact hvalue
    case h_10 =>
      split at hvalue
      · exact absurd hvalue (document_ne_array value t none items)
      · exact absurd hvalue (document_ne_array value t (some _) items)
      · cases hvalue
    case h_11 => exact untagged_eq_array hvalue

/-- The elements of a list of plain keys. -/
theorem sequence_plain (hn : NamesNull h) {t : Table} {ks : List Datum} (ht : t.Lists ks)
    (hks : ∀ k ∈ ks, IsPlain k) (levels : ℕ) :
    Materialize.sequence (Materialize.ofDatum h (levels + 1)) t t.border =
      .ok (.array (ks.map plainValue)) := by
  have hslots : (List.range ks.length).map (fun (i : ℕ) => t.getInt (i + 1)) = ks := by
    refine List.ext_getElem (by simp) fun i hi hi' => ?_
    rw [List.getElem_map, List.getElem_range]
    exact ht.getInt_of_lt hi'
  have hvalues : ks.mapM (Materialize.ofDatum h (levels + 1)) = .ok (ks.map plainValue) := by
    clear ht hslots
    induction ks with
    | nil => rfl
    | cons k ks ih =>
      obtain ⟨hk, hks⟩ := List.forall_mem_cons.mp hks
      rw [List.mapM_cons, ofDatum_plain hn hk, ih hks]
      rfl
  have hmap : (List.range ks.length).mapM (fun (i : ℕ) =>
      Materialize.ofDatum h (levels + 1) (t.getInt (i + 1))) = .ok (ks.map plainValue) := by
    rw [← hvalues, ← hslots, List.mapM_map]
    rw [hslots]
    rfl
  rw [Materialize.sequence, show t.border = ks.length from ht.findBorder.1, hmap]
  rfl

/-- Where the registry's keys become an array, its items are the values of the first keys. -/
theorem Undisturbed.valueOf_keys (hrun : Undisturbed ems h) (hplain : ∀ e ∈ ems, IsPlain e.key)
    (hcount : ems.length < 2 ^ 63) {items : List Value}
    (hvalue : h.valueOf (.table Registry.keysPlace) = .ok (.array items)) :
    items = (firstKeys ems).map plainValue := by
  obtain ⟨lists, hf, -⟩ := hrun.emitted.filed (fun e he => (hplain e he).ne_nan) hcount
  have hmeta : (h.table Registry.keysPlace).metatable = some Registry.arrayType :=
    hf.wired.metatable (Registry.keysPlace, some Registry.arrayType) (by decide)
  -- one of the hundred levels that tables may nest is that of the list itself
  replace hvalue := (ofDatum_table h 99 Registry.keysPlace).symm.trans hvalue
  rw [hmeta] at hvalue
  have hfirst : ∀ k ∈ firstKeys ems, IsPlain k := by
    intro k hk
    obtain ⟨e, he, rfl⟩ := exists_of_mem_firstKeys hk
    exact hplain e he
  have hsequence := sequence_plain (hrun.namesNull hplain hcount) hf.keys hfirst 98
  exact Value.array.inj (Except.ok.inj ((tagged_eq_array hvalue).symm.trans hsequence))

/-- The array that the globals give back for the registry's keys. -/
theorem Undisturbed.global_keys (hrun : Undisturbed ems h) (hplain : ∀ e ∈ ems, IsPlain e.key)
    (hcount : ems.length < 2 ^ 63) {items : List Value} {scope : Scope}
    (hread : Scope.global keysName ⟨h⟩ = .ok (.array items) scope) :
    items = (firstKeys ems).map plainValue := by
  obtain ⟨lists, hf, -⟩ := hrun.emitted.filed (fun e he => (hplain e he).ne_nan) hcount
  have hglobal : (h.table 0).getText keysName = .table Registry.keysPlace :=
    hf.wired.global (keysName, _) (by decide)
  have hindex : Operation.index call (.table Heap.globals) (.ofText keysName) h =
      .ok (.table Registry.keysPlace) h := Operation.index_table call hglobal rfl
  have hdatum : Scope.readGlobal keysName ⟨h⟩ = .ok (.table Registry.keysPlace) ⟨h⟩ := by
    rw [Scope.readGlobal, Scope.run, hindex]
  have hvalue : Scope.global keysName ⟨h⟩ = Scope.value (.table Registry.keysPlace) ⟨h⟩ :=
    Run.bind_ok hdatum
  rw [hvalue, Scope.value] at hread
  cases hkeys : h.valueOf (.table Registry.keysPlace) with
  | error cause => simp [hkeys] at hread
  | ok v =>
    rw [hkeys] at hread
    obtain ⟨rfl, -⟩ := EStateM.Result.ok.inj hread
    exact hrun.valueOf_keys hplain hcount hkeys

end Docbase.MapReduce
