import Docbase.Proofs.MapReduce.Orderly

/-!
Jobs that go on emitting. The function `emit` and its registry stay where they are once the
documents are mapped, so what the other functions emit is filed like all else: it comes behind
the values that a later call of the reduce function gets, and it is counted.
-/
namespace Docbase.MapReduce

open Docbase.Script
open Registry (Filed Keeps Untouched Holds nanPlace keysPlace slotsPlace emitsPlace reducedPlace
  arrayType)

variable {ks : List Datum} {lists : List (ℕ × List Datum)} {calls : ℕ} {h h' h'' : Heap}

/-! What leaves the registry alone. -/

namespace Registry

/-- Tables that are only looked at, and new variables. -/
theorem untouched_of_moved (hsize : h'.tables.size = h.tables.size)
    (hcells : h.cells.size ≤ h'.cells.size) (hcell : ∀ c ∈ cells, h'.cell c.1 = h.cell c.1)
    (hclosures : h'.closures = h.closures) (hmoved : ∀ q, (h.table q).Moved (h'.table q)) :
    Untouched h h' where
  tables_le := hsize.ge
  cells_le := hcells
  globals_valid := (hmoved 0).valid
  global _ _ := (hmoved 0).getKey _
  metatable m _ := (hmoved m.1).metatable
  array := (hmoved 21).getKey _
  silent _ _ := (hmoved arrayType).getKey _
  cell := hcell
  closure q _ := by rw [Heap.closure, Heap.closure, hclosures]
  count := (hmoved 0).getKey _
  table q _ := hmoved q

theorem Wired.cell_withCells (hw : Wired h) (ds : List Datum) :
    ∀ c ∈ cells, (h.withCells ds).cell c.1 = h.cell c.1 :=
  (hw.keeps_withCells ds).cell

theorem Wired.untouched_withCells (hw : Wired h) (ds : List Datum) :
    Untouched h (h.withCells ds) :=
  untouched_of_moved rfl (by simp [Heap.withCells]) (hw.cell_withCells ds) rfl fun _ => .refl _

/-- The lists of the values are behind the tables that the registry started with. -/
theorem Filed.not_holds (hf : Filed h ks lists calls) {q : ℕ} (hq : q < 29)
    (hpart : q ∉ [keysPlace, slotsPlace, emitsPlace]) : ¬Holds h q := by
  rintro (hmem | ⟨n, hn⟩)
  · exact hpart hmem
  · obtain ⟨l, hl, hplace⟩ := List.mem_map.mp (hf.emits.mem_of_getKey hn rfl)
    obtain rfl := Datum.table.inj hplace
    have hlow := (hf.place l hl).1
    omega

/-- A result is filed. -/
theorem Filed.untouched_reduced (hf : Filed h ks lists calls) (key d : Datum) :
    Untouched h (h.update reducedPlace fun t => t.set key d) := by
  have hlt : reducedPlace < h.tables.size :=
    Nat.lt_of_lt_of_le (by decide) hf.wired.tables_le
  have hother (q : ℕ) (hq : q ≠ reducedPlace) :
      (h.update reducedPlace fun t => t.set key d).table q = h.table q :=
    (Heap.table_update hlt q).trans (if_neg hq)
  have hapart : ∀ q ∈ [keysPlace, slotsPlace, emitsPlace], q ≠ reducedPlace := by decide
  refine ⟨.of_tables (Heap.size_update _ _ _).ge rfl rfl (fun q hq => hother q ?_)
    fun q hq => by rw [hother q (hapart q hq)], by rw [hother 0 (by decide)], fun q hq => ?_⟩
  · have hplace : keysPlace < reducedPlace := by decide
    omega
  · have hne : q ≠ reducedPlace := by
      rintro rfl
      exact hf.not_holds (by decide) (by decide) hq
    rw [hother q hne]
    exact .refl _

/-- A global is set that `emit` does not read. -/
theorem Filed.untouched_global (hf : Filed h ks lists calls) {x : String}
    (hx : x ∉ emitCountName :: globals.map Prod.fst) (d : Datum) :
    Untouched h (h.update 0 fun t => t.set (.ofText x) d) := by
  set h' := h.update 0 fun t => t.set (.ofText x) d
  have hlt : 0 < h.tables.size := Nat.lt_of_lt_of_le (by decide) hf.wired.tables_le
  have hvalid := hf.wired.globals_valid
  have hself : h'.table 0 = (h.table 0).set (.ofText x) d :=
    (Heap.table_update hlt 0).trans (if_pos rfl)
  have hother (q : ℕ) (hq : q ≠ 0) : h'.table q = h.table q :=
    (Heap.table_update hlt q).trans (if_neg hq)
  have hget (y : String) (hy : y ∈ emitCountName :: globals.map Prod.fst) :
      (h'.table 0).getText y = (h.table 0).getText y := by
    rw [hself, getText_set hvalid, if_neg]
    rintro rfl
    exact hx hy
  refine ⟨⟨(Heap.size_update _ _ _).ge, le_rfl, fun _ => ?_, fun g hg => ?_, fun m _ => ?_, ?_,
    fun y _ => ?_, fun _ _ => rfl, fun _ _ => rfl⟩, hget _ List.mem_cons_self, fun q hq => ?_⟩
  · rw [hself]
    exact (Table.setKey_spec hvalid _ _).1
  · exact hget g.1 (List.mem_cons_of_mem _ (List.mem_map_of_mem hg))
  · by_cases hzero : m.1 = 0
    · rw [hzero, hself, set_metatable]
    · rw [hother _ hzero]
  · rw [hother 21 (by decide)]
  · rw [hother arrayType (by decide)]
  · have hne : q ≠ 0 := by
      rintro rfl
      exact hf.not_holds (by decide) (by decide) hq
    rw [hother q hne]
    exact .refl _

end Registry

/-! Emissions between two heaps. -/

/-- What happens between two heaps are calls of `emit`, and what leaves the registry alone. -/
inductive Emits (h : Heap) : List Emission → Heap → Prop
  | none : Emits h [] h
  | emit {more : List Emission} {h₁ h₂ : Heap} {trace : Trace} {depth : ℕ} {args ds : List Datum}
    (prior : Emits h more h₁) (htrace : trace.hosted < Trace.hostedLimit)
    (hcall : Call.within (depth + 2) trace (.closure Registry.emitPlace) args h₁ = .ok ds h₂) :
    Emits h (more ++ [.ofArgs args]) h₂
  | other {more : List Emission} {h₁ h₂ : Heap} (prior : Emits h more h₁)
    (hsame : Untouched h₁ h₂) : Emits h more h₂

theorem Emitted.append {ems more : List Emission} (hrun : Emitted ems h) (hmore : Emits h more h') :
    Emitted (ems ++ more) h' := by
  induction hmore with
  | none => rwa [List.append_nil]
  | emit _ htrace hcall ih =>
    rw [← List.append_assoc]
    exact .emit ih htrace hcall
  | other _ hsame ih => exact .other ih hsame

/-- The keys so far stay where they are. -/
theorem firstKeys_initial (ems more : List Emission) :
    firstKeys ems <+: firstKeys (ems ++ more) := by
  induction more using List.reverseRecOn with
  | nil => rw [List.append_nil]
  | append_singleton more e ih =>
    rw [← List.append_assoc, firstKeys_append]
    split_ifs
    · exact ih
    · exact ih.trans (List.prefix_append _ _)

/-- The values so far are followed by the others. -/
theorem valuesOf_append_list (k : Datum) (ems more : List Emission) :
    valuesOf k (ems ++ more) = valuesOf k ems ++ valuesOf k more := by
  rw [valuesOf, List.filter_append, List.map_append]
  rfl

/-- Emissions that the registry takes: none of them is under the table that stands for NaN, and
the counter reaches. -/
structure Fits (ems : List Emission) : Prop where
  few : ems.length < 2 ^ 63
  keys : ∀ e ∈ ems, e.key ≠ .table nanPlace

theorem Fits.initial {ems ems' : List Emission} (hfits : Fits ems') (hinitial : ems <+: ems') :
    Fits ems where
  few := hinitial.length_le.trans_lt hfits.few
  keys e he := hfits.keys e (hinitial.subset he)

/-- The emissions of the first calls of a phase. -/
def emittedBy (more : ℕ → List Emission) (n : ℕ) : List Emission := (List.range n).flatMap more

theorem emittedBy_succ (more : ℕ → List Emission) (n : ℕ) :
    emittedBy more (n + 1) = emittedBy more n ++ more n := by
  rw [emittedBy, List.range_succ, List.flatMap_append, List.flatMap_singleton]
  rfl

theorem emittedBy_initial (more : ℕ → List Emission) {i n : ℕ} (hle : i ≤ n) :
    emittedBy more i <+: emittedBy more n := by
  induction hle with
  | refl => exact List.prefix_rfl
  | step _ ih =>
    rw [emittedBy_succ]
    exact ih.trans (List.prefix_append _ _)

/-! Phases. -/

/-- What happens leaves alone what a phase needs beside the registry: the other globals of the job,
that results can be filed, and the variables. -/
structure KeepsAside (h h' : Heap) : Prop where
  global : ∀ x ∈ [reducedName, reduceName, finalizeName],
    (h'.table 0).getText x = (h.table 0).getText x
  array : (h'.table reducedPlace).metatable = (h.table reducedPlace).metatable
  cells_le : h.cells.size ≤ h'.cells.size

/-- A heap that emissions lead to, in which results can be filed. -/
structure Recorded (ems : List Emission) (h : Heap) : Prop where
  emitted : Emitted ems h
  reduced : (h.table 0).getText reducedName = .table reducedPlace
  array : (h.table reducedPlace).metatable = some arrayType

variable {p : Phase} {f d : Datum} {ems base more : List Emission} {later : ℕ → List Emission}
  {rounds : List Round} {r : Round} {i n : ℕ}

namespace Recorded

theorem append (hr : Recorded ems h) (hmore : Emits h more h') (haside : KeepsAside h h') :
    Recorded (ems ++ more) h' where
  emitted := hr.emitted.append hmore
  reduced := (haside.global _ (by decide)).trans hr.reduced
  array := haside.array.trans hr.array

theorem other (hr : Recorded ems h) (hsame : Untouched h h') (haside : KeepsAside h h') :
    Recorded ems h' :=
  List.append_nil ems ▸ hr.append (.other .none hsame) haside

/-- Tables that are only looked at, and new variables. -/
theorem moved (hr : Recorded ems h) (hsame : Untouched h h')
    (hmoved : ∀ q, (h.table q).Moved (h'.table q)) : Recorded ems h' :=
  hr.other hsame ⟨fun _ _ => (hmoved 0).getKey _, (hmoved reducedPlace).metatable, hsame.cells_le⟩

/-- The registry that the emissions have made. -/
theorem filed (hr : Recorded ems h) (hfits : Fits ems) :
    ∃ lists, Filed h (firstKeys ems) lists ems.length ∧
      lists.map Prod.snd = (firstKeys ems).map fun k => valuesOf k ems :=
  hr.emitted.filed hfits.keys hfits.few

/-- An answer is filed. -/
theorem noted (hr : Recorded ems h) (hfits : Fits ems) (i : ℕ) (d : Datum) :
    Recorded ems (noted i d h) := by
  obtain ⟨lists, hf, -⟩ := hr.filed hfits
  have hfile := hf.untouched_reduced (slotNumber i) d
  have hw := hf.wired.keeps hfile.toKeeps
  refine ⟨.other (.other hr.emitted hfile) (hw.untouched_withCells _), ?_, ?_⟩
  · rw [table_noted hf.wired.tables_le, if_neg (by decide)]
    exact hr.reduced
  · rw [table_noted hf.wired.tables_le, if_pos rfl, Registry.set_metatable]
    exact hr.array

/-- The function of a phase goes into its global. -/
theorem setGlobal (hr : Recorded ems h) (hfits : Fits ems) (p : Phase) (f : Datum) :
    Recorded ems (h.update 0 fun t => t.set (.ofText p.function) f) ∧
      ((h.update 0 fun t => t.set (.ofText p.function) f).table 0).getText p.function = f := by
  obtain ⟨lists, hf, -⟩ := hr.filed hfits
  have hw := hf.wired
  have hlt : 0 < h.tables.size := Nat.lt_of_lt_of_le (by decide) hw.tables_le
  have hget (x : String) :
      ((h.update 0 fun t => t.set (.ofText p.function) f).table 0).getText x =
        if x = p.function then f else (h.table 0).getText x := by
    rw [Heap.table_update hlt, if_pos rfl, Registry.getText_set hw.globals_valid]
  refine ⟨⟨.other hr.emitted (hf.untouched_global (by cases p <;> decide) f), ?_, ?_⟩, ?_⟩
  · rw [hget, if_neg (by cases p <;> decide)]
    exact hr.reduced
  · rw [Heap.table_update hlt, if_neg (by decide)]
    exact hr.array
  · rw [hget, if_pos rfl]

theorem startable (hr : Recorded ems h) (hfits : Fits ems) :
    Startable (firstKeys ems).length h := by
  obtain ⟨lists, hf, -⟩ := hr.filed hfits
  have hw := hf.wired
  have hmeta := hw.metatable (keysPlace, some arrayType) (by decide)
  exact ⟨Nat.lt_of_lt_of_le (by decide) hw.cells_le, hw.cell (0, .table 0) (by decide),
    hw.global (keysName, .table keysPlace) (by decide), hw.unhandled (by decide) (.inr hmeta),
    hf.keys.findBorder.1, hf.keys.length_lt⟩

theorem counted (hr : Recorded ems h) (hfits : Fits ems) : Recorded ems (counted h) := by
  obtain ⟨lists, hf, -⟩ := hr.filed hfits
  have hlt : keysPlace < h.tables.size := Nat.lt_of_lt_of_le (by decide) hf.wired.tables_le
  have hmoved (q : ℕ) : (h.table q).Moved ((MapReduce.counted h).table q) :=
    moved_update hlt ⟨rfl, fun _ => hf.keys.findBorder.2⟩ q
  exact hr.moved (Registry.untouched_of_moved (Heap.size_update _ _ _) le_rfl (fun _ _ => rfl) rfl
    hmoved) hmoved

end Recorded

theorem Registry.Wired.untouched_asked (hw : Registry.Wired h) (p : Phase) (i : ℕ) :
    Untouched h (asked p i h) := by
  refine Registry.untouched_of_moved (size_tables_asked p i h) ?_ (hw.cell_withCells _) rfl
    (moved_asked hw.tables_le p i)
  rw [size_cells_asked]
  exact Nat.le_succ _

/-- The calls of a phase that has started emit, each a list of its own. -/
def CallsEmit (p : Phase) (f : Datum) (start : Heap) (later : ℕ → List Emission) (n : ℕ) : Prop :=
  ∀ rounds h (r : Round), rounds.length < n → Rounds p f start rounds h →
    r.Follows p f rounds.length h →
      Emits r.before (later rounds.length) r.after ∧ KeepsAside r.before r.after ∧ r.KeepsSlot

/-- A call that gets the key of its slot; the reduce function gets all values that were emitted
under it before, also those of the calls before. -/
structure Round.Gets (p : Phase) (base : List Emission) (later : ℕ → List Emission) (i : ℕ)
    (r : Round) : Prop where
  key : (firstKeys base)[i]? = some r.key
  values : p = .reduce → ∃ q, r.other = .table q ∧ (r.before.table q).Lists
    (valuesOf r.key base ++ valuesOf r.key (emittedBy later i))

/-- A phase under way, with all emissions before it and since. -/
structure Recording (p : Phase) (f : Datum) (base : List Emission) (later : ℕ → List Emission)
    (rounds : List Round) (h : Heap) : Prop where
  recorded : Recorded (base ++ emittedBy later rounds.length) h
  function : (h.table 0).getText p.function = f
  gets : ∀ i (r : Round), rounds[i]? = some r → r.Gets p base later i

/-- The keys and the values that a phase finds for a slot. -/
theorem Registry.Filed.items (hf : Filed h (firstKeys (base ++ more)) lists calls)
    (hlists : lists.map Prod.snd = (firstKeys (base ++ more)).map fun k =>
      valuesOf k (base ++ more)) (hi : i < (firstKeys base).length) :
    (firstKeys base)[i]? = some ((h.table keysPlace).get (slotNumber i)) ∧
      ∃ q, (h.table emitsPlace).get (slotNumber i) = .table q ∧ (h.table q).Lists
        (valuesOf ((h.table keysPlace).get (slotNumber i)) (base ++ more)) := by
  have hinitial := firstKeys_initial base more
  have hkey := List.getElem?_eq_getElem hi
  have hkey' : (firstKeys (base ++ more))[i]? = some (firstKeys base)[i] := by
    rw [List.getElem?_eq_getElem (hi.trans_le hinitial.length_le), ← hinitial.getElem hi]
  have hget : (h.table keysPlace).get (slotNumber i) = (firstKeys base)[i] :=
    hf.keys.get_of_getElem? hkey'
  have hlt : i < lists.length := hf.length.symm ▸ hi.trans_le hinitial.length_le
  obtain ⟨⟨q, l⟩, hl⟩ : ∃ l, lists[i]? = some l := ⟨_, List.getElem?_eq_getElem hlt⟩
  have hvalues : l = valuesOf (firstKeys base)[i] (base ++ more) := by
    have hitem := congrArg (fun ls : List (List Datum) => ls[i]?) hlists
    simpa [hl, hkey'] using hitem
  rw [hget]
  exact ⟨hkey, q, hf.get_emits hl, hvalues ▸ hf.values _ (List.mem_of_getElem? hl)⟩

/-- What the first calls of a phase emit fits if all of it does. -/
theorem Fits.soFar (hfits : Fits (base ++ emittedBy later n)) (hle : i ≤ n) :
    Fits (base ++ emittedBy later i) :=
  hfits.initial ((List.prefix_append_right_inj base).mpr (emittedBy_initial later hle))

/-- The next call can be made. -/
theorem Recording.ready (hr : Recording p f base later rounds h) (hf : f.isNil = false)
    (hfits : Fits (base ++ emittedBy later rounds.length))
    (hlt : rounds.length < (firstKeys base).length) :
    Ready p f rounds.length ((h.table keysPlace).get (slotNumber rounds.length))
      ((h.table p.otherPlace).get (slotNumber rounds.length)) h := by
  obtain ⟨lists, hfiled, hlists⟩ := hr.recorded.filed hfits
  have hw := hfiled.wired
  obtain ⟨hkey, -⟩ := hfiled.items hlists hlt
  have hpresent : ((h.table keysPlace).get (slotNumber rounds.length)).isNil = false := by
    have hinitial := firstKeys_initial base (emittedBy later rounds.length)
    exact hfiled.keys.present _ (hinitial.subset (List.mem_of_getElem? hkey))
  have hname : (h.table 0).getText p.other = .table p.otherPlace := by
    cases p with
    | reduce => exact hw.global (emitsName, .table emitsPlace) (by decide)
    | finalize => exact hr.recorded.reduced
  -- the slots of keys that came after the reduce phase have no result yet
  have hmeta : (h.table p.otherPlace).metatable = none ∨
      (h.table p.otherPlace).metatable = some arrayType := by
    cases p with
    | reduce => exact .inl (hw.metatable (emitsPlace, none) (by decide))
    | finalize => exact .inr hr.recorded.array
  exact ⟨Nat.lt_of_lt_of_le (by decide) hw.cells_le, hw.cell (0, .table 0) (by decide),
    Nat.lt_of_lt_of_le (by decide) hw.tables_le, p.otherPlace_lt.trans_le hw.tables_le,
    hr.function, hf, hw.global (keysName, .table keysPlace) (by decide), hname, rfl, hpresent, rfl,
    fun _ => hw.unhandled (by decide) hmeta⟩

/-- The call gets what was emitted before. -/
theorem Recording.handed (hr : Recording p f base later rounds h)
    (hfits : Fits (base ++ emittedBy later rounds.length))
    (hlt : rounds.length < (firstKeys base).length) (hnext : r.Follows p f rounds.length h) :
    r.Gets p base later rounds.length := by
  obtain ⟨lists, hfiled, hlists⟩ := hr.recorded.filed hfits
  obtain ⟨hkey, q, hq, hlist⟩ := hfiled.items hlists hlt
  rw [← hnext.key] at hkey hlist
  refine ⟨hkey, fun hreduce => ⟨q, ?_, ?_⟩⟩
  · subst hreduce
    exact hnext.other.trans hq
  · rw [hnext.before, ← valuesOf_append_list]
    exact hlist.moved (moved_asked hfiled.wired.tables_le p _ q)

/-- A call takes the phase one slot further, with its emissions. -/
theorem Recording.next (hr : Recording p f base later rounds h)
    (hfits : Fits (base ++ emittedBy later (rounds.length + 1)))
    (hlt : rounds.length < (firstKeys base).length) (hnext : r.Follows p f rounds.length h)
    (hemits : Emits r.before (later rounds.length) r.after) (haside : KeepsAside r.before r.after)
    (hslot : r.KeepsSlot) :
    Returned rounds.length h.cells.size r.after ∧
      Recording p f base later (rounds ++ [r]) (noted rounds.length r.answer r.after) := by
  have hsoFar := hfits.soFar (Nat.le_succ _)
  obtain ⟨lists, hfiled, -⟩ := hr.recorded.filed hsoFar
  have hw := hfiled.wired
  have hasked : Recorded (base ++ emittedBy later rounds.length) r.before := by
    rw [hnext.before]
    exact hr.recorded.moved (hw.untouched_asked p _) (moved_asked hw.tables_le p _)
  have hcalled := hasked.append hemits haside
  rw [List.append_assoc, ← emittedBy_succ] at hcalled
  obtain ⟨lists', hfiled', -⟩ := hcalled.filed hfits
  have hw' := hfiled'.wired
  have hcells : r.before.cells.size = h.cells.size + 1 := hnext.before ▸ size_cells_asked p _ h
  constructor
  · refine ⟨Nat.lt_of_lt_of_le (by decide) hw'.cells_le, hw'.cell (0, .table 0) (by decide), ?_, ?_,
      hw'.global ("null", null) (by decide), hcalled.reduced,
      hw'.unhandled (by decide) (.inr hcalled.array)⟩
    · have hle := haside.cells_le
      omega
    · rw [hslot _ hcells.symm, hnext.before, cell_asked]
  · refine ⟨?_, ?_, forall_getElem?_concat hr.gets (hr.handed hsoFar hlt hnext)⟩
    · rw [List.length_append, List.length_singleton]
      exact hcalled.noted hfits _ _
    · rw [table_noted hw'.tables_le, if_neg (by decide), haside.global _ (by cases p <;> decide),
        hnext.before]
      exact ((moved_asked hw.tables_le p _ 0).getKey _).trans hr.function

/-- A phase of which the calls emit stays under way. -/
theorem CallsEmit.sustained (hcalls : CallsEmit p f h later (firstKeys base).length)
    (hf : f.isNil = false) (hfits : Fits (base ++ emittedBy later (firstKeys base).length)) :
    Sustained p f h (firstKeys base).length (Recording p f base later) where
  ready _ _ hlt _ hr := hr.ready hf (hfits.soFar hlt.le) hlt
  returned rounds h₁ r hlt hrounds hr hnext := by
    obtain ⟨hemits, haside, hslot⟩ := hcalls rounds h₁ r hlt hrounds hnext
    exact hr.next (hfits.soFar hlt) hlt hnext hemits haside hslot

variable {batchSize : ℕ} {job : Job} {docs rs : List Document} {emitted : ℕ} {source : String}
  {s s' : Scope}

/-- A phase starts with the registry as it was. -/
theorem Recorded.stored {s₁ s₂ : Scope} (hr : Recorded base s₁.heap) (hfits : Fits base)
    (hwrite : Scope.writeGlobal p.function f s₁ = .ok () s₂) :
    Recorded base s₂.heap ∧ (s₂.heap.table 0).getText p.function = f := by
  obtain ⟨lists, hfiled, -⟩ := hr.filed hfits
  rw [Scope.writeGlobal_eq_ok (hfiled.wired.metatable (0, none) (by decide)) hwrite]
  exact hr.setGlobal hfits p f

theorem Recorded.recording (hr : Recorded base h) (hfits : Fits base)
    (hf : (h.table 0).getText p.function = f) :
    Recording p f base later [] (MapReduce.counted h) := by
  obtain ⟨lists, hfiled, -⟩ := hr.filed hfits
  have hlt : keysPlace < h.tables.size := Nat.lt_of_lt_of_le (by decide) hfiled.wired.tables_le
  have hmoved : (h.table 0).Moved ((MapReduce.counted h).table 0) :=
    moved_update hlt ⟨rfl, fun _ => hfiled.keys.findBorder.2⟩ 0
  refine ⟨?_, (hmoved.getKey _).trans hf, by simp⟩
  simpa [emittedBy] using hr.counted hfits

/-- A phase makes a call for each key that was emitted before. -/
theorem Recorded.exists_calls (hr : Recorded base s.heap) (hbegins : Begins batchSize job docs p s)
    (hsource : p.source? job = some source) (hrun : p.run source s = .ok () s')
    (hfits : Fits (base ++ emittedBy later (firstKeys base).length))
    (hfunctions : ∀ f s₁, Supplies batchSize job docs p f s s₁ →
      Untouched s.heap s₁.heap ∧ KeepsAside s.heap s₁.heap)
    (hcalls : ∀ f start, Starts batchSize job docs p f start →
      CallsEmit p f start later (firstKeys base).length) :
    Recorded (base ++ emittedBy later (firstKeys base).length) s'.heap ∧
      ∃ rounds, Makes batchSize job docs p rounds ∧ rounds.length = (firstKeys base).length ∧
        ∀ i (r : Round), rounds[i]? = some r → r.Gets p base later i := by
  have hbase := hfits.initial (List.prefix_append _ _)
  have hallows (f : Datum) (s₁ s₂ : Scope) (hsupplies : Supplies batchSize job docs p f s s₁)
      (hpresent : f.isNil = false) (hwrite : Scope.writeGlobal p.function f s₁ = .ok () s₂) :
      Startable (firstKeys base).length s₂.heap ∧
        Sustained p f s₂.heap (firstKeys base).length (Recording p f base later) ∧
        Recording p f base later [] (MapReduce.counted s₂.heap) := by
    obtain ⟨hsame, haside⟩ := hfunctions f s₁ hsupplies
    obtain ⟨hr₂, hf⟩ := (hr.other hsame haside).stored hbase hwrite
    have hkept := hcalls f s₂.heap ⟨s, s₁, s₂, hsupplies, hwrite, rfl⟩
    exact ⟨hr₂.startable hbase, hkept.sustained hpresent hfits, hr₂.recording hbase hf⟩
  obtain ⟨f, start, rounds, hstarts, hrounds, hlength, hrecording⟩ :=
    hbegins.exists_rounds hsource hrun hallows
  exact ⟨hlength ▸ hrecording.recorded, rounds, ⟨f, start, _, hstarts, hrounds⟩, hlength,
    hrecording.gets⟩

/-! Jobs. -/

/-- All emissions before a phase: those of the map function, and those of the phase before. -/
def emittedBefore (ems : List Emission) (later : Phase → ℕ → List Emission) :
    Phase → List Emission
  | .reduce => ems
  | .finalize => ems ++ emittedBy (later .reduce) (firstKeys ems).length

/-- All emissions up to the end of a phase. -/
def emittedUpTo (ems : List Emission) (later : Phase → ℕ → List Emission) (p : Phase) :
    List Emission :=
  emittedBefore ems later p ++ emittedBy (later p) (firstKeys (emittedBefore ems later p)).length

/-- The phase that comes last. -/
def Job.lastPhase (job : Job) : Phase := if job.finalize.isSome then .finalize else .reduce

/-- A job of which the functions emit: the map function in the map phase, and the others whenever
they are called. All else leaves the registry alone. -/
structure Emitting (batchSize : ℕ) (job : Job) (docs : List Document) (ems : List Emission)
    (later : Phase → ℕ → List Emission) : Prop where
  mapped : ∀ s, mapAll batchSize job docs .fresh = .ok () s → Recorded ems s.heap
  functions : ∀ p f s s', Supplies batchSize job docs p f s s' →
    Untouched s.heap s'.heap ∧ KeepsAside s.heap s'.heap
  calls : ∀ p f start, Starts batchSize job docs p f start →
    CallsEmit p f start (later p) (firstKeys (emittedBefore ems later p)).length
  fits : Fits (emittedUpTo ems later job.lastPhase)

variable {later : Phase → ℕ → List Emission}

theorem Emitting.fits_reduce (he : Emitting batchSize job docs ems later) :
    Fits (emittedUpTo ems later .reduce) := by
  refine he.fits.initial ?_
  cases job.lastPhase with
  | reduce => exact List.prefix_rfl
  | finalize => exact List.prefix_append _ _

/-- The phase after the reduce phase, if there is one, files what its calls emit. -/
theorem Emitting.recorded_finalize (he : Emitting batchSize job docs ems later) {mapped : Scope}
    (hmap : mapAll batchSize job docs .fresh = .ok () mapped)
    (hreduce : reducePhase job mapped = .ok () s) (hfinalize : finalizePhase job s = .ok () s')
    (hr : Recorded (emittedUpTo ems later .reduce) s.heap) :
    Recorded (emittedUpTo ems later job.lastPhase) s'.heap := by
  have hfits := he.fits
  unfold Job.lastPhase at hfits ⊢
  cases hjob : job.finalize with
  | none =>
    rw [finalizePhase_none hjob] at hfinalize
    obtain ⟨-, rfl⟩ := EStateM.Result.ok.inj hfinalize
    exact hr
  | some source =>
    rw [hjob] at hfits
    rw [finalizePhase_some hjob] at hfinalize
    exact (Recorded.exists_calls (p := .finalize) hr (.finalize hmap hreduce) hjob hfinalize hfits
      (fun f s₁ => he.functions .finalize f s s₁) (he.calls .finalize)).1

/-- A job that succeeds hands to the reduce function all values that were emitted under a key so
far, and counts all that it has emitted in the end. -/
theorem Emitting.exists_calls (he : Emitting batchSize job docs ems later)
    (hrun : job.evaluate batchSize docs = .ok (rs, emitted)) :
    emitted = (emittedUpTo ems later job.lastPhase).length ∧
      ∃ rounds, Makes batchSize job docs .reduce rounds ∧ rounds.length = (firstKeys ems).length ∧
        ∀ i (r : Round), rounds[i]? = some r → r.Gets .reduce ems (later .reduce) i := by
  obtain ⟨mapped, keys, s₁, reduced, final, values, s₂, s₃, hmap, hkeys, hreduce, hfinalize,
    hvalues, hcount, rfl⟩ := exists_phases hrun
  have hr := he.mapped mapped hmap
  obtain ⟨lists, hfiled, -⟩ := hr.filed (he.fits_reduce.initial (List.prefix_append _ _))
  obtain ⟨-, rfl⟩ := Scope.global_eq_ok
    (hfiled.wired.global (keysName, .table keysPlace) (by decide)) rfl (globalArray_eq_ok hkeys)
  obtain ⟨hr', rounds, hrounds⟩ := Recorded.exists_calls (p := .reduce) hr (.reduce hmap) rfl
    (reducePhase_eq job ▸ hreduce) he.fits_reduce (fun f s' => he.functions .reduce f s₁ s')
    (he.calls .reduce)
  have hend := he.recorded_finalize hmap hreduce hfinalize hr'
  obtain ⟨-, rfl⟩ := Scope.global_eq_ok hend.reduced rfl (globalArray_eq_ok hvalues)
  obtain ⟨lists', hfiled', -⟩ := hend.filed he.fits
  exact ⟨emitCount_eq_ok hfiled'.count he.fits.few hcount, rounds, hrounds⟩

end Docbase.MapReduce
