import Docbase.Proofs.MapReduce.Partition

/-!
Heaps compared. Of two given heaps it can be computed that what happened between them left the
registry alone.
-/
namespace Docbase

namespace Script

namespace Datum

/-- Whether two data are the same. Places and integers are compared as numbers alone: this is
computed with places that are themselves still to be computed. -/
def same : Datum → Datum → Bool
  | .table p, .table q => p.beq q
  | .int n, .int m => n.toBitVec.toNat.beq m.toBitVec.toNat
  | d, e => d == e

theorem eq_of_same {d e : Datum} (h : d.same e = true) : d = e := by
  unfold same at h
  split at h
  · rw [Nat.eq_of_beq_eq_true h]
  · rw [Int64.toBitVec_inj.mp (BitVec.eq_of_toNat_eq (Nat.eq_of_beq_eq_true h))]
  · exact beq_iff_eq.mp h

end Datum

/-- Lists that are the same element by element. -/
theorem eq_of_isEqv {α : Type} {test : α → α → Bool} (htest : ∀ a b, test a b = true → a = b) :
    ∀ {as bs : List α}, as.isEqv bs test = true → as = bs
  | [], [], _ => rfl
  | a :: as, b :: bs, h => by
    rw [List.isEqv, Bool.and_eq_true] at h
    rw [htest a b h.1, eq_of_isEqv htest h.2]

namespace Table

/-- What a table holds. -/
def values (t : Table) : List Datum := t.items.toList ++ t.fields.map Prod.snd

theorem mem_values {t : Table} {key d : Datum} (h : t.getKey key = d) (hd : d.isNil = false) :
    d ∈ t.values := by
  rw [values, List.mem_append]
  cases hslot : t.slot? key with
  | none =>
    rw [getKey_field hslot] at h
    exact .inr (List.mem_map_of_mem (mem_of_lookUp h hd))
  | some i =>
    obtain ⟨n, -, -, hi⟩ := slot?_eq_some hslot
    rw [getKey_slot hslot, Array.getD_eq_getD_getElem?, Array.getElem?_eq_getElem hi,
      Option.getD_some] at h
    exact .inl (h ▸ Array.mem_toList_iff.mpr (Array.getElem_mem hi))

/-- Whether a table holds what a given one holds, in the same layout. -/
def isLike (given t : Table) : Bool :=
  t.items.toList.isEqv given.items.toList Datum.same &&
    t.fields.isEqv given.fields (fun e e' => e.1.same e'.1 && e.2.same e'.2) &&
    t.room == given.room && t.metatable == given.metatable && decide (t.edge ≤ 2 ^ 63)

theorem isLike_spec {given t : Table} (h : given.isLike t = true) :
    t = { given with edge := t.edge } ∧ t.edge ≤ 2 ^ 63 := by
  simp only [isLike, Bool.and_eq_true, beq_iff_eq, decide_eq_true_eq] at h
  obtain ⟨⟨⟨⟨hitems, hfields⟩, hroom⟩, hmeta⟩, hedge⟩ := h
  replace hitems := Array.toList_inj.mp (eq_of_isEqv (fun _ _ => Datum.eq_of_same) hitems)
  replace hfields := eq_of_isEqv (fun e e' hsame => by
    rw [Bool.and_eq_true] at hsame
    exact Prod.ext (Datum.eq_of_same hsame.1) (Datum.eq_of_same hsame.2)) hfields
  exact ⟨by rw [← hitems, ← hfields, ← hroom, ← hmeta], hedge⟩

theorem moved_of_isLike {given t t' : Table} (h : given.isLike t = true)
    (h' : given.isLike t' = true) : t.Moved t' := by
  obtain ⟨heq, -⟩ := isLike_spec h
  obtain ⟨heq', hedge'⟩ := isLike_spec h'
  refine ⟨?_, fun _ => hedge'⟩
  rw [heq, heq']

/-- Whether a table is a valid one without items, if a given one is valid. -/
def staysValid (given t : Table) : Bool :=
  t.items.isEmpty && t.edge == 0 &&
    (t.fields.map Prod.fst == given.fields.map Prod.fst || decide (t.fields.map Prod.fst).Nodup)

theorem valid_of_staysValid {given t : Table} (h : given.staysValid t = true) (hv : given.Valid) :
    t.Valid := by
  simp only [staysValid, Bool.and_eq_true, Bool.or_eq_true, Array.isEmpty_iff, beq_iff_eq,
    decide_eq_true_eq] at h
  obtain ⟨⟨hitems, hedge⟩, hkeys⟩ := h
  refine valid_of_fields hitems hedge ?_
  rcases hkeys with hsame | hnodup
  · exact hsame ▸ hv.nodup
  · exact hnodup

end Table

namespace Closure

/-- Whether two functions are the same. -/
def same (c d : Closure) : Bool :=
  c.unit == d.unit && c.params == d.params && c.variadic == d.variadic &&
    Block.same c.body d.body && c.captured == d.captured

theorem eq_of_same {c d : Closure} (h : c.same d = true) : c = d := by
  simp only [same, Bool.and_eq_true, beq_iff_eq] at h
  obtain ⟨⟨⟨⟨hunit, hparams⟩, hvariadic⟩, hbody⟩, hcaptured⟩ := h
  obtain ⟨unit, params, variadic, body, captured⟩ := c
  subst hunit hparams hvariadic hcaptured
  obtain rfl := Block.eq_of_same _ _ hbody
  rfl

end Closure

end Script

namespace MapReduce.Registry

open Script

variable {h h' : Heap}

/-- One more table leaves the registry alone. -/
theorem Wired.untouched_push (hw : Wired h) : Untouched h (h.push .empty) where
  toKeeps := hw.keeps_push .empty
  count := by rw [Heap.table_push_empty]
  table p _ := by
    rw [Heap.table_push_empty]
    exact .refl _

/-- Whether the tables among some data hold what they held, in the same layout. -/
def alike (ds : List Datum) (h h' : Heap) : Bool :=
  ds.all fun
    | .table q => (h.table q).isLike (h.table q) && (h.table q).isLike (h'.table q)
    | _ => true

theorem alike_spec {ds : List Datum} (hcheck : alike ds h h' = true) {q : ℕ}
    (hq : .table q ∈ ds) : (h.table q).Moved (h'.table q) := by
  have hboth := List.all_eq_true.mp hcheck _ hq
  simp only [Bool.and_eq_true] at hboth
  exact Table.moved_of_isLike hboth.1 hboth.2

/-- Whether the registry is left alone. -/
def untouched (h h' : Heap) : Bool :=
  decide (h.tables.size ≤ h'.tables.size) && decide (h.cells.size ≤ h'.cells.size) &&
    (h.table 0).staysValid (h'.table 0) &&
    (emitCountName :: globals.map Prod.fst).all
      (fun x => (h'.table 0).getText x == (h.table 0).getText x) &&
    metatables.all (fun m => (h'.table m.1).metatable == (h.table m.1).metatable) &&
    (h'.table 21).getText "__call" == (h.table 21).getText "__call" &&
    events.all (fun x => (h'.table arrayType).getText x == (h.table arrayType).getText x) &&
    cells.all (fun c => h'.cell c.1 == h.cell c.1) &&
    [23, emitPlace].all (fun p => (h'.closure p).same (h.closure p)) &&
    alike ([keysPlace, slotsPlace, emitsPlace].map Datum.table ++ (h.table emitsPlace).values) h h'

theorem untouched_spec (hcheck : untouched h h' = true) : Untouched h h' := by
  simp only [untouched, Bool.and_eq_true, beq_iff_eq, List.all_eq_true, decide_eq_true_eq] at hcheck
  obtain ⟨⟨⟨⟨⟨⟨⟨⟨⟨htables, hcells⟩, hkeys⟩, hglobal⟩, hmeta⟩, harray⟩, hsilent⟩, hcell⟩,
    hclosure⟩, halike⟩ := hcheck
  exact {
    tables_le := htables
    cells_le := hcells
    globals_valid := Table.valid_of_staysValid hkeys
    global := fun g hg => hglobal g.1 (List.mem_cons_of_mem _ (List.mem_map_of_mem hg))
    metatable := hmeta
    array := harray
    silent := hsilent
    cell := hcell
    closure := fun p hp => Closure.eq_of_same (hclosure p hp)
    count := hglobal _ List.mem_cons_self
    table := fun p hp => alike_spec halike (by
      rcases hp with hp | ⟨n, hn⟩
      · exact List.mem_append_left _ (List.mem_map_of_mem hp)
      · exact List.mem_append_right _ (Table.mem_values hn rfl)) }

end MapReduce.Registry

end Docbase
