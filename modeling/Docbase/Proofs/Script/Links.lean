import Docbase.Proofs.Script.Forms
import Docbase.Proofs.Value.Bson

/-!
How deep tables are followed. Each table that is read counts against a limit, so a value comes
to an end on any heap, whatever tables it shares and whatever cycles it has: a chain of more
tables than the limit, and so each way into a cycle, ends with a refusal, and what comes back
does not nest deeper than the limit.
-/
namespace Docbase

/-- Documents, arrays and references stand one inside the other at most so many times. -/
inductive Value.NestsWithin : ℕ → Value → Prop
  | scalar {levels : ℕ} {v : Value} (hv : v.IsScalar) : NestsWithin levels v
  | array {levels : ℕ} {items : List Value} (hitems : ∀ v ∈ items, NestsWithin levels v) :
    NestsWithin (levels + 1) (.array items)
  | reference {levels : ℕ} {id : Value} (database : Option String) (collection : String)
    (hid : NestsWithin levels id) : NestsWithin (levels + 1) (.reference database collection id)
  | document {levels : ℕ} {fields : Document}
    (hfields : ∀ entry ∈ fields, NestsWithin levels entry.2) :
    NestsWithin (levels + 1) (.document fields)

/-- Each document in a value has its keys once. -/
def Value.KeysDiffer (v : Value) : Prop :=
  ∀ fields, Within (.document fields) v → (fields.map Prod.fst).Nodup

namespace Script

open Materialize

/-- A table that is read leads to the data inside. -/
inductive Link (h : Heap) : Datum → Datum → Prop
  | inside {place : ℕ} {d : Datum} (hd : Inside (h.table place) (formOf h (h.table place)) d) :
    Link h (.table place) d

/-- The value of a datum found by following links, with the tables around it counted: beyond the
limit a table is refused, and below it the value is made from those of the data inside, each of
which comes to an end. -/
inductive Converts (h : Heap) : ℕ → Datum → Except Unconvertible Value → Prop
  | plain {depth : ℕ} {d : Datum} (hd : ∀ place, d ≠ .table place) :
    Converts h depth d (ofDatum h 0 d)
  | tooDeep {depth place : ℕ} (hdepth : levelLimit ≤ depth) :
    Converts h depth (.table place) (.error .tooDeep)
  | table {depth place : ℕ} {value : Datum → Except Unconvertible Value}
    (hdepth : depth < levelLimit)
    (hvalue : ∀ d, Link h (.table place) d → Converts h (depth + 1) d (value d)) :
    Converts h depth (.table place) (ofTable value h (h.table place))

variable {h : Heap} {d d' : Datum} {v : Value} {levels : ℕ}

theorem ofDatum_succ (h : Heap) (levels place : ℕ) :
    ofDatum h (levels + 1) (.table place) = ofTable (ofDatum h levels) h (h.table place) := by
  rw [ofDatum_table]
  rfl

theorem ofDatum_plain (hd : ∀ place, d ≠ .table place) (levels : ℕ) :
    ofDatum h levels d = ofDatum h 0 d := by
  cases d with
  | table place => exact absurd rfl (hd place)
  | _ => cases levels <;> rfl

/-! More levels do not change a value. -/

theorem ofDatum_succ_of_ok (hvalue : ofDatum h levels d = .ok v) :
    ofDatum h (levels + 1) d = .ok v := by
  induction levels generalizing d v with
  | zero =>
    by_cases hd : ∃ place, d = .table place
    · obtain ⟨place, rfl⟩ := hd
      cases hvalue
    · rw [ofDatum_plain (not_exists.mp hd), hvalue]
  | succ levels ih =>
    by_cases hd : ∃ place, d = .table place
    · obtain ⟨place, rfl⟩ := hd
      rw [ofDatum_succ] at hvalue
      rw [ofDatum_succ, ← hvalue]
      refine ofTable_congr fun d hd => ?_
      obtain ⟨w, hw⟩ := (ofTable_eq_ok hvalue).2 d hd
      rw [hw, ih hw]
    · rw [ofDatum_plain (not_exists.mp hd)] at hvalue ⊢
      exact hvalue

/-- A value with a table around it is one without. -/
theorem valueOf_of_inside (hvalue : ofDatum h 99 d = .ok v) : h.valueOf d = .ok v :=
  ofDatum_succ_of_ok hvalue

/-- Data that are no tables have no data inside. -/
theorem isScalar_of_plain (hd : ∀ place, d ≠ .table place)
    (hvalue : ofDatum h levels d = .ok v) : v.IsScalar := by
  rw [ofDatum_plain hd] at hvalue
  cases d with
  | table place => exact absurd rfl (hd place)
  | int n =>
    obtain rfl := Except.ok.inj hvalue
    split_ifs
    · trivial
    · trivial
  | closure place => cases hvalue
  | primitive p => cases hvalue
  | thread place => cases hvalue
  | _ =>
    obtain rfl := Except.ok.inj hvalue
    trivial

theorem link_iff {place : ℕ} :
    Link h (.table place) d ↔ Inside (h.table place) (formOf h (h.table place)) d := by
  constructor
  · intro hlink
    cases hlink with
    | inside hd => exact hd
  · exact .inside

/-! Conversions come to an end. -/

theorem converts_ofDatum (h : Heap) (levels depth : ℕ) (hdepth : depth + levels = levelLimit)
    (d : Datum) : Converts h depth d (ofDatum h levels d) := by
  induction levels generalizing depth d with
  | zero =>
    by_cases hd : ∃ place, d = .table place
    · obtain ⟨place, rfl⟩ := hd
      exact .tooDeep (by omega)
    · exact .plain (not_exists.mp hd)
  | succ levels ih =>
    by_cases hd : ∃ place, d = .table place
    · obtain ⟨place, rfl⟩ := hd
      rw [ofDatum_succ]
      refine .table (by omega) fun d _ => ?_
      exact ih (depth + 1) (by omega) d
    · rw [ofDatum_plain (not_exists.mp hd)]
      exact .plain (not_exists.mp hd)

theorem Converts.unique {depth : ℕ} {r r' : Except Unconvertible Value}
    (hr : Converts h depth d r) (hr' : Converts h depth d r') : r = r' := by
  induction hr generalizing r' with
  | plain hd =>
    cases hr' with
    | plain => rfl
    | tooDeep => exact absurd rfl (hd _)
    | table => exact absurd rfl (hd _)
  | tooDeep hdepth =>
    cases hr' with
    | plain hd => exact absurd rfl (hd _)
    | tooDeep => rfl
    | table hless => omega
  | table hdepth hvalue ih =>
    cases hr' with
    | plain hd => exact absurd rfl (hd _)
    | tooDeep hmore => omega
    | table _ hvalue' =>
      refine ofTable_congr fun d hd => ?_
      exact ih d (link_iff.mpr hd) (hvalue' d (link_iff.mpr hd))

theorem converts_iff (h : Heap) (d : Datum) (r : Except Unconvertible Value) :
    Converts h 0 d r ↔ r = h.valueOf d := by
  have hends : Converts h 0 d (h.valueOf d) := converts_ofDatum h levelLimit 0 (by rfl) d
  constructor
  · intro hr
    exact hr.unique hends
  · rintro rfl
    exact hends

/-! Chains of tables. -/

/-- A value needs those of the data inside, which have one level less. -/
theorem Link.ofDatum_eq_ok (hlink : Link h d d') (hvalue : ofDatum h levels d = .ok v) :
    ∃ below < levels, ∃ w, ofDatum h below d' = .ok w := by
  cases hlink with
  | inside hd =>
    cases levels with
    | zero => cases hvalue
    | succ levels =>
      rw [ofDatum_succ] at hvalue
      exact ⟨levels, Nat.lt_succ_self levels, (ofTable_eq_ok hvalue).2 d' hd⟩

/-- On a chain of tables each one takes a level. -/
theorem length_le_of_isChain {places : List ℕ}
    (hchain : (places.map Datum.table).IsChain (Link h))
    (hhead : (places.map Datum.table).head? = some d) (hvalue : ofDatum h levels d = .ok v) :
    places.length ≤ levels := by
  induction places generalizing d levels v with
  | nil => exact levels.zero_le
  | cons place places ih =>
    obtain rfl : Datum.table place = d := Option.some_inj.mp hhead
    cases places with
    | nil =>
      cases levels with
      | zero => cases hvalue
      | succ levels =>
        rw [List.length_singleton]
        omega
    | cons next places =>
      obtain ⟨hlink, hrest⟩ := List.isChain_cons_cons.mp hchain
      obtain ⟨below, hless, w, hw⟩ := hlink.ofDatum_eq_ok hvalue
      have hlength : (next :: places).length ≤ below := ih hrest rfl hw
      rw [List.length_cons]
      omega

theorem exists_below (hlinks : Relation.TransGen (Link h) d d')
    (hvalue : ofDatum h levels d = .ok v) : ∃ below < levels, ∃ w, ofDatum h below d' = .ok w := by
  induction hlinks with
  | single hlink => exact hlink.ofDatum_eq_ok hvalue
  | tail _ hlink ih =>
    obtain ⟨between, hbetween, w, hw⟩ := ih
    obtain ⟨below, hbelow, hend⟩ := hlink.ofDatum_eq_ok hw
    exact ⟨below, hbelow.trans hbetween, hend⟩

/-- What is inside itself has no value: one with the fewest levels would need another with
less. -/
theorem ofDatum_ne_ok_of_cycle (hcycle : Relation.TransGen (Link h) d d) (levels : ℕ) (v : Value) :
    ofDatum h levels d ≠ .ok v := by
  induction levels using Nat.strong_induction_on generalizing v with
  | _ levels ih =>
    intro hvalue
    obtain ⟨below, hbelow, w, hw⟩ := exists_below hcycle hvalue
    exact ih below hbelow w hw

theorem ofDatum_ne_ok_of_reaches (hlinks : Relation.ReflTransGen (Link h) d d')
    (hcycle : Relation.TransGen (Link h) d' d') (levels : ℕ) (v : Value) :
    ofDatum h levels d ≠ .ok v := by
  intro hvalue
  rcases Relation.reflTransGen_iff_eq_or_transGen.mp hlinks with rfl | hlinks
  · exact ofDatum_ne_ok_of_cycle hcycle levels v hvalue
  · obtain ⟨below, -, w, hw⟩ := exists_below hlinks hvalue
    exact ofDatum_ne_ok_of_cycle hcycle below w hw

/-! What comes back. -/

theorem Value.KeysDiffer.of_assembled {value : Datum → Except Unconvertible Value}
    (hvalue : ∀ d w, value d = .ok w → w.KeysDiffer) (hv : Assembled value v) :
    v.KeysDiffer := by
  cases hv with
  | scalar hv => exact Value.forall_within_scalar hv
  | array hitems =>
    refine Value.forall_within_array.mpr fun w hw => ?_
    obtain ⟨d, hd⟩ := hitems w hw
    exact hvalue d w hd
  | reference database collection hid =>
    obtain ⟨d, hd⟩ := hid
    exact Value.forall_within_reference.mpr (hvalue d _ hd)
  | document hkeys hfields =>
    refine Value.forall_within_document.mpr ⟨hkeys, fun entry hentry => ?_⟩
    obtain ⟨d, hd⟩ := hfields entry hentry
    exact hvalue d _ hd

theorem Value.NestsWithin.of_assembled {value : Datum → Except Unconvertible Value}
    (hvalue : ∀ d w, value d = .ok w → w.NestsWithin levels) (hv : Assembled value v) :
    v.NestsWithin (levels + 1) := by
  cases hv with
  | scalar hv => exact .scalar hv
  | array hitems =>
    refine .array fun w hw => ?_
    obtain ⟨d, hd⟩ := hitems w hw
    exact hvalue d w hd
  | reference database collection hid =>
    obtain ⟨d, hd⟩ := hid
    exact .reference database collection (hvalue d _ hd)
  | document hkeys hfields =>
    refine .document fun entry hentry => ?_
    obtain ⟨d, hd⟩ := hfields entry hentry
    exact hvalue d _ hd

/-- A value takes no more levels than there were tables allowed. -/
theorem shape_of_ofDatum (hvalue : ofDatum h levels d = .ok v) :
    v.NestsWithin levels ∧ v.KeysDiffer := by
  induction levels generalizing d v with
  | zero =>
    by_cases hd : ∃ place, d = .table place
    · obtain ⟨place, rfl⟩ := hd
      cases hvalue
    · have hv := isScalar_of_plain (not_exists.mp hd) hvalue
      exact ⟨.scalar hv, Value.forall_within_scalar hv⟩
  | succ levels ih =>
    by_cases hd : ∃ place, d = .table place
    · obtain ⟨place, rfl⟩ := hd
      rw [ofDatum_succ] at hvalue
      have hassembled := (ofTable_eq_ok hvalue).1
      constructor
      · exact Value.NestsWithin.of_assembled (fun d w hw => (ih hw).1) hassembled
      · exact Value.KeysDiffer.of_assembled (fun d w hw => (ih hw).2) hassembled
    · have hv := isScalar_of_plain (not_exists.mp hd) hvalue
      exact ⟨.scalar hv, Value.forall_within_scalar hv⟩

/-- On every heap the value of a datum comes to an end, with one result. There is none where a
chain of more tables than the limit starts or where links lead into a cycle, and a value nests no
deeper than the limit and has documents with different keys only. -/
theorem conversion_ends (h : Heap) (d : Datum) :
    (∀ r, Converts h 0 d r ↔ r = h.valueOf d) ∧
      (∀ places : List ℕ, (places.map Datum.table).IsChain (Link h) →
        (places.map Datum.table).head? = some d → levelLimit < places.length →
          ∀ v, h.valueOf d ≠ .ok v) ∧
      (∀ d', Relation.ReflTransGen (Link h) d d' → Relation.TransGen (Link h) d' d' →
        ∀ v, h.valueOf d ≠ .ok v) ∧
      ∀ v, h.valueOf d = .ok v → v.NestsWithin levelLimit ∧ v.KeysDiffer := by
  refine ⟨converts_iff h d, fun places hchain hhead hmany v hvalue => ?_, ?_, ?_⟩
  · have hlength := length_le_of_isChain hchain hhead hvalue
    omega
  · intro d' hlinks hcycle v
    exact ofDatum_ne_ok_of_reaches hlinks hcycle levelLimit v
  · intro v hvalue
    exact shape_of_ofDatum hvalue

/-- A table whose only field is the table itself. -/
def ring : Heap := ⟨#[⟨#[], [(.ofText "next", .table 0)], 1, 0, none⟩], #[], #[], 0⟩

theorem ring_has_no_value : ∀ v, ring.valueOf (.table 0) ≠ .ok v := by
  have hfield : Field (ring.table 0) none "next" (.table 0) := by
    have hentry : (Datum.ofText "next", Datum.table 0) ∈ (ring.table 0).entries :=
      List.mem_cons_self
    refine .other hentry (fieldName_ofText "next") ?_
    intro hdeclared
    obtain ⟨names, hnames, -⟩ := hdeclared
    cases hnames
  have hlink : Link ring (.table 0) (.table 0) := .inside (.field hfield)
  exact (conversion_ends ring (.table 0)).2.2.1 (.table 0) .refl (.single hlink)

end Script

end Docbase
