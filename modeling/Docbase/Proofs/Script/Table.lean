import Docbase.Script.Evaluate
import Docbase.Proofs.Text.Utf8

/-!
Tables as literals build them. A table whose keys are texts keeps its entries in the order in
which they came, as long as it has room for them; a table filled from its first slot on is a
sequence, and its border is its length.
-/
namespace Docbase.Script

theorem Datum.isNil_iff {d : Datum} : d.isNil = true ↔ d = .nil := by
  cases d <;> simp [Datum.isNil]

namespace Table

/-! Tables of fields. -/

/-- A table with texts for keys. -/
def record (fields : List (String × Datum)) (room : ℕ) (metatable : Option ℕ) : Table :=
  ⟨#[], fields.map fun f => (.ofText f.1, f.2), room, 0, metatable⟩

variable {fields : List (String × Datum)} {room : ℕ} {metatable : Option ℕ}

theorem ofText_inj (x y : String) : Datum.ofText x = Datum.ofText y ↔ x = y := by
  rw [Datum.ofText, Datum.ofText, Datum.text.injEq]
  exact Utf8.encode_injective.eq_iff

theorem getText_record (x : String) :
    (record fields room metatable).getText x = (fields.lookup x).getD .nil := by
  change lookUp (.ofText x) (fields.map fun f => (Datum.ofText f.1, f.2)) = _
  induction fields with
  | nil => rfl
  | cons f fields ih =>
    rw [List.map_cons, lookUp, ih, List.lookup_cons]
    by_cases hx : f.1 = x
    · simp [hx]
    · rw [if_neg (by rwa [ofText_inj]), beq_eq_false_iff_ne.mpr (Ne.symm hx)]

theorem getText_of_lookup {x : String} {d : Datum} (h : fields.lookup x = some d) :
    (record fields room metatable).getText x = d := by
  rw [getText_record, h, Option.getD_some]

theorem hasField_record (x : String) (h : x ∉ fields.map Prod.fst) :
    hasField (.ofText x) (fields.map fun f => (Datum.ofText f.1, f.2)) = false := by
  rw [hasField, List.any_eq_false]
  intro entry hentry
  obtain ⟨f, hf, rfl⟩ := List.mem_map.mp hentry
  rw [beq_iff_eq, ofText_inj]
  rintro rfl
  exact h (List.mem_map_of_mem hf)

theorem set_ofText_record (x : String) (d : Datum) :
    (record fields room metatable).set (.ofText x) d =
      if hasField (.ofText x) (fields.map fun f => (Datum.ofText f.1, f.2)) then
        { record fields room metatable with
          fields := replaceField (.ofText x) d (fields.map fun f => (Datum.ofText f.1, f.2)) }
      else if d.isNil then record fields room metatable
      else if 0 < room then (record fields room metatable).place (.ofText x) d
      else ((record fields room metatable).layOut (.ofText x)).place (.ofText x) d := rfl

/-- A new key comes last. -/
theorem set_record (x : String) (d : Datum) (h : x ∉ fields.map Prod.fst) (hd : d.isNil = false)
    (hroom : 0 < room) :
    (record fields room metatable).set (.ofText x) d =
      record (fields ++ [(x, d)]) (room - 1) metatable := by
  rw [set_ofText_record, hasField_record x h, hd]
  simp only [Bool.false_eq_true, if_false, if_pos hroom]
  simp [place, record, slot?, Datum.ofText]

/-- Nil makes no field. -/
theorem set_record_nil (x : String) (h : x ∉ fields.map Prod.fst) :
    (record fields room metatable).set (.ofText x) .nil = record fields room metatable := by
  rw [set_ofText_record, hasField_record x h]
  rfl

theorem entries_record (h : ∀ f ∈ fields, f.2.isNil = false) :
    (record fields room metatable).entries = fields.map fun f => (.ofText f.1, f.2) := by
  have hentries : (record fields room metatable).entries =
      (fields.map fun f => (Datum.ofText f.1, f.2)).filter fun entry => !entry.2.isNil := rfl
  rw [hentries, List.filter_eq_self]
  intro entry hentry
  obtain ⟨f, hf, rfl⟩ := List.mem_map.mp hentry
  simp [h f hf]

theorem le_capacity (n : ℕ) : n ≤ capacity n := by
  unfold capacity
  split_ifs with hzero hpower
  · omega
  · exact le_rfl
  · exact Nat.lt_log2_self.le

/-! Storing under any name. -/

theorem replaceField_record (x : String) (d : Datum) (hd : d.isNil = false)
    (hfields : ∀ f ∈ fields, f.2.isNil = false) :
    ∃ fields' : List (String × Datum),
      replaceField (.ofText x) d (fields.map fun f => (Datum.ofText f.1, f.2)) =
        fields'.map (fun f => (Datum.ofText f.1, f.2)) ∧
      (∀ f ∈ fields', f.2.isNil = false) ∧
      (x ∈ fields.map Prod.fst → fields'.lookup x = some d) ∧
      ∀ y, y ≠ x → fields'.lookup y = fields.lookup y := by
  induction fields with
  | nil => exact ⟨[], rfl, by simp, by simp, fun _ _ => rfl⟩
  | cons f fields ih =>
    obtain ⟨hf, hfields⟩ := List.forall_mem_cons.mp hfields
    by_cases hx : f.1 = x
    · refine ⟨(x, d) :: fields, ?_, List.forall_mem_cons.mpr ⟨hd, hfields⟩, ?_, ?_⟩
      · rw [List.map_cons, replaceField, if_pos (by rw [hx]), hx]
        rfl
      · simp
      · intro y hy
        rw [List.lookup_cons, List.lookup_cons, hx, beq_eq_false_iff_ne.mpr hy]
    · obtain ⟨fields', hreplace, hpresent, hmem, hothers⟩ := ih hfields
      refine ⟨f :: fields', ?_, List.forall_mem_cons.mpr ⟨hf, hpresent⟩, ?_, ?_⟩
      · rw [List.map_cons, replaceField, if_neg (by rwa [ofText_inj]), hreplace]
        rfl
      · intro hin
        rw [List.lookup_cons, beq_eq_false_iff_ne.mpr (Ne.symm hx)]
        rw [List.map_cons, List.mem_cons] at hin
        exact hmem (hin.resolve_left (Ne.symm hx))
      · intro y hy
        rw [List.lookup_cons, List.lookup_cons, hothers y hy]

theorem foldl_place_record (done : List (String × Datum)) (room : ℕ) :
    (fields.map fun f => (Datum.ofText f.1, f.2)).foldl (fun t entry => t.place entry.1 entry.2)
      (record done room metatable) = record (done ++ fields) (room - fields.length) metatable := by
  induction fields generalizing done room with
  | nil => simp
  | cons f fields ih =>
    have hplace : (record done room metatable).place (.ofText f.1) f.2 =
        record (done ++ [f]) (room - 1) metatable := by
      simp [place, record, slot?, Datum.ofText]
    rw [List.map_cons, List.foldl_cons, hplace, ih, List.append_assoc, List.singleton_append,
      List.length_cons, Nat.sub_sub, Nat.add_comm]

/-- A table of texts has no slots when it is laid out again. -/
theorem layOut_record (x : String) (hfields : ∀ f ∈ fields, f.2.isNil = false) :
    (record fields room metatable).layOut (.ofText x) =
      record fields (capacity (fields.length + 1) - fields.length) metatable := by
  have hpositions : (Datum.ofText x :: (fields.map fun f => (Datum.ofText f.1, f.2)).map
      Prod.fst).filterMap position? = [] := by
    rw [List.filterMap_eq_nil_iff]
    intro d hd
    rcases List.mem_cons.mp hd with rfl | hd
    · rfl
    · obtain ⟨entry, hentry, rfl⟩ := List.mem_map.mp hd
      obtain ⟨f, -, rfl⟩ := List.mem_map.mp hentry
      rfl
  have hsize : arraySize [] = 0 := by decide
  unfold layOut
  rw [entries_record hfields]
  dsimp only
  rw [hpositions, hsize, List.length_map]
  exact foldl_place_record [] _

theorem lookup_concat (x : String) (d : Datum) (hx : x ∉ fields.map Prod.fst) :
    (fields ++ [(x, d)]).lookup x = some d ∧
      ∀ y, y ≠ x → (fields ++ [(x, d)]).lookup y = fields.lookup y := by
  have hnone : fields.lookup x = none := by
    rw [List.lookup_eq_none_iff]
    intro f hf
    rw [bne_iff_ne]
    rintro rfl
    exact hx (List.mem_map_of_mem hf)
  refine ⟨by simp [List.lookup_append, hnone], fun y hy => ?_⟩
  rw [List.lookup_append, List.lookup_cons, beq_eq_false_iff_ne.mpr hy]
  simp

/-- A value that is stored under a name is there, and other names have what they had. -/
theorem set_record_spec (room : ℕ) (metatable : Option ℕ)
    (hfields : ∀ f ∈ fields, f.2.isNil = false) (x : String) (d : Datum) (hd : d.isNil = false) :
    ∃ (fields' : List (String × Datum)) (room' : ℕ), (record fields room metatable).set
        (.ofText x) d = record fields' room' metatable ∧
      (∀ f ∈ fields', f.2.isNil = false) ∧ fields'.lookup x = some d ∧
      ∀ y, y ≠ x → fields'.lookup y = fields.lookup y := by
  have hnew (room : ℕ) (hx : x ∉ fields.map Prod.fst) (hroom : 0 < room) :
      ∃ (fields' : List (String × Datum)) (room' : ℕ), (record fields room metatable).set
          (.ofText x) d = record fields' room' metatable ∧
        (∀ f ∈ fields', f.2.isNil = false) ∧ fields'.lookup x = some d ∧
        ∀ y, y ≠ x → fields'.lookup y = fields.lookup y := by
    refine ⟨fields ++ [(x, d)], room - 1, set_record x d hx hd hroom, ?_, lookup_concat x d hx⟩
    exact List.forall_mem_append.mpr ⟨hfields, List.forall_mem_singleton.mpr hd⟩
  by_cases hx : x ∈ fields.map Prod.fst
  · obtain ⟨fields', hreplace, hpresent, hmem, hothers⟩ := replaceField_record x d hd hfields
    refine ⟨fields', room, ?_, hpresent, hmem hx, hothers⟩
    have hfield : hasField (.ofText x) (fields.map fun f => (Datum.ofText f.1, f.2)) = true := by
      obtain ⟨f, hf, rfl⟩ := List.mem_map.mp hx
      rw [hasField, List.any_eq_true]
      exact ⟨_, List.mem_map_of_mem hf, beq_self_eq_true _⟩
    rw [set_ofText_record, hfield, hreplace]
    rfl
  · rcases Nat.eq_zero_or_pos room with rfl | hroom
    · -- Without room for the name the table is laid out again.
      have hlay : (record fields 0 metatable).set (.ofText x) d =
          (record fields (capacity (fields.length + 1) - fields.length) metatable).set
            (.ofText x) d := by
        have hroom : 0 < capacity (fields.length + 1) - fields.length := by
          have := le_capacity (fields.length + 1)
          omega
        rw [set_ofText_record, set_ofText_record, hasField_record x hx, hd, layOut_record x hfields]
        simp [hroom]
      rw [hlay]
      refine hnew _ hx ?_
      have := le_capacity (fields.length + 1)
      omega
    · exact hnew room hx hroom

/-! Tables that are made of texts. -/

/-- Whether all keys of a table are texts and all its values are there. -/
def isRecord (t : Table) : Bool :=
  t.items.isEmpty && t.edge == 0 && t.fields.all fun entry =>
    !entry.2.isNil &&
      match entry.1 with
      | .text s => Utf8.encode (Utf8.decode s) == s
      | _ => false

theorem eq_record_of_isRecord {t : Table} (h : t.isRecord = true) :
    ∃ fields : List (String × Datum), t = record fields t.room t.metatable ∧
      ∀ f ∈ fields, f.2.isNil = false := by
  obtain ⟨items, entries, room, edge, metatable⟩ := t
  simp only [isRecord, Bool.and_eq_true, List.all_eq_true, Array.isEmpty_iff, beq_iff_eq] at h
  obtain ⟨⟨rfl, rfl⟩, h⟩ := h
  suffices ∃ fields : List (String × Datum),
      entries = fields.map (fun f => (Datum.ofText f.1, f.2)) ∧ ∀ f ∈ fields, f.2.isNil = false by
    obtain ⟨fields, rfl, hfields⟩ := this
    exact ⟨fields, rfl, hfields⟩
  induction entries with
  | nil => exact ⟨[], rfl, by simp⟩
  | cons entry entries ih =>
    obtain ⟨hentry, hentries⟩ := List.forall_mem_cons.mp h
    obtain ⟨fields, rfl, hfields⟩ := ih hentries
    obtain ⟨key, d⟩ := entry
    cases key with
    | text s =>
      simp only [Bool.not_eq_true', beq_iff_eq] at hentry
      refine ⟨(Utf8.decode s, d) :: fields, ?_, List.forall_mem_cons.mpr ⟨hentry.1, hfields⟩⟩
      rw [List.map_cons, Datum.ofText, hentry.2]
    | _ => simp at hentry

/-! Sequences. -/

/-- A table with values in its first slots and nothing in its others. -/
def sequence (ds : List Datum) (spare : ℕ) (metatable : Option ℕ) : Table :=
  ⟨(ds ++ List.replicate spare Datum.nil).toArray, [], 0, ds.length + spare, metatable⟩

theorem setAll_eq (ds values rest : List Datum) :
    (values.zipIdx ds.length).foldl (fun (a : Array Datum) slot => a.setIfInBounds slot.2 slot.1)
      (ds ++ List.replicate values.length Datum.nil ++ rest).toArray =
      (ds ++ values ++ rest).toArray := by
  induction values generalizing ds with
  | nil => simp
  | cons v values ih =>
    have hset : (ds ++ List.replicate (v :: values).length Datum.nil ++ rest).toArray.setIfInBounds
        ds.length v = ((ds ++ [v]) ++ List.replicate values.length Datum.nil ++ rest).toArray := by
      simp [List.replicate_succ]
    have hmore := ih (ds ++ [v])
    rw [List.length_append, List.length_singleton] at hmore
    rw [List.zipIdx_cons, List.foldl_cons, hset, hmore]
    simp

theorem withSlots_sequence (ds : List Datum) (spare more : ℕ) :
    (sequence ds spare metatable).withSlots (ds.length + more) =
      sequence ds (max spare more) metatable := by
  have hsize : (sequence ds spare metatable).items.size = ds.length + spare := by simp [sequence]
  unfold withSlots
  rw [hsize]
  split_ifs with hle
  · rw [max_eq_left (by omega)]
  · rw [max_eq_right (by omega),
      show ds.length + more - (ds.length + spare) = more - spare by omega]
    have hslots : spare + (more - spare) = more := by omega
    simp [sequence, hslots]

/-- Values after those that are there fill further slots, and make slots that are missing. -/
theorem fillFrom_sequence (ds values : List Datum) (spare : ℕ) :
    (sequence ds spare metatable).fillFrom ds.length values =
      sequence (ds ++ values) (spare - values.length) metatable := by
  have hall := setAll_eq ds values (List.replicate (spare - values.length) Datum.nil)
  have hslots : max spare values.length = values.length + (spare - values.length) := by omega
  unfold fillFrom
  rw [withSlots_sequence, hslots]
  unfold sequence
  rw [List.replicate_add, ← List.append_assoc]
  dsimp only
  rw [hall, List.length_append, Nat.add_assoc]

/-! The border of a full sequence. -/

variable {ds : List Datum}

theorem getInt_sequence (hsize : ds.length < 2 ^ 63) (i : ℕ) (hi : i < ds.length) :
    (sequence ds 0 metatable).getInt (i + 1) = ds[i] := by
  have hint : (Int64.ofInt ((i : ℤ) + 1)).toInt = i + 1 := by
    rw [Int64.toInt_ofInt_of_le (by omega) (by omega)]
  have hslot : (sequence ds 0 metatable).slot? (.int (Int64.ofInt ((i : ℤ) + 1))) = some i := by
    unfold slot?
    dsimp only
    rw [hint, if_pos (by simp [sequence]; omega)]
    simp
  rw [getInt, getKey, hslot]
  simp [sequence, hi]

theorem getInt_sequence_end (hsize : ds.length < 2 ^ 63) :
    (sequence ds 0 metatable).getInt (ds.length + 1) = .nil := by
  have hslot :
      (sequence ds 0 metatable).slot? (.int (Int64.ofInt ((ds.length : ℤ) + 1))) = none := by
    unfold slot?
    dsimp only
    rw [if_neg]
    rintro ⟨hlow, hhigh⟩
    simp only [sequence, List.replicate_zero, List.append_nil, List.size_toArray] at hhigh
    -- The position after the last one that an integer counts is the least integer.
    rcases Nat.lt_or_ge (ds.length + 1) (2 ^ 63) with hsmall | hlarge
    · rw [Int64.toInt_ofInt_of_le (by omega) (by omega)] at hhigh
      omega
    · rw [show (ds.length : ℤ) + 1 = 2 ^ 63 by omega] at hlow
      exact absurd hlow (by decide)
  rw [getInt, getKey, hslot]
  rfl

theorem border_sequence (hsize : ds.length < 2 ^ 63) (hds : ∀ d ∈ ds, d.isNil = false) :
    (sequence ds 0 metatable).border = ds.length := by
  have hend : (sequence ds 0 metatable).getInt (ds.length + 1) = .nil :=
    getInt_sequence_end hsize
  have hlast (hpos : 0 < ds.length) :
      ((sequence ds 0 metatable).getInt (ds.length : ℕ)).isNil = false := by
    have hvalue : (sequence ds 0 metatable).getInt ((ds.length - 1 : ℕ) + 1) = _ :=
      getInt_sequence hsize (ds.length - 1) (by omega)
    rw [show ((ds.length - 1 : ℕ) : ℤ) + 1 = ds.length by omega] at hvalue
    rw [hvalue]
    exact hds _ (List.getElem_mem _)
  have hitems : (sequence ds 0 metatable).items.size = ds.length := by simp [sequence]
  have hedge : (sequence ds 0 metatable).edge = ds.length := by simp [sequence]
  unfold border findBorder
  dsimp only
  rw [hitems, hedge]
  rcases Nat.eq_zero_or_pos ds.length with hzero | hpos
  · rw [hzero] at hend ⊢
    simp only [Nat.cast_zero, zero_add] at hend
    simp [hend, Datum.isNil]
  · simp only [hlast hpos]
    simp [hend, Datum.isNil]

end Table

end Docbase.Script
