import Docbase.Proofs.Script.Table

/-!
What tables hold, whatever their layout. Storing under a key changes what is found under that
key and nothing else, also when the table is laid out again on the way; and a table that holds
values under 1, 2 and so on has its border after the last one, wherever the search starts.
-/
namespace Docbase.Script.Table

/-- A key has one place: its slot if the array has one, and at most one entry otherwise. A slot
behind the greatest integer is no key's. -/
structure Valid (t : Table) : Prop where
  size_le : t.items.size ≤ 2 ^ 63
  edge_le : t.edge ≤ 2 ^ 63
  beyond : t.items.getD (2 ^ 63 - 1) .nil = .nil
  nodup : (t.fields.map Prod.fst).Nodup
  apart : ∀ f ∈ t.fields, t.slot? f.1 = none

variable {t t' : Table} {key k value : Datum} {i : ℕ}

/-! Slots. -/

theorem slot?_eq_some (h : t.slot? key = some i) :
    ∃ n : Int64, key = .int n ∧ n.toInt = i + 1 ∧ i < t.items.size := by
  cases key with
  | int n =>
    unfold slot? at h
    dsimp only at h
    split_ifs at h with hn
    rw [Option.some_inj] at h
    exact ⟨n, rfl, by omega, by omega⟩
  | _ => simp [slot?] at h

theorem slot?_lt (h : t.slot? key = some i) : i + 1 < 2 ^ 63 := by
  obtain ⟨n, -, hn, -⟩ := slot?_eq_some h
  have := n.toInt_lt
  omega

theorem slot?_inj (h : t.slot? key = some i) (hk : t.slot? k = some i) : k = key := by
  obtain ⟨n, rfl, hn, -⟩ := slot?_eq_some h
  obtain ⟨m, rfl, hm, -⟩ := slot?_eq_some hk
  rw [Int64.toInt_inj.mp (hm.trans hn.symm)]

theorem slot?_congr (h : t'.items.size = t.items.size) (key : Datum) :
    t'.slot? key = t.slot? key := by
  unfold slot?
  rw [h]

theorem toInt_ofNat {n : ℕ} (hn : n < 2 ^ 63) : (Int64.ofNat n).toInt = n := by
  rw [← Int64.ofInt_eq_ofNat, Int64.toInt_ofInt_of_le (by omega) (by omega)]

theorem slot?_ofNat (hi : i < t.items.size) (hsmall : i + 1 < 2 ^ 63) :
    t.slot? (.int (Int64.ofNat (i + 1))) = some i := by
  unfold slot?
  dsimp only
  rw [toInt_ofNat hsmall, if_pos (by omega)]
  simp

theorem getKey_slot (h : t.slot? key = some i) : t.getKey key = t.items.getD i .nil := by
  rw [getKey, h]

theorem getKey_field (h : t.slot? key = none) : t.getKey key = lookUp key t.fields := by
  rw [getKey, h]

/-! Entries. -/

theorem lookUp_of_notMem {fields : List (Datum × Datum)} (h : key ∉ fields.map Prod.fst) :
    lookUp key fields = .nil := by
  induction fields with
  | nil => rfl
  | cons f fields ih =>
    rw [List.map_cons, List.mem_cons, not_or] at h
    rw [lookUp, if_neg (Ne.symm h.1), ih h.2]

theorem lookUp_of_mem {fields : List (Datum × Datum)} (hnodup : (fields.map Prod.fst).Nodup)
    (h : (key, value) ∈ fields) : lookUp key fields = value := by
  induction fields with
  | nil => simp at h
  | cons f fields ih =>
    rw [List.map_cons, List.nodup_cons] at hnodup
    rcases List.mem_cons.mp h with rfl | h
    · rw [lookUp, if_pos rfl]
    · rw [lookUp, if_neg, ih hnodup.2 h]
      rintro rfl
      exact hnodup.1 (List.mem_map.mpr ⟨_, h, rfl⟩)

theorem mem_of_lookUp {fields : List (Datum × Datum)} (h : lookUp key fields = value)
    (hvalue : value.isNil = false) : (key, value) ∈ fields := by
  induction fields with
  | nil =>
    subst h
    simp [lookUp, Datum.isNil] at hvalue
  | cons f fields ih =>
    rw [lookUp] at h
    split_ifs at h with hf
    · rw [← hf, ← h]
      exact List.mem_cons_self
    · exact List.mem_cons_of_mem _ (ih h)

theorem lookUp_append {fields : List (Datum × Datum)} (h : key ∉ fields.map Prod.fst) (k : Datum) :
    lookUp k (fields ++ [(key, value)]) = if k = key then value else lookUp k fields := by
  induction fields with
  | nil =>
    rw [List.nil_append, lookUp, lookUp]
    exact if_congr eq_comm rfl rfl
  | cons f fields ih =>
    rw [List.map_cons, List.mem_cons, not_or] at h
    rw [List.cons_append, lookUp, lookUp, ih h.2]
    split_ifs with hf hk
    · exact absurd (hk ▸ hf.symm) h.1
    all_goals rfl

theorem hasField_iff {fields : List (Datum × Datum)} :
    hasField key fields = true ↔ key ∈ fields.map Prod.fst := by
  simp [hasField, List.any_eq_true]

theorem keys_replaceField (fields : List (Datum × Datum)) :
    (replaceField key value fields).map Prod.fst = fields.map Prod.fst := by
  induction fields with
  | nil => rfl
  | cons f fields ih =>
    rw [replaceField]
    split_ifs
    · rfl
    · rw [List.map_cons, ih, List.map_cons]

theorem lookUp_replaceField {fields : List (Datum × Datum)} (h : key ∈ fields.map Prod.fst)
    (k : Datum) :
    lookUp k (replaceField key value fields) = if k = key then value else lookUp k fields := by
  induction fields with
  | nil => simp at h
  | cons f fields ih =>
    rw [List.map_cons, List.mem_cons] at h
    rw [replaceField]
    by_cases hf : f.1 = key
    · rw [if_pos hf, lookUp, lookUp]
      by_cases hk : k = key
      · rw [if_pos (hf.trans hk.symm), if_pos hk]
      · have hne : f.1 ≠ k := fun heq => hk (heq.symm.trans hf)
        rw [if_neg hne, if_neg hk, if_neg hne]
    · rw [if_neg hf, lookUp, lookUp, ih (h.resolve_left (Ne.symm hf))]
      split_ifs with hfk hk
      · exact absurd (hfk.trans hk) hf
      all_goals rfl

/-! Putting entries in their place. -/

theorem getD_setIfInBounds {a : Array Datum} (hi : i < a.size) (j : ℕ) :
    (a.setIfInBounds i value).getD j .nil = if j = i then value else a.getD j .nil := by
  simp only [Array.getD_eq_getD_getElem?, Array.getElem?_setIfInBounds]
  by_cases hj : i = j
  · subst hj
    simp [hi]
  · simp [hj, Ne.symm hj]

theorem getKey_setItem {t' : Table} (h : t.slot? key = some i)
    (hitems : t'.items = t.items.setIfInBounds i value) (hfields : t'.fields = t.fields)
    (k : Datum) : t'.getKey k = if k = key then value else t.getKey k := by
  obtain ⟨-, -, -, hi⟩ := slot?_eq_some h
  have hsize : t'.items.size = t.items.size := by rw [hitems, Array.size_setIfInBounds]
  cases hk : t.slot? k with
  | none =>
    rw [getKey_field ((slot?_congr hsize k).trans hk), hfields, if_neg, getKey_field hk]
    rintro rfl
    simp [h] at hk
  | some j =>
    rw [getKey_slot ((slot?_congr hsize k).trans hk), hitems, getD_setIfInBounds hi,
      getKey_slot hk]
    refine if_congr ⟨?_, ?_⟩ rfl rfl
    · rintro rfl
      exact slot?_inj h hk
    · rintro rfl
      exact Option.some_inj.mp (hk.symm.trans h)

theorem Valid.setItem (hv : t.Valid) (h : t.slot? key = some i) (value : Datum) {edge room : ℕ}
    (hedge : edge ≤ 2 ^ 63) (metatable : Option ℕ) :
    Valid ⟨t.items.setIfInBounds i value, t.fields, room, edge, metatable⟩ where
  size_le := by simpa using hv.size_le
  edge_le := hedge
  beyond := by
    have hlt := slot?_lt h
    obtain ⟨-, -, -, hi⟩ := slot?_eq_some h
    rw [getD_setIfInBounds hi, if_neg (by omega), hv.beyond]
  nodup := hv.nodup
  apart f hf := (slot?_congr (by simp) f.1).trans (hv.apart f hf)

theorem getKey_setField {t' : Table} (h : t.slot? key = none) (hitems : t'.items = t.items)
    (hfields : ∀ k, lookUp k t'.fields = if k = key then value else lookUp k t.fields)
    (k : Datum) : t'.getKey k = if k = key then value else t.getKey k := by
  have hslot : t'.slot? k = t.slot? k := slot?_congr (by rw [hitems]) k
  cases hk : t.slot? k with
  | none => rw [getKey_field (hslot.trans hk), hfields, getKey_field hk]
  | some j =>
    rw [getKey_slot (hslot.trans hk), hitems, getKey_slot hk, if_neg]
    rintro rfl
    simp [h] at hk

/-- An entry under a key that no other entry has. -/
theorem place_spec (hv : t.Valid) (hnew : key ∉ t.fields.map Prod.fst) (value : Datum) :
    (t.place key value).Valid ∧
      (∀ k, (t.place key value).getKey k = if k = key then value else t.getKey k) ∧
      (t.place key value).fields.map Prod.fst ⊆ key :: t.fields.map Prod.fst := by
  unfold place
  cases h : t.slot? key with
  | some i =>
    refine ⟨hv.setItem h value hv.edge_le _, getKey_setItem h rfl rfl, ?_⟩
    exact List.subset_cons_self _ _
  | none =>
    dsimp only
    refine ⟨⟨hv.size_le, hv.edge_le, hv.beyond, ?_, ?_⟩,
      getKey_setField h rfl (lookUp_append hnew), ?_⟩
    · rw [List.map_append]
      exact hv.nodup.append (List.nodup_singleton _) (by simpa using hnew)
    · intro f hf
      rcases List.mem_append.mp hf with hf | hf
      · exact hv.apart f hf
      · obtain rfl := List.mem_singleton.mp hf
        exact h
    · intro k hk
      simpa [or_comm] using hk

/-- Entries with different keys, one after the other. -/
theorem foldl_place_spec (entries : List (Datum × Datum)) (hv : t.Valid)
    (hnodup : (t.fields.map Prod.fst ++ entries.map Prod.fst).Nodup) :
    (entries.foldl (fun t entry => t.place entry.1 entry.2) t).Valid ∧
      (∀ entry ∈ entries, (entries.foldl (fun t entry => t.place entry.1 entry.2) t).getKey
        entry.1 = entry.2) ∧
      (∀ k ∉ entries.map Prod.fst,
        (entries.foldl (fun t entry => t.place entry.1 entry.2) t).getKey k = t.getKey k) ∧
      (entries.foldl (fun t entry => t.place entry.1 entry.2) t).fields.map Prod.fst ⊆
        t.fields.map Prod.fst ++ entries.map Prod.fst := by
  induction entries generalizing t with
  | nil => exact ⟨hv, by simp, fun _ _ => rfl, by simp⟩
  | cons entry entries ih =>
    rw [List.map_cons, List.nodup_middle, List.nodup_cons] at hnodup
    obtain ⟨hnew, hnodup⟩ := hnodup
    rw [List.mem_append, not_or] at hnew
    obtain ⟨hplaced, hget, hkeys⟩ := place_spec hv hnew.1 entry.2
    have hnodup' : ((t.place entry.1 entry.2).fields.map Prod.fst ++
        entries.map Prod.fst).Nodup := by
      refine hplaced.nodup.append hnodup.of_append_right fun k hk hk' => ?_
      rcases List.mem_cons.mp (hkeys hk) with rfl | hk
      · exact hnew.2 hk'
      · exact List.disjoint_of_nodup_append hnodup hk hk'
    obtain ⟨hvalid, hin, hout, hsub⟩ := ih hplaced hnodup'
    rw [List.foldl_cons]
    refine ⟨hvalid, fun e he => ?_, fun k hk => ?_, fun k hk => ?_⟩
    · rcases List.mem_cons.mp he with rfl | he
      · rw [hout _ hnew.2, hget, if_pos rfl]
      · exact hin e he
    · rw [List.map_cons, List.mem_cons, not_or] at hk
      rw [hout k hk.2, hget, if_neg hk.1]
    · have hk := hsub hk
      rw [List.mem_append] at hk
      rw [List.map_cons, List.mem_append, List.mem_cons]
      rcases hk with hk | hk
      · rcases List.mem_cons.mp (hkeys hk) with rfl | hk
        · exact .inr (.inl rfl)
        · exact .inl hk
      · exact .inr (.inr hk)

/-! Laying a table out again. -/

theorem mem_slots {entry : Datum × Datum} (hv : t.Valid) (hvalue : entry.2.isNil = false) :
    entry ∈ (t.items.toList.zipIdx 1).map
        (fun slot => (Datum.int (Int64.ofNat slot.2), slot.1)) ↔
      ∃ i, t.slot? entry.1 = some i ∧ t.items.getD i .nil = entry.2 := by
  rw [List.mem_map]
  constructor
  · rintro ⟨⟨d, p⟩, hmem, rfl⟩
    rw [List.mem_zipIdx_iff_le_and_getElem?_sub] at hmem
    obtain ⟨hp, hget⟩ := hmem
    have hlt : p - 1 < t.items.size := by
      have := (List.getElem?_eq_some_iff.mp hget).1
      simpa using this
    have hitem : t.items.getD (p - 1) .nil = d := by
      rw [Array.getElem?_toList] at hget
      rw [Array.getD_eq_getD_getElem?, hget, Option.getD_some]
    have hsmall : p - 1 + 1 < 2 ^ 63 := by
      have hne : p - 1 ≠ 2 ^ 63 - 1 := by
        intro heq
        rw [heq, hv.beyond] at hitem
        subst hitem
        simp [Datum.isNil] at hvalue
      have := hv.size_le
      omega
    have hslot := slot?_ofNat hlt hsmall
    rw [Nat.sub_add_cancel hp] at hslot
    exact ⟨p - 1, hslot, hitem⟩
  · rintro ⟨i, hslot, hitem⟩
    obtain ⟨n, hn, hint, hi⟩ := slot?_eq_some hslot
    refine ⟨(entry.2, i + 1), ?_, ?_⟩
    · rw [List.mem_zipIdx_iff_le_and_getElem?_sub]
      refine ⟨Nat.le_add_left 1 i, ?_⟩
      rw [Nat.add_sub_cancel, Array.getElem?_toList, Array.getElem?_eq_getElem hi, ← hitem,
        Array.getD_eq_getD_getElem?, Array.getElem?_eq_getElem hi, Option.getD_some]
    · have hkey : Int64.ofNat (i + 1) = n := by
        rw [← Int64.toInt_inj, toInt_ofNat (slot?_lt hslot), hint]
        rfl
      rw [hkey, ← hn]

theorem mem_entries (hv : t.Valid) {entry : Datum × Datum} :
    entry ∈ t.entries ↔ entry.2.isNil = false ∧ t.getKey entry.1 = entry.2 := by
  rw [entries, List.mem_filter, List.mem_append, and_comm, Bool.not_eq_true']
  refine and_congr_right fun hvalue => ?_
  rw [mem_slots hv hvalue]
  cases h : t.slot? entry.1 with
  | none =>
    rw [getKey_field h]
    constructor
    · rintro (⟨i, hi, -⟩ | hmem)
      · cases hi
      · exact lookUp_of_mem hv.nodup hmem
    · exact fun hlook => .inr (mem_of_lookUp hlook hvalue)
  | some i =>
    rw [getKey_slot h]
    constructor
    · rintro (⟨j, hj, hitem⟩ | hmem)
      · rwa [Option.some_inj.mp hj]
      · rw [hv.apart _ hmem] at h
        cases h
    · exact fun hitem => .inl ⟨i, rfl, hitem⟩

theorem ofNat_inj {m n : ℕ} (hm : m < 2 ^ 64) (hn : n < 2 ^ 64)
    (h : Int64.ofNat m = Int64.ofNat n) : m = n := by
  have hbits := congrArg (fun x : Int64 => x.toBitVec.toNat) h
  have hmod : m % 2 ^ 64 = n % 2 ^ 64 := by simpa using hbits
  rwa [Nat.mod_eq_of_lt hm, Nat.mod_eq_of_lt hn] at hmod

theorem nodup_entries (hv : t.Valid) : (t.entries.map Prod.fst).Nodup := by
  have hslots : ((t.items.toList.zipIdx 1).map fun slot =>
      (Datum.int (Int64.ofNat slot.2), slot.1)).Nodup := by
    refine List.Nodup.of_map Prod.fst ?_
    have hkeys : ((t.items.toList.zipIdx 1).map fun slot =>
        (Datum.int (Int64.ofNat slot.2), slot.1)).map Prod.fst =
        (List.range' 1 t.items.size).map fun p => Datum.int (Int64.ofNat p) := by
      rw [List.map_map, ← Array.length_toList, ← List.zipIdx_map_snd, List.map_map]
      rfl
    rw [hkeys]
    refine List.Nodup.map_on (fun m hm n hn heq => ?_) List.nodup_range'
    rw [List.mem_range'_1] at hm hn
    have hsize := hv.size_le
    exact ofNat_inj (by omega) (by omega) (Datum.int.inj heq)
  have hentries : t.entries.Nodup := by
    rw [entries, List.filter_append]
    refine (hslots.filter _).append (hv.nodup.of_map.filter _) fun entry hslot hfield => ?_
    rw [List.mem_filter, Bool.not_eq_true'] at hslot hfield
    obtain ⟨i, hi, -⟩ := (mem_slots hv hslot.2).mp hslot.1
    rw [hv.apart _ hfield.1] at hi
    cases hi
  refine hentries.map_on fun a ha b hb heq => Prod.ext heq ?_
  rw [← ((mem_entries hv).mp ha).2, ← ((mem_entries hv).mp hb).2, heq]

theorem arraySizeFrom_le (positions : List ℕ) (fuel size best : ℕ)
    (hsize : size * 2 ^ fuel ≤ 2 ^ 64) (hbest : best ≤ 2 ^ 63) :
    arraySizeFrom positions fuel size best ≤ 2 ^ 63 := by
  induction fuel generalizing size best with
  | zero => exact hbest
  | succ fuel ih =>
    rw [arraySizeFrom]
    have hpow : 0 < 2 ^ fuel := Nat.two_pow_pos fuel
    have hstep : 2 * size * 2 ^ fuel ≤ 2 ^ 64 := by
      rw [pow_succ] at hsize
      linarith
    have hle : size ≤ 2 ^ 63 := by nlinarith
    by_cases hused : size / 2 < positions.length
    · rw [if_pos hused]
      refine ih _ _ hstep ?_
      split_ifs
      · exact hle
      · exact hbest
    · rwa [if_neg hused]

theorem valid_blank (size room : ℕ) (hsize : size ≤ 2 ^ 63) (metatable : Option ℕ) :
    Valid ⟨Array.replicate size .nil, [], room, size, metatable⟩ where
  size_le := by simpa using hsize
  edge_le := hsize
  beyond := by
    rw [Array.getD_eq_getD_getElem?, Array.getElem?_replicate]
    split_ifs <;> rfl
  nodup := List.nodup_nil
  apart := by simp

theorem valid_of_fields (hitems : t.items = #[]) (hedge : t.edge = 0)
    (hnodup : (t.fields.map Prod.fst).Nodup) : t.Valid := by
  refine ⟨by simp [hitems], by simp [hedge], by simp [hitems], hnodup, fun f _ => ?_⟩
  cases hslot : t.slot? f.1 with
  | none => rfl
  | some i =>
    obtain ⟨-, -, -, hi⟩ := slot?_eq_some hslot
    simp [hitems] at hi

theorem valid_of_isRecord (h : t.isRecord = true) (hnodup : (t.fields.map Prod.fst).Nodup) :
    t.Valid := by
  simp only [isRecord, Bool.and_eq_true, Array.isEmpty_iff, beq_iff_eq] at h
  exact valid_of_fields h.1.1 h.1.2 hnodup

/-- A table that is laid out again holds what it held, and nothing under an absent key. -/
theorem layOut_spec (hv : t.Valid) (key : Datum) :
    (t.layOut key).Valid ∧ (∀ k, (t.layOut key).getKey k = t.getKey k) ∧
      ∀ k ∈ (t.layOut key).fields.map Prod.fst, (t.getKey k).isNil = false := by
  unfold layOut
  set positions := (key :: t.entries.map Prod.fst).filterMap position?
  set size := arraySize positions
  have hsize : size ≤ 2 ^ 63 := arraySizeFrom_le positions 64 1 0 (by norm_num) (by norm_num)
  have hblank := valid_blank size
    (capacity (t.entries.length + 1 - positions.countP fun p => p ≤ size)) hsize t.metatable
  have hnodup := nodup_entries hv
  obtain ⟨hvalid, hin, hout, hkeys⟩ := foldl_place_spec t.entries hblank hnodup
  have hentry {k : Datum} (hk : k ∈ t.entries.map Prod.fst) :
      ∃ d, d.isNil = false ∧ t.getKey k = d ∧ (k, d) ∈ t.entries := by
    obtain ⟨entry, hmem, rfl⟩ := List.mem_map.mp hk
    obtain ⟨hvalue, hget⟩ := (mem_entries hv).mp hmem
    exact ⟨entry.2, hvalue, hget, hmem⟩
  refine ⟨hvalid, fun k => ?_, fun k hk => ?_⟩
  · by_cases hk : k ∈ t.entries.map Prod.fst
    · obtain ⟨d, -, hget, hmem⟩ := hentry hk
      rw [hget]
      exact hin (k, d) hmem
    · have hnil : t.getKey k = .nil := by
        by_contra hne
        have hvalue : (t.getKey k).isNil = false :=
          Bool.eq_false_iff.mpr fun hnil => hne (Datum.isNil_iff.mp hnil)
        exact hk (List.mem_map.mpr ⟨(k, t.getKey k), (mem_entries hv).mpr ⟨hvalue, rfl⟩, rfl⟩)
      rw [hnil]
      refine (hout k hk).trans ?_
      unfold getKey
      split
      · rw [Array.getD_eq_getD_getElem?, Array.getElem?_replicate]
        split_ifs <;> rfl
      · rfl
  · obtain ⟨d, hd, hget, -⟩ := hentry (hkeys hk)
    rwa [hget]

/-! Storing. -/

theorem place_metatable (t : Table) (key value : Datum) :
    (t.place key value).metatable = t.metatable := by
  unfold place
  split <;> rfl

theorem layOut_metatable (t : Table) (key : Datum) :
    (t.layOut key).metatable = t.metatable := by
  unfold layOut
  generalize t.entries = old
  have hfold (entries : List (Datum × Datum)) (start : Table) :
      (entries.foldl (fun t entry => t.place entry.1 entry.2) start).metatable =
        start.metatable := by
    induction entries generalizing start with
    | nil => rfl
    | cons entry entries ih => rw [List.foldl_cons, ih, place_metatable]
  exact hfold old _

theorem setKey_metatable (t : Table) (key value : Datum) :
    (t.setKey key value).metatable = t.metatable := by
  unfold setKey
  split
  · rfl
  · split_ifs
    · rfl
    · rfl
    · exact place_metatable t key value
    · rw [place_metatable, layOut_metatable]

/-- Storing under a key changes what is found there and nothing else. -/
theorem setKey_spec (hv : t.Valid) (key value : Datum) :
    (t.setKey key value).Valid ∧
      ∀ k, (t.setKey key value).getKey k = if k = key then value else t.getKey k := by
  unfold setKey
  cases h : t.slot? key with
  | some i =>
    have hedge : max t.edge (i + 1) ≤ 2 ^ 63 := max_le hv.edge_le (slot?_lt h).le
    exact ⟨hv.setItem h value hedge _, getKey_setItem h rfl rfl⟩
  | none =>
    dsimp only
    split_ifs with hfield hvalue hroom
    · have hmem := hasField_iff.mp hfield
      have hkeys : (replaceField key value t.fields).map Prod.fst = t.fields.map Prod.fst :=
        keys_replaceField t.fields
      refine ⟨⟨hv.size_le, hv.edge_le, hv.beyond, hkeys ▸ hv.nodup, fun f hf => ?_⟩,
        getKey_setField h rfl (lookUp_replaceField hmem)⟩
      have hf' : f.1 ∈ t.fields.map Prod.fst := hkeys ▸ List.mem_map_of_mem hf
      obtain ⟨f', hf', heq⟩ := List.mem_map.mp hf'
      exact heq ▸ hv.apart f' hf'
    · refine ⟨hv, fun k => ?_⟩
      split_ifs with hk
      · have hnot : key ∉ t.fields.map Prod.fst := fun hmem => hfield (hasField_iff.mpr hmem)
        rw [hk, getKey_field h, lookUp_of_notMem hnot]
        exact (Datum.isNil_iff.mp hvalue).symm
      · rfl
    · have hnot : key ∉ t.fields.map Prod.fst := fun hmem => hfield (hasField_iff.mpr hmem)
      obtain ⟨hvalid, hget, -⟩ := place_spec hv hnot value
      exact ⟨hvalid, hget⟩
    · -- Laid out again, the table has no entry under the key, as it had none before.
      have hnot : key ∉ t.fields.map Prod.fst := fun hmem => hfield (hasField_iff.mpr hmem)
      obtain ⟨hlaid, hsame, hkeys⟩ := layOut_spec hv key
      have hnew : key ∉ (t.layOut key).fields.map Prod.fst := by
        intro hmem
        have hpresent := hkeys key hmem
        rw [getKey_field h, lookUp_of_notMem hnot] at hpresent
        simp [Datum.isNil] at hpresent
      obtain ⟨hvalid, hget, -⟩ := place_spec hlaid hnew value
      refine ⟨hvalid, fun k => ?_⟩
      rw [hget, hsame]

/-! Where the search for a border starts. -/

/-- The same table, whose next search may start elsewhere. -/
structure Moved (t t' : Table) : Prop where
  eq : t' = { t with edge := t'.edge }
  edge_le : t.edge ≤ 2 ^ 63 → t'.edge ≤ 2 ^ 63

theorem Moved.refl (t : Table) : Moved t t := ⟨rfl, id⟩

theorem Moved.trans {t'' : Table} (hm : Moved t t') (hm' : Moved t' t'') : Moved t t'' where
  eq := hm'.eq.trans (by rw [hm.eq])
  edge_le h := hm'.edge_le (hm.edge_le h)

theorem Moved.getKey (hm : Moved t t') (key : Datum) : t'.getKey key = t.getKey key := by
  rw [hm.eq]
  rfl

theorem Moved.metatable (hm : Moved t t') : t'.metatable = t.metatable := by rw [hm.eq]

theorem Moved.valid (hm : Moved t t') (hv : t.Valid) : t'.Valid := by
  rw [hm.eq]
  exact ⟨hv.size_le, hm.edge_le hv.edge_le, hv.beyond, hv.nodup, hv.apart⟩

theorem moved_touch (t : Table) (key : Datum) : Moved t (t.touch key) := by
  unfold touch
  split
  · next i h =>
    split_ifs
    · exact ⟨rfl, fun _ => (slot?_lt h).le⟩
    · exact .refl t
  · exact .refl t

/-! Lists. -/

/-- The table holds the values of a list under 1, 2 and so on, none of them nil, and nothing
under any other key. -/
structure Lists (t : Table) (ds : List Datum) : Prop where
  valid : t.Valid
  length_lt : ds.length < 2 ^ 63
  present : ∀ d ∈ ds, d.isNil = false
  getKey : ∀ key, t.getKey key = ((position? key).bind fun p => ds[p - 1]?).getD .nil

variable {ds : List Datum}

theorem position?_eq_some {p : ℕ} (h : position? key = some p) :
    ∃ n : Int64, key = .int n ∧ n.toInt = p ∧ 0 < p := by
  cases key with
  | int n =>
    unfold position? at h
    dsimp only at h
    split_ifs at h with hn
    rw [Option.some_inj] at h
    exact ⟨n, rfl, by omega, by omega⟩
  | _ => simp [position?] at h

theorem position?_ofNat {p : ℕ} (hp : 0 < p) (hsmall : p < 2 ^ 63) :
    position? (.int (Int64.ofNat p)) = some p := by
  unfold position?
  dsimp only
  rw [toInt_ofNat hsmall, if_pos (by omega), Int.toNat_natCast]

theorem lists_empty (metatable : Option ℕ) (edge room : ℕ) (hedge : edge ≤ 2 ^ 63) :
    Lists ⟨#[], [], room, edge, metatable⟩ [] where
  valid := ⟨by simp, hedge, rfl, List.nodup_nil, by simp⟩
  length_lt := by simp
  present := by simp
  getKey key := by
    have hslot : slot? ⟨#[], [], room, edge, metatable⟩ key = none := by
      cases h : slot? ⟨#[], [], room, edge, metatable⟩ key with
      | none => rfl
      | some i =>
        obtain ⟨-, -, -, hi⟩ := slot?_eq_some h
        simp at hi
    rw [getKey_field hslot]
    cases position? key <;> rfl

theorem Lists.getInt_of_lt (hl : t.Lists ds) (hi : i < ds.length) :
    t.getInt ((i + 1 : ℕ) : ℤ) = ds[i] := by
  have hsmall := hl.length_lt
  rw [getInt, Int64.ofInt_eq_ofNat, hl.getKey, position?_ofNat (by omega) (by omega)]
  simp [hi]

theorem Lists.get_of_getElem? (hl : t.Lists ds) {d : Datum} (hi : ds[i]? = some d) :
    t.get (.int (Int64.ofNat (i + 1))) = d := by
  obtain ⟨hlt, rfl⟩ := List.getElem?_eq_some_iff.mp hi
  have hget := hl.getInt_of_lt hlt
  rwa [getInt, Int64.ofInt_eq_ofNat] at hget

/-- What there is to find at a position, as far as integers reach around to the start. -/
theorem Lists.isNil_getInt (hl : t.Lists ds) (hi : 0 < i) (hsmall : i < 2 ^ 64) :
    (t.getInt (i : ℤ)).isNil = decide (ds.length < i) := by
  have hlength := hl.length_lt
  by_cases hle : i ≤ ds.length
  · obtain ⟨j, rfl⟩ := Nat.exists_eq_add_of_lt hi
    rw [Nat.zero_add] at hle ⊢
    rw [hl.getInt_of_lt hle, hl.present _ (List.getElem_mem _), eq_comm, decide_eq_false_iff_not]
    omega
  · rw [decide_eq_true (not_le.mp hle), getInt, Int64.ofInt_eq_ofNat, hl.getKey]
    cases hp : position? (.int (Int64.ofNat i)) with
    | none => rfl
    | some p =>
      obtain ⟨n, hn, hint, -⟩ := position?_eq_some hp
      have hnat := n.toInt_lt
      have hval : i = p := by
        refine ofNat_inj hsmall (by omega) ?_
        rw [Datum.int.inj hn, ← Int64.toInt_inj, toInt_ofNat (by omega), hint]
      rw [Option.bind_some, List.getElem?_eq_none (by omega)]
      rfl

theorem Lists.moved (hl : t.Lists ds) (hm : Moved t t') : t'.Lists ds :=
  ⟨hm.valid hl.valid, hl.length_lt, hl.present, fun key => (hm.getKey key).trans (hl.getKey key)⟩

/-- A value at a position of a list or right behind it. -/
theorem Lists.put (hl : t.Lists ds) {d : Datum} (hd : d.isNil = false) (hi : i ≤ ds.length)
    (hsmall : i + 1 < 2 ^ 63) :
    (t.setKey (.int (Int64.ofNat (i + 1))) d).Lists (ds.take i ++ d :: ds.drop (i + 1)) := by
  have hlength := hl.length_lt
  obtain ⟨hvalid, hget⟩ := setKey_spec hl.valid (.int (Int64.ofNat (i + 1))) d
  have htake : (ds.take i).length = i := List.length_take_of_le hi
  have hself : (ds.take i ++ d :: ds.drop (i + 1))[i]? = some d := by
    rw [List.getElem?_append_right htake.le, htake, Nat.sub_self]
    rfl
  have hother (j : ℕ) (hj : j ≠ i) : (ds.take i ++ d :: ds.drop (i + 1))[j]? = ds[j]? := by
    rcases Nat.lt_or_gt_of_ne hj with hlt | hgt
    · rw [List.getElem?_append_left (by omega), List.getElem?_take_of_lt hlt]
    · obtain ⟨m, rfl⟩ := Nat.exists_eq_add_of_lt hgt
      rw [List.getElem?_append_right (by omega), htake, show i + m + 1 - i = m + 1 by omega,
        List.getElem?_cons_succ, List.getElem?_drop, show i + 1 + m = i + m + 1 by omega]
  refine ⟨hvalid, ?_, ?_, fun key => ?_⟩
  · rw [List.length_append, List.length_cons, List.length_drop, htake]
    omega
  · intro e he
    rw [List.mem_append, List.mem_cons] at he
    rcases he with he | rfl | he
    · exact hl.present e (List.mem_of_mem_take he)
    · exact hd
    · exact hl.present e (List.mem_of_mem_drop he)
  · rw [hget]
    split_ifs with hkey
    · rw [hkey, position?_ofNat (by omega) hsmall, Option.bind_some, Nat.add_sub_cancel, hself]
      rfl
    · rw [hl.getKey]
      cases hp : position? key with
      | none => rfl
      | some p =>
        obtain ⟨n, rfl, hint, hpos⟩ := position?_eq_some hp
        have hne : p - 1 ≠ i := by
          rintro heq
          refine hkey (congrArg Datum.int ?_)
          rw [← Int64.toInt_inj, hint, toInt_ofNat hsmall]
          omega
        rw [Option.bind_some, Option.bind_some, hother _ hne]

/-- One more value at the end. -/
theorem Lists.push (hl : t.Lists ds) {d : Datum} (hd : d.isNil = false)
    (hsmall : ds.length + 1 < 2 ^ 63) :
    (t.setKey (.int (Int64.ofNat (ds.length + 1))) d).Lists (ds ++ [d]) := by
  have hput := hl.put hd le_rfl hsmall
  rwa [List.take_length, List.drop_of_length_le (Nat.le_succ _)] at hput

/-! The border of a list. -/

section Search

variable {P : ℕ → Bool} {n : ℕ}

theorem searchBorder_eq (fuel low high : ℕ) (hP : ∀ i, low < i → i < high → P i = decide (i ≤ n))
    (hlow : low ≤ n) (hhigh : n < high) (hfuel : high - low ≤ 2 ^ fuel) :
    searchBorder P fuel low high = n := by
  induction fuel generalizing low high with
  | zero =>
    rw [searchBorder]
    omega
  | succ fuel ih =>
    rw [searchBorder]
    split_ifs with hnear
    · omega
    · have hmiddle := hP ((low + high) / 2) (by omega) (by omega)
      rw [pow_succ] at hfuel
      dsimp only
      split_ifs with hpresent
      · rw [hpresent, eq_comm, decide_eq_true_eq] at hmiddle
        exact ih _ _ (fun i _ _ => hP i (by omega) (by omega)) hmiddle hhigh (by omega)
      · rw [Bool.not_eq_true] at hpresent
        rw [hpresent, eq_comm, decide_eq_false_iff_not, not_le] at hmiddle
        exact ih _ _ (fun i _ _ => hP i (by omega) (by omega)) hlow hmiddle (by omega)

theorem searchAbsent_eq (fuel low : ℕ) (hP : ∀ i, low < i → i < 2 ^ 64 → P i = decide (i ≤ n))
    (hpos : 0 < low) (hlow : low ≤ n) (hn : n < 2 ^ 63) (hfuel : n < low * 2 ^ fuel) :
    searchAbsent P fuel low = n := by
  have hlast : lastPosition = 2 ^ 63 - 1 := rfl
  induction fuel generalizing low with
  | zero => omega
  | succ fuel ih =>
    rw [searchAbsent, hlast]
    split_ifs with hreach hend
    · have hdouble := hP (2 * low) (by omega) (by omega)
      dsimp only
      split_ifs with hpresent
      · rw [hpresent, eq_comm, decide_eq_true_eq] at hdouble
        refine ih _ (fun i _ _ => hP i (by omega) (by omega)) (by omega) hdouble ?_
        rw [pow_succ] at hfuel
        linarith
      · rw [Bool.not_eq_true] at hpresent
        rw [hpresent, eq_comm, decide_eq_false_iff_not, not_le] at hdouble
        exact searchBorder_eq _ _ _ (fun i _ _ => hP i (by omega) (by omega)) hlow hdouble
          (by omega)
    · by_cases hbelow : low < 2 ^ 63 - 1
      · rw [hP _ hbelow (by omega), decide_eq_true_eq] at hend
        omega
      · omega
    · by_cases hbelow : low < 2 ^ 63 - 1
      · have hpast := hP _ hbelow (by omega)
        rw [Bool.not_eq_true] at hend
        rw [hend, eq_comm, decide_eq_false_iff_not, not_le] at hpast
        exact searchBorder_eq _ _ _ (fun i _ _ => hP i (by omega) (by omega)) hlow hpast
          (by omega)
      · rw [searchBorder, if_pos (by omega)]
        omega

end Search

/-- The border of a list is its end, and the next search starts at a position in reach. -/
theorem Lists.findBorder (hl : t.Lists ds) :
    t.findBorder.1 = ds.length ∧ t.findBorder.2 ≤ 2 ^ 63 := by
  have hlength := hl.length_lt
  have hsize := hl.valid.size_le
  have hedge := hl.valid.edge_le
  have hpresent (i : ℕ) (hi : i < 2 ^ 64) :
      (i == 0 || !(t.getInt (i : ℤ)).isNil) = decide (i ≤ ds.length) := by
    rcases Nat.eq_zero_or_pos i with rfl | hpos
    · simp
    · rw [hl.isNil_getInt hpos hi, beq_eq_false_iff_ne.mpr hpos.ne', Bool.false_or,
        ← decide_not]
      exact decide_eq_decide.mpr not_lt
  unfold Table.findBorder
  extract_lets n edge present moves border border'
  replace hpresent (i : ℕ) (hi : i < 2 ^ 64) : present i = decide (i ≤ ds.length) := hpresent i hi
  have hn : n ≤ 2 ^ 63 := hsize
  have he : edge ≤ 2 ^ 63 := hedge
  clear_value present n edge
  have hnot (i : ℕ) (hi : i < 2 ^ 64) : (!present i) = true ↔ ds.length < i := by
    rw [hpresent i hi, Bool.not_eq_true', decide_eq_false_iff_not, not_le]
  have hyes (i : ℕ) (hi : i < 2 ^ 64) : present i = true ↔ i ≤ ds.length := by
    rw [hpresent i hi, decide_eq_true_eq]
  -- Where the search starts behind the end of the list.
  have hborder (hpast : ds.length < edge) : border = ds.length := by
    change (if present (edge - 1) = true then edge - 1 else searchBorder present 64 0 edge) = _
    split_ifs with hbefore
    · rw [hyes _ (by omega)] at hbefore
      omega
    · exact searchBorder_eq _ _ _ (fun i _ hi => hpresent i (by omega)) (Nat.zero_le _) hpast
        (by omega)
  split_ifs with hpast _ hnear hlast hmore
  · rw [hnot edge (by omega)] at hpast
    exact ⟨hborder hpast.2, (hborder hpast.2).trans_le hlength.le⟩
  · rw [hnot edge (by omega)] at hpast
    exact ⟨hborder hpast.2, he⟩
  · rw [hnot edge (by omega)] at hpast
    rw [hnot _ (by omega)] at hnear
    exact ⟨show edge = _ by omega, he⟩
  · rw [hnot edge (by omega)] at hpast
    rw [hnot n (by omega)] at hlast
    have hlast : border' = ds.length :=
      searchBorder_eq _ _ _ (fun i _ hi => hpresent i (by omega)) (by omega) hlast.2 (by omega)
    exact ⟨hlast, hlast.trans_le hlength.le⟩
  · rw [hyes (n + 1) (by omega)] at hmore
    exact ⟨searchAbsent_eq _ _ (fun i _ hi => hpresent i hi) (by omega) (by omega) hlength
      (by omega), he⟩
  · rw [hnot edge (by omega)] at hpast
    rw [hnot _ (by omega)] at hnear hlast
    rw [hyes (n + 1) (by omega)] at hmore
    exact ⟨show n = _ by omega, he⟩

theorem Lists.mem_of_getKey (hl : t.Lists ds) {d : Datum} (h : t.getKey key = d)
    (hd : d.isNil = false) : d ∈ ds := by
  rw [hl.getKey] at h
  cases hp : position? key with
  | none =>
    rw [hp] at h
    subst h
    cases hd
  | some p =>
    rw [hp, Option.bind_some] at h
    cases hi : ds[p - 1]? with
    | none =>
      rw [hi] at h
      subst h
      cases hd
    | some e =>
      rw [hi, Option.getD_some] at h
      exact h ▸ List.mem_of_getElem? hi

/-- A table lists one list. -/
theorem Lists.unique (hl : t.Lists ds) {ds' : List Datum} (hl' : t.Lists ds') : ds = ds' := by
  have hlength : ds.length = ds'.length := hl.findBorder.1.symm.trans hl'.findBorder.1
  refine List.ext_getElem hlength fun i hi hi' => ?_
  exact (hl.getInt_of_lt hi).symm.trans (hl'.getInt_of_lt hi')

end Docbase.Script.Table
