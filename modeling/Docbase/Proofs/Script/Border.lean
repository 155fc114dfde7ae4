import Docbase.Proofs.Script.Content

/-!
The length of any table, also of one with holes: the search ends at a border, and a table that is
asked again gives the same border, wherever the first search left off.
-/
namespace Docbase.Script.Table

/-- The search starts within the slots, and keys reach beyond them. -/
structure Measurable (t : Table) : Prop where
  size_lt : t.items.size < 2 ^ 63
  edge_le : t.edge ≤ t.items.size

/-- Whether something is at a position; the one before the first counts as present. -/
def present (t : Table) (i : ℕ) : Bool := i == 0 || !(t.getInt i).isNil

variable {t : Table} {P : ℕ → Bool}

theorem isBorder_iff {n : ℕ} : t.IsBorder n ↔
    t.present n = true ∧ (n < lastPosition ∧ t.present (n + 1) = false ∨ n = lastPosition) := by
  simp [IsBorder, present]

/-! Where the searches end. -/

theorem searchBorder_spec (fuel low high : ℕ) (hlow : P low = true) (hhigh : P high = false)
    (hlt : low < high) (hfuel : high - low ≤ 2 ^ fuel) :
    low ≤ searchBorder P fuel low high ∧ searchBorder P fuel low high < high ∧
      P (searchBorder P fuel low high) = true ∧ P (searchBorder P fuel low high + 1) = false := by
  induction fuel generalizing low high with
  | zero =>
    obtain rfl : high = low + 1 := by omega
    exact ⟨le_rfl, hlt, hlow, hhigh⟩
  | succ fuel ih =>
    rw [pow_succ] at hfuel
    rw [searchBorder]
    split_ifs with hnear
    · obtain rfl : high = low + 1 := by omega
      exact ⟨le_rfl, hlt, hlow, hhigh⟩
    · dsimp only
      split_ifs with hmiddle
      · obtain ⟨hle, hrest⟩ := ih _ _ hmiddle hhigh (by omega) (by omega)
        exact ⟨by omega, hrest⟩
      · rw [Bool.not_eq_true] at hmiddle
        obtain ⟨hle, hend, hrest⟩ := ih _ _ hlow hmiddle (by omega) (by omega)
        exact ⟨hle, by omega, hrest⟩

theorem searchAbsent_spec (fuel low : ℕ) (hlow : P low = true) (hpos : 0 < low)
    (hle : low ≤ lastPosition) (hfuel : lastPosition < low * 2 ^ fuel) :
    P (searchAbsent P fuel low) = true ∧
      (searchAbsent P fuel low < lastPosition ∧ P (searchAbsent P fuel low + 1) = false ∨
        searchAbsent P fuel low = lastPosition) := by
  have hlast : lastPosition = 2 ^ 63 - 1 := rfl
  induction fuel generalizing low with
  | zero => omega
  | succ fuel ih =>
    rw [searchAbsent]
    split_ifs with hreach hend
    · dsimp only
      split_ifs with hhigh
      · refine ih _ hhigh (by omega) (by omega) ?_
        rw [pow_succ] at hfuel
        linarith
      · rw [Bool.not_eq_true] at hhigh
        obtain ⟨-, hlt, hpresent, habsent⟩ :=
          searchBorder_spec 64 low (2 * low) hlow hhigh (by omega) (by omega)
        exact ⟨hpresent, .inl ⟨by omega, habsent⟩⟩
    · exact ⟨hend, .inr rfl⟩
    · rw [Bool.not_eq_true] at hend
      have hne : low ≠ lastPosition := by
        rintro rfl
        rw [hlow] at hend
        cases hend
      obtain ⟨-, hlt, hpresent, habsent⟩ :=
        searchBorder_spec 64 low lastPosition hlow hend (by omega) (by omega)
      exact ⟨hpresent, .inl ⟨hlt, habsent⟩⟩

/-! The border that is found. -/

/-- The border that is found below an absent slot. -/
def borderBelow (t : Table) : ℕ :=
  if t.present (t.edge - 1) then t.edge - 1 else searchBorder t.present 64 0 t.edge

theorem findBorder_eq (t : Table) : t.findBorder =
    if 0 < t.edge ∧ t.present t.edge = false then
      (t.borderBelow, if pow2 t.items.size.log2 = t.items.size ∧ t.items.size < 2 * t.borderBelow
        then t.borderBelow else t.edge)
    else if t.edge < t.items.size ∧ t.present (t.edge + 1) = false then (t.edge, t.edge)
    else if t.edge < t.items.size ∧ t.present t.items.size = false then
      (searchBorder t.present 64 t.edge t.items.size,
        searchBorder t.present 64 t.edge t.items.size)
    else if t.present (t.items.size + 1) then
      (searchAbsent t.present 64 (max t.items.size 1), t.edge)
    else (t.items.size, t.edge) := by
  simp only [findBorder, Bool.not_eq_true']
  rfl

theorem borderBelow_spec (hm : t.Measurable) (hpos : 0 < t.edge)
    (habsent : t.present t.edge = false) :
    t.present t.borderBelow = true ∧ t.present (t.borderBelow + 1) = false ∧
      t.borderBelow < t.edge := by
  have hsize := hm.size_lt
  have hedge := hm.edge_le
  rw [borderBelow]
  split_ifs with hbefore
  · refine ⟨hbefore, ?_, by omega⟩
    rwa [Nat.sub_add_cancel hpos]
  · obtain ⟨-, hlt, hpresent, hnext⟩ :=
      searchBorder_spec (P := t.present) 64 0 t.edge rfl habsent hpos (by omega)
    exact ⟨hpresent, hnext, hlt⟩

/-- The search ends at a border, and the next one starts where this one did or at that border. -/
theorem findBorder_spec (hm : t.Measurable) : t.IsBorder t.border ∧
    (t.findBorder.2 = t.edge ∨ t.findBorder.2 = t.border ∧ t.border < t.items.size) := by
  have hlast : lastPosition = 2 ^ 63 - 1 := rfl
  have hsize := hm.size_lt
  have hedge := hm.edge_le
  have hborder (b : ℕ) (hpresent : t.present b = true) (hnext : t.present (b + 1) = false)
      (hb : b ≤ t.items.size) : t.IsBorder b := by
    refine isBorder_iff.mpr ⟨hpresent, ?_⟩
    rcases Nat.lt_or_ge b lastPosition with hlt | hge
    · exact .inl ⟨hlt, hnext⟩
    · exact .inr (by omega)
  rw [border, findBorder_eq]
  split_ifs with hpast hmoves hnear hend hmore
  · obtain ⟨hpresent, hnext, hlt⟩ := borderBelow_spec hm hpast.1 hpast.2
    exact ⟨hborder _ hpresent hnext (by omega), .inr ⟨rfl, by omega⟩⟩
  · obtain ⟨hpresent, hnext, hlt⟩ := borderBelow_spec hm hpast.1 hpast.2
    exact ⟨hborder _ hpresent hnext (by omega), .inl rfl⟩
  all_goals
    have hstart : t.present t.edge = true := by
      rcases Nat.eq_zero_or_pos t.edge with hzero | hpos
      · rw [hzero]
        rfl
      · simpa [hpos] using hpast
  · exact ⟨hborder _ hstart hnear.2 hedge, .inl rfl⟩
  · obtain ⟨-, hlt, hpresent, hnext⟩ :=
      searchBorder_spec 64 t.edge t.items.size hstart hend.2 hend.1 (by omega)
    exact ⟨hborder _ hpresent hnext hlt.le, .inr ⟨rfl, hlt⟩⟩
  all_goals
    have hfull : t.present t.items.size = true := by
      rcases Nat.lt_or_eq_of_le hedge with hlt | heq
      · simpa [hlt] using hend
      · rwa [← heq]
  · refine ⟨isBorder_iff.mpr (searchAbsent_spec 64 (max t.items.size 1) ?_ ?_ ?_ ?_), .inl rfl⟩
    · rcases Nat.eq_zero_or_pos t.items.size with hzero | hpos
      · rwa [hzero] at hmore ⊢
      · rwa [max_eq_left hpos]
    all_goals omega
  · exact ⟨hborder _ hfull (by simpa using hmore) le_rfl, .inl rfl⟩

/-- A search that starts at a border within the slots ends there. -/
theorem border_of_edge (hedge : t.edge ≤ t.items.size) (hpresent : t.present t.edge = true)
    (hnext : t.present (t.edge + 1) = false) : t.border = t.edge := by
  rw [border, findBorder_eq, if_neg (by simp [hpresent])]
  rcases Nat.lt_or_eq_of_le hedge with hlt | heq
  · rw [if_pos ⟨hlt, hnext⟩]
  · rw [heq] at hnext ⊢
    simp [hnext]

/-! Tables that were asked for their length. -/

/-- The same table, of which the length is the same. -/
structure Asked (t t' : Table) : Prop where
  moved : t.Moved t'
  border : t'.border = t.border
  edge_le : t.edge ≤ t.items.size → t'.edge ≤ t.items.size

theorem Asked.refl (t : Table) : Asked t t := ⟨.refl t, rfl, id⟩

theorem Asked.trans {t' t'' : Table} (ha : Asked t t') (hb : Asked t' t'') : Asked t t'' where
  moved := ha.moved.trans hb.moved
  border := hb.border.trans ha.border
  edge_le h := by
    have hitems : t'.items = t.items := by rw [ha.moved.eq]
    rw [← hitems]
    exact hb.edge_le (hitems ▸ ha.edge_le h)

theorem Asked.measurable {t' : Table} (ha : Asked t t') (hm : t.Measurable) : t'.Measurable := by
  have hitems : t'.items = t.items := by rw [ha.moved.eq]
  exact ⟨hitems ▸ hm.size_lt, hitems ▸ ha.edge_le hm.edge_le⟩

/-- The search may start at the border that it would end at. -/
theorem asked_of_border (hm : t.Measurable) (hle : t.border ≤ t.items.size)
    (hlt : t.border < lastPosition) : Asked t { t with edge := t.border } := by
  have hlast : lastPosition = 2 ^ 63 - 1 := rfl
  have hsize := hm.size_lt
  obtain ⟨hpresent, hend⟩ := isBorder_iff.mp (findBorder_spec hm).1
  obtain ⟨-, hnext⟩ := hend.resolve_right hlt.ne
  refine ⟨⟨rfl, fun _ => ?_⟩, border_of_edge hle hpresent hnext, fun _ => hle⟩
  dsimp only
  omega

/-- A table that is asked for its length gives the same one again. -/
theorem asked_findBorder (hm : t.Measurable) : Asked t { t with edge := t.findBorder.2 } := by
  have hlast : lastPosition = 2 ^ 63 - 1 := rfl
  have hsize := hm.size_lt
  obtain ⟨-, hsame | ⟨hmoved, hlt⟩⟩ := findBorder_spec hm
  · rw [hsame]
    exact .refl t
  · rw [hmoved]
    exact asked_of_border hm hlt.le (by omega)

/-- A look at the only item leaves the length as it is. -/
theorem asked_touch (hm : t.Measurable) (hone : t.border = 1) : Asked t (t.touch (.int 1)) := by
  unfold touch
  split
  · next i hi =>
    obtain ⟨n, hn, hposition, hlt⟩ := slot?_eq_some hi
    have hfirst : n.toInt = 1 := by
      rw [← Datum.int.inj hn]
      rfl
    obtain rfl : i = 0 := by omega
    have hlast : 1 < lastPosition := by decide
    have hborder := asked_of_border hm (by omega) (hone ▸ hlast)
    rw [hone] at hborder
    split_ifs
    · exact hborder
    · exact .refl t
  · exact .refl t

end Docbase.Script.Table
