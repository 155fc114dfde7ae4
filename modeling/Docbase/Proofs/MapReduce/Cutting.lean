import Docbase.MapReduce.Batch
import Mathlib.Tactic

/-!
Cutting calls into units. A unit is a run of whole calls, and as many of them as the limit lets it
take: the call that begins the next unit would have made it too long. A call that is longer than
the limit stands alone.
-/
namespace Docbase.MapReduce

/-- The calls are cut into runs, each of them as long as the limit lets it be. -/
structure IsCut (limit : ℕ) (calls : List String) (groups : List (List String)) : Prop where
  whole : groups.flatten = calls
  nonempty : ∀ group ∈ groups, group ≠ []
  bounded : ∀ group ∈ groups, 2 ≤ group.length → (String.join group).utf8ByteSize ≤ limit
  full : groups.IsChain fun group next => ∀ call ∈ next.head?,
    limit < (String.join group).utf8ByteSize + call.utf8ByteSize

/-- The first run begins with the first call. -/
theorem IsCut.head {limit : ℕ} {calls group : List String} {groups : List (List String)}
    (h : IsCut limit calls (group :: groups)) : group.head? = calls.head? := by
  have hgroup := h.nonempty group List.mem_cons_self
  rw [← h.whole, List.flatten_cons]
  cases group with
  | nil => contradiction
  | cons call group => rfl

/-- A full run stands before a cut whose first call it cannot take. -/
theorem IsCut.cons {limit : ℕ} {call : String} {calls group : List String}
    {groups : List (List String)} (h : IsCut limit (call :: calls) groups) (hgroup : group ≠ [])
    (hbounded : 2 ≤ group.length → (String.join group).utf8ByteSize ≤ limit)
    (hfull : limit < (String.join group).utf8ByteSize + call.utf8ByteSize) :
    IsCut limit (group ++ call :: calls) (group :: groups) where
  whole := by rw [List.flatten_cons, h.whole]
  nonempty := by
    intro g hg
    cases hg with
    | head => exact hgroup
    | tail _ hg => exact h.nonempty g hg
  bounded := by
    intro g hg
    cases hg with
    | head => exact hbounded
    | tail _ hg => exact h.bounded g hg
  full := by
    cases groups with
    | nil => exact List.isChain_singleton group
    | cons next groups =>
      refine List.IsChain.cons_cons ?_ h.full
      intro first hfirst
      rw [h.head, List.head?_cons, Option.mem_some_iff] at hfirst
      subst first
      exact hfull

theorem join_flatten (groups : List (List String)) :
    String.join (groups.map String.join) = String.join groups.flatten := by
  induction groups with
  | nil => rfl
  | cons group groups ih =>
    rw [List.map_cons, String.join_cons, ih, List.flatten_cons, String.join_append]

theorem join_ne_empty {group : List String} (hgroup : group ≠ [])
    (hcalls : ∀ call ∈ group, call ≠ "") : String.join group ≠ "" := by
  cases group with
  | nil => contradiction
  | cons call group =>
    intro hjoin
    rw [String.join_cons, String.append_eq_empty_iff] at hjoin
    exact hcalls call List.mem_cons_self hjoin.1

namespace Batch

/-- The unit so far consists of the given calls and respects the limit. -/
structure Collects (b : Batch) (group : List String) : Prop where
  current : b.current = String.join group
  nonempty : group ≠ []
  calls : ∀ call ∈ group, call ≠ ""
  bounded : 2 ≤ group.length → b.current.utf8ByteSize ≤ b.limit

variable {b : Batch} {group : List String} {call : String}

theorem collects_singleton (limit : ℕ) (hcall : call ≠ "") : Collects ⟨limit, call⟩ [call] where
  current := by rw [String.join_cons, String.join_nil, String.append_empty]
  nonempty := List.cons_ne_nil call []
  calls := by
    intro c hc
    rw [List.mem_singleton.mp hc]
    exact hcall
  bounded := by
    intro hlength
    simp only [List.length_singleton] at hlength
    omega

theorem push_empty (limit : ℕ) (call : String) :
    (empty limit).push call = (none, ⟨limit, call⟩) := by
  simp [push, empty]

theorem Collects.isEmpty (h : b.Collects group) : b.current.isEmpty = false := by
  rw [h.current, String.isEmpty_eq_false_iff]
  exact join_ne_empty h.nonempty h.calls

/-- A call joins the unit so far where it fits, and begins the next unit where it does not. -/
theorem Collects.push (h : b.Collects group) (hcall : call ≠ "") :
    (∃ next : Batch, b.push call = (none, next) ∧ next.limit = b.limit ∧
      next.Collects (group ++ [call])) ∨
    (b.push call = (some (String.join group), ⟨b.limit, call⟩) ∧
      b.limit < (String.join group).utf8ByteSize + call.utf8ByteSize) := by
  by_cases hfull : b.limit < b.current.utf8ByteSize + call.utf8ByteSize
  · right
    rw [← h.current]
    refine ⟨?_, hfull⟩
    rw [Batch.push, h.isEmpty, if_pos (by simpa using hfull)]
  · left
    refine ⟨{ b with current := b.current ++ call }, ?_, rfl, ?_⟩
    · rw [Batch.push, if_neg (by simp [hfull])]
    · constructor
      · rw [h.current, String.join_append, String.join_cons, String.join_nil, String.append_empty]
      · simp
      · intro c hc
        rcases List.mem_append.mp hc with hc | hc
        · exact h.calls c hc
        · rw [List.mem_singleton.mp hc]
          exact hcall
      · intro _
        rw [String.utf8ByteSize_append]
        exact not_lt.mp hfull

/-- The units of the calls held and the calls to come are a cut of them all. -/
theorem Collects.unitsFrom {calls : List String} (h : b.Collects group)
    (hcalls : ∀ call ∈ calls, call ≠ "") :
    ∃ groups : List (List String), IsCut b.limit (group ++ calls) groups ∧
      b.unitsFrom calls = groups.map String.join := by
  induction calls generalizing b group with
  | nil =>
    refine ⟨[group], ⟨by simp, ?_, ?_, List.isChain_singleton group⟩, ?_⟩
    · intro g hg
      rw [List.mem_singleton.mp hg]
      exact h.nonempty
    · intro g hg
      rw [List.mem_singleton.mp hg, ← h.current]
      exact h.bounded
    · rw [Batch.unitsFrom, finish, h.isEmpty, h.current]
      rfl
  | cons call calls ih =>
    have hcall := hcalls call List.mem_cons_self
    have hrest : ∀ c ∈ calls, c ≠ "" := fun c hc => hcalls c (List.mem_cons_of_mem call hc)
    rw [Batch.unitsFrom]
    rcases h.push hcall with ⟨next, hpush, hlimit, hnext⟩ | ⟨hpush, hfull⟩
    · obtain ⟨groups, hcut, hunits⟩ := ih hnext hrest
      rw [hlimit, List.append_assoc] at hcut
      refine ⟨groups, hcut, ?_⟩
      rw [hpush, ← hunits]
      rfl
    · obtain ⟨groups, hcut, hunits⟩ := ih (collects_singleton b.limit hcall) hrest
      refine ⟨group :: groups, hcut.cons h.nonempty ?_ hfull, ?_⟩
      · rw [← h.current]
        exact h.bounded
      · rw [hpush, List.map_cons, ← hunits]
        rfl

end Batch

theorem exists_cut (limit : ℕ) {calls : List String} (hcalls : ∀ call ∈ calls, call ≠ "") :
    ∃ groups : List (List String), IsCut limit calls groups ∧
      Batch.units limit calls = groups.map String.join := by
  cases calls with
  | nil => exact ⟨[], ⟨rfl, by simp, by simp, List.isChain_nil⟩, rfl⟩
  | cons call calls =>
    have hcall := hcalls call List.mem_cons_self
    have hrest : ∀ c ∈ calls, c ≠ "" := fun c hc => hcalls c (List.mem_cons_of_mem call hc)
    rw [Batch.units, Batch.unitsFrom, Batch.push_empty]
    exact (Batch.collects_singleton limit hcall).unitsFrom hrest

/-- The units of a list of calls are the calls in their order, cut where a unit is full. -/
theorem units_cut (limit : ℕ) (calls : List String) (hcalls : ∀ call ∈ calls, call ≠ "") :
    String.join (Batch.units limit calls) = String.join calls ∧
      (∀ unit ∈ Batch.units limit calls, unit ≠ "") ∧
      ∃ groups : List (List String), IsCut limit calls groups ∧
        Batch.units limit calls = groups.map String.join := by
  obtain ⟨groups, hcut, hunits⟩ := exists_cut limit hcalls
  refine ⟨?_, ?_, groups, hcut, hunits⟩
  · rw [hunits, join_flatten, hcut.whole]
  · intro unit hunit
    rw [hunits] at hunit
    obtain ⟨group, hgroup, rfl⟩ := List.mem_map.mp hunit
    apply join_ne_empty (hcut.nonempty group hgroup)
    intro call hcall
    apply hcalls call
    rw [← hcut.whole]
    exact List.mem_flatten.mpr ⟨group, hgroup, hcall⟩

theorem units_cut_oversized :
    (∀ call ∈ ["aaaa", "bbbb", "cccc", "dddddddddddddd"], call ≠ "") ∧
      ∃ groups : List (List String),
        IsCut 10 ["aaaa", "bbbb", "cccc", "dddddddddddddd"] groups ∧
          Batch.units 10 ["aaaa", "bbbb", "cccc", "dddddddddddddd"] = groups.map String.join :=
  have hcalls : ∀ call ∈ ["aaaa", "bbbb", "cccc", "dddddddddddddd"], call ≠ "" := by decide
  ⟨hcalls, (units_cut 10 _ hcalls).2.2⟩

example : Batch.units 10 ["aaaa", "bbbb", "cccc", "dddddddddddddd"] =
    ["aaaabbbb", "cccc", "dddddddddddddd"] := by
  decide +kernel

/-! There is one cut only, so the units are no other. -/

theorem IsCut.tail {limit : ℕ} {calls group : List String} {groups : List (List String)}
    (h : IsCut limit calls (group :: groups)) : IsCut limit groups.flatten groups where
  whole := rfl
  nonempty := fun g hg => h.nonempty g (List.mem_cons_of_mem group hg)
  bounded := fun g hg => h.bounded g (List.mem_cons_of_mem group hg)
  full := h.full.tail

/-- Nothing can be added to the first run of a cut. -/
theorem IsCut.eq_nil_of_append {limit : ℕ} {calls group more : List String}
    {groups others : List (List String)} (h : IsCut limit calls (group :: groups))
    (hothers : IsCut limit calls ((group ++ more) :: others)) : more = [] := by
  cases more with
  | nil => rfl
  | cons call more =>
    exfalso
    have hrest : groups.flatten = call :: more ++ others.flatten := by
      have hwhole := h.whole.trans hothers.whole.symm
      rw [List.flatten_cons, List.flatten_cons, List.append_assoc] at hwhole
      exact List.append_cancel_left hwhole
    cases groups with
    | nil => simp at hrest
    | cons next groups =>
      have hnext := h.tail.head
      rw [hrest] at hnext
      have hfull := (List.isChain_cons_cons.mp h.full).1 call (by rw [hnext]; rfl)
      have hsize := hothers.bounded _ List.mem_cons_self (by
        have hlength := List.length_pos_of_ne_nil (h.nonempty group List.mem_cons_self)
        simp only [List.length_append, List.length_cons]
        omega)
      rw [String.join_append, String.join_cons, String.utf8ByteSize_append,
        String.utf8ByteSize_append] at hsize
      omega

theorem IsCut.unique {limit : ℕ} {calls : List String} {groups others : List (List String)}
    (h : IsCut limit calls groups) (hothers : IsCut limit calls others) : groups = others := by
  induction groups generalizing calls others with
  | nil =>
    cases others with
    | nil => rfl
    | cons group others =>
      have hgroup := hothers.nonempty group List.mem_cons_self
      have hwhole := hothers.whole.trans h.whole.symm
      simp [hgroup] at hwhole
  | cons group groups ih =>
    cases others with
    | nil =>
      have hgroup := h.nonempty group List.mem_cons_self
      have hwhole := h.whole.trans hothers.whole.symm
      simp [hgroup] at hwhole
    | cons other others =>
      have hwhole := h.whole.trans hothers.whole.symm
      rw [List.flatten_cons, List.flatten_cons] at hwhole
      have hfirst : group = other := by
        rcases List.append_eq_append_iff.mp hwhole with ⟨more, hmore, _⟩ | ⟨more, hmore, _⟩
        · subst hmore
          rw [h.eq_nil_of_append hothers, List.append_nil]
        · subst hmore
          rw [hothers.eq_nil_of_append h, List.append_nil]
      subst other
      have hrest : groups.flatten = others.flatten := List.append_cancel_left hwhole
      have htail := hothers.tail
      rw [← hrest] at htail
      rw [ih h.tail htail]

theorem units_eq_of_isCut {limit : ℕ} {calls : List String} {groups : List (List String)}
    (hcalls : ∀ call ∈ calls, call ≠ "") (hcut : IsCut limit calls groups) :
    Batch.units limit calls = groups.map String.join := by
  obtain ⟨others, hothers, hunits⟩ := exists_cut limit hcalls
  rw [hunits, hothers.unique hcut]

end Docbase.MapReduce
