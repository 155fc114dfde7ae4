import Docbase.Proofs.Database.Effect
import Docbase.Proofs.Query.Arrangement

/-!
What a search finds. The documents that match are the elements of the collection at certain
positions; the result lists the first of these positions in the order of the sort, where the
position itself decides between documents that the sort does not tell apart.
-/
namespace Docbase

namespace Filter

/-- The filter matches and no script in it fails. -/
def keeps (f : Filter) (d : Document) : Bool :=
  match f.matches d with
  | .ok kept => kept
  | .error _ => false

theorem keeps_eq_true_iff (f : Filter) (d : Document) :
    f.keeps d = true ↔ f.matches d = .ok true := by
  unfold keeps
  cases f.matches d with
  | error e => simp
  | ok kept => simp

theorem select_eq_ok (f : Filter) (docs : List Document)
    (h : ∀ d ∈ docs, ∃ kept, f.matches d = .ok kept) :
    f.select docs = .ok (docs.filter f.keeps) := by
  induction docs with
  | nil => rfl
  | cons d docs ih =>
    obtain ⟨⟨kept, hkept⟩, hrest⟩ := List.forall_mem_cons.mp h
    have hkeeps : f.keeps d = kept := by rw [keeps, hkept]
    rw [select, hkept, ih hrest, List.filter_cons, hkeeps]
    cases kept <;> rfl

end Filter

namespace Database

variable {filter : Filter} {sort : SortSpec} {limit : ℕ} {docs : List Document}

/-- The order of the positions of documents: that of the sort, and where the sort does not tell
the documents apart, that of the collection. -/
def Precedes (sort : SortSpec) (docs : List Document) (i j : Fin docs.length) : Prop :=
  sort.compare docs[i] docs[j] = .lt ∨ sort.compare docs[i] docs[j] = .eq ∧ i < j

theorem Precedes.asymm {i j : Fin docs.length} (h : Precedes sort docs i j) :
    ¬Precedes sort docs j i := by
  have hswap := sort.compare_swap docs[i] docs[j]
  unfold Precedes at *
  rw [hswap]
  rcases h with h | ⟨h, hlt⟩
  · rw [h]
    exact fun hback => by rcases hback with hback | ⟨hback, -⟩ <;> cases hback
  · rw [h]
    exact fun hback => by
      rcases hback with hback | ⟨-, hback⟩
      · cases hback
      · exact hlt.asymm hback

theorem precedes_trichotomy (sort : SortSpec) (docs : List Document) (i j : Fin docs.length) :
    Precedes sort docs i j ∨ i = j ∨ Precedes sort docs j i := by
  have hswap := sort.compare_swap docs[i] docs[j]
  unfold Precedes
  rw [hswap]
  cases sort.compare docs[i] docs[j] with
  | lt => exact .inl (.inl rfl)
  | gt => exact .inr (.inr (.inl rfl))
  | eq =>
    rcases lt_trichotomy i j with hlt | heq | hgt
    · exact .inl (.inr ⟨rfl, hlt⟩)
    · exact .inr (.inl heq)
    · exact .inr (.inr (.inr ⟨rfl, hgt⟩))

/-- The positions of what is to be found: documents that match, none twice, as many as there are
and the limit allows, in order, and the first of all. -/
structure Selects (filter : Filter) (sort : SortSpec) (limit : ℕ) (docs : List Document)
    (positions : List (Fin docs.length)) : Prop where
  matching : ∀ i ∈ positions, filter.matches docs[i] = .ok true
  once : positions.Nodup
  count : positions.length =
    if limit = 0 then docs.countP filter.keeps else min limit (docs.countP filter.keeps)
  ordered : positions.Pairwise (Precedes sort docs)
  first : ∀ i, filter.matches docs[i] = .ok true → i ∉ positions →
    ∀ j ∈ positions, ¬Precedes sort docs i j

/-- Nothing else can be found: a position of one list that is missing in the other would stand
before or behind one that is missing in the first. -/
theorem Selects.unique {positions positions' : List (Fin docs.length)}
    (h : Selects filter sort limit docs positions)
    (h' : Selects filter sort limit docs positions') : positions = positions' := by
  have hlength : positions'.length = positions.length := h'.count.trans h.count.symm
  have hsubset : positions ⊆ positions' := by
    intro i hi
    by_contra hno
    obtain ⟨j, hj, hmissing⟩ : ∃ j ∈ positions', j ∉ positions := by
      by_contra hall
      push Not at hall
      have hperm := h'.once.subperm hall |>.perm_of_length_le hlength.ge
      exact hno (hperm.mem_iff.mpr hi)
    rcases precedes_trichotomy sort docs i j with hij | rfl | hji
    · exact h'.first i (h.matching i hi) hno j hj hij
    · exact hmissing hi
    · exact h.first j (h'.matching j hj) hmissing i hi hji
  have hperm := h.once.subperm hsubset |>.perm_of_length_le hlength.le
  exact hperm.eq_of_pairwise (fun i j _ _ hij hji => absurd hji hij.asymm) h.ordered h'.ordered

/-- The positions of the documents that match. -/
def matchingPositions (filter : Filter) (docs : List Document) : List (Fin docs.length) :=
  (List.finRange docs.length).filter fun i => filter.keeps docs[i]

theorem mem_matchingPositions {i : Fin docs.length} :
    i ∈ matchingPositions filter docs ↔ filter.matches docs[i] = .ok true := by
  rw [matchingPositions, List.mem_filter, Filter.keeps_eq_true_iff]
  exact and_iff_right (List.mem_finRange i)

theorem map_matchingPositions (filter : Filter) (docs : List Document) :
    (matchingPositions filter docs).map docs.get = docs.filter filter.keeps := by
  conv_rhs => rw [← List.map_get_finRange docs, List.filter_map]
  rfl

theorem matchingPositions_ascend (filter : Filter) (docs : List Document) :
    (matchingPositions filter docs).Pairwise (· < ·) :=
  (List.pairwise_lt_finRange _).filter _

/-- The positions of the documents that match, in the order of the sort. -/
def sortedPositions (filter : Filter) (sort : SortSpec) (docs : List Document) :
    List (Fin docs.length) :=
  (matchingPositions filter docs).mergeSort fun i j => sort.le docs[i] docs[j]

theorem mem_sortedPositions {i : Fin docs.length} :
    i ∈ sortedPositions filter sort docs ↔ filter.matches docs[i] = .ok true := by
  rw [sortedPositions, List.mem_mergeSort, mem_matchingPositions]

theorem map_sortedPositions (filter : Filter) (sort : SortSpec) (docs : List Document) :
    (sortedPositions filter sort docs).map docs.get = sort.sort (docs.filter filter.keeps) := by
  rw [← map_matchingPositions]
  exact sort.map_mergeSort_positions (matchingPositions filter docs)

theorem length_sortedPositions (filter : Filter) (sort : SortSpec) (docs : List Document) :
    (sortedPositions filter sort docs).length = docs.countP filter.keeps := by
  rw [sortedPositions, List.length_mergeSort, List.countP_eq_length_filter,
    ← map_matchingPositions filter docs, List.length_map]

theorem sortedPositions_ordered (filter : Filter) (sort : SortSpec) (docs : List Document) :
    (sortedPositions filter sort docs).Pairwise (Precedes sort docs) := by
  refine (sort.pairwise_mergeSort_positions (matchingPositions_ascend filter docs)).imp ?_
  rintro i j ⟨hle, hstable⟩
  cases h : sort.compare docs[i] docs[j] with
  | lt => exact .inl h
  | eq => exact .inr ⟨h, hstable h⟩
  | gt => exact absurd h hle

/-- What is left after cutting a list off stands behind all that was kept. -/
theorem selects_sortedPositions (filter : Filter) (sort : SortSpec) (limit : ℕ)
    (docs : List Document) :
    Selects filter sort limit docs (if limit = 0 then sortedPositions filter sort docs
      else (sortedPositions filter sort docs).take limit) := by
  have hordered := sortedPositions_ordered filter sort docs
  have honce : (sortedPositions filter sort docs).Nodup :=
    hordered.imp fun h => fun heq => (heq ▸ h).asymm (heq ▸ h)
  split_ifs with hlimit
  · refine ⟨fun i => mem_sortedPositions.mp, honce, ?_, hordered, fun i hi hno => ?_⟩
    · rw [if_pos hlimit, length_sortedPositions]
    · exact absurd (mem_sortedPositions.mpr hi) hno
  · refine ⟨fun i hi => mem_sortedPositions.mp (List.mem_of_mem_take hi),
      honce.sublist (List.take_sublist _ _), ?_, hordered.sublist (List.take_sublist _ _),
      fun i hi hno j hj => ?_⟩
    · rw [if_neg hlimit, List.length_take, length_sortedPositions]
    · have hparts := List.take_append_drop limit (sortedPositions filter sort docs)
      have hleft : i ∈ sortedPositions filter sort docs := mem_sortedPositions.mpr hi
      rw [← hparts, List.mem_append] at hleft
      rw [← hparts] at hordered
      exact ((List.pairwise_append.mp hordered).2.2 j hj i (hleft.resolve_left hno)).asymm

/-- A collection that does not exist is searched like one that holds nothing. -/
theorem select_contents (name : String) (filter : Filter) (sort : SortSpec) (limit : ℕ)
    (s : Store) : select name filter sort limit s =
      match filter.select (s.contents name) with
      | .error e => .error (.script e) s
      | .ok matched =>
        .ok (if limit = 0 then sort.sort matched else (sort.sort matched).take limit) s := rfl

theorem select_eq_ok (name : String) (filter : Filter) (sort : SortSpec) (limit : ℕ) (s : Store)
    (hruns : ∀ d ∈ s.contents name, ∃ kept, filter.matches d = .ok kept) :
    select name filter sort limit s =
      .ok (if limit = 0 then sort.sort ((s.contents name).filter filter.keeps)
        else (sort.sort ((s.contents name).filter filter.keeps)).take limit) s := by
  rw [select_contents, filter.select_eq_ok _ hruns]

/-- A search whose filter and sort can be read, and whose filter fails on no document of the
collection, finds the first documents that match. -/
theorem find_selects (name : String) (options : FindOptions) (s : Store) (filter : Filter)
    (sort : SortSpec) (hfilter : Filter.compile options.filter = .ok filter)
    (hsort : SortSpec.parse options.sort = .ok sort)
    (hruns : ∀ d ∈ s.contents name, ∃ kept, filter.matches d = .ok kept) :
    ∃ positions, find name options s = .ok (positions.map (s.contents name).get) s ∧
      Selects filter sort options.limit (s.contents name) positions := by
  refine ⟨_, ?_, selects_sortedPositions filter sort options.limit (s.contents name)⟩
  rw [find, Script.Run.bind_ok (compileFilter_eq hfilter s),
    Script.Run.bind_ok (parseSort_eq hsort s),
    select_eq_ok name filter sort options.limit s hruns, ← map_sortedPositions]
  split_ifs
  · rfl
  · rw [List.map_take]

/-- Numbers one to three, the last of them twice, under keys of their own. -/
def threeNumbers : Store :=
  ⟨[("a", [1, 3, 2, 3].zipIdx.foldl (fun c entry =>
      c.append (.int32 (Int32.ofNat entry.2))
        [("_id", .int32 (Int32.ofNat entry.2)), ("n", .int32 entry.1)]) .empty)], countingIds⟩

/-- The greatest two of the numbers above one: the limit cuts off the least, and the two that
are equal stand as they were inserted. -/
theorem find_selects_greatest :
    let options : FindOptions :=
      { filter := [("n", .document [("$gt", .int32 1)])], sort := [("n", .int32 (-1))], limit := 2 }
    ∃ positions, find "a" options threeNumbers =
      .ok (positions.map (threeNumbers.contents "a").get) threeNumbers ∧
        Selects (.field ⟨["n"]⟩ (.related .greater (.int32 1))) ⟨[⟨⟨["n"]⟩, .descending⟩]⟩ 2
          (threeNumbers.contents "a") positions := by
  intro options
  exact find_selects "a" options threeNumbers _ _ rfl rfl fun d _ => ⟨_, rfl⟩

end Database

end Docbase
