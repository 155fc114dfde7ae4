import Docbase.Proofs.Database.Selection
import Docbase.Proofs.Query.Congruence

/-!
An id in the index of a collection and in a search. The index knows the ids as they are stored;
the search also finds a document whose `_id` is an array with the id among its elements. The
index is in step with the documents, and no two of them have equal ids, so without such arrays
both tell the same.
-/
namespace Docbase

namespace Store

/-- What calls make of a store that begins empty. -/
def Reachable (s : Store) : Prop := ∃ ids calls, s = (operations.run (empty ids) calls).2

variable {s : Store} {name : String}

theorem Reachable.wellFormed (h : s.Reachable) : s.WellFormed := by
  obtain ⟨ids, calls, rfl⟩ := h
  exact wellFormed_run calls _ (wellFormed_empty ids)

theorem exists_find (h : s.has name = true) :
    ∃ c, s.find name = .ok c ∧ s.contents name = c.docs.toList := by
  obtain ⟨c, hc⟩ := Option.isSome_iff_exists.mp h
  have hfind : s.find name = .ok c := by rw [find, hc]
  refine ⟨c, hfind, ?_⟩
  rw [contents, scan_of_find c hfind]

/-- The index answers like a search through the documents. -/
theorem containsId_eq (hs : s.WellFormed) (h : s.has name = true) (id : Value) :
    s.containsId name id = .ok ((s.contents name).any (ListStore.hasId id)) := by
  obtain ⟨c, hfind, hdocs⟩ := exists_find h
  have hposition := Collection.position?_eq_findIdx? c (hs.find name c hfind) id
  have hsome : (c.position? id).isSome = c.docs.toList.any (ListStore.hasId id) := by
    rw [hposition, List.findIdx?_isSome]
  rw [containsId, hfind, hdocs, ← hsome]
  rfl

theorem distinct_contents (hs : s.WellFormed) (h : s.has name = true) :
    Merge.Distinct (s.contents name) := by
  obtain ⟨c, hfind, hdocs⟩ := exists_find h
  rw [hdocs]
  exact c.distinct_docs (hs.find name c hfind)

end Store

namespace Merge

/-- At most one of the documents has an id. -/
theorem Distinct.countP_hasId_le {docs : List Document} (h : Distinct docs) (id : Value) :
    docs.countP (ListStore.hasId id) ≤ 1 := by
  have hcount := List.nodup_iff_count_le_one.mp h.nodup (Key.ofValue id)
  rw [List.count, List.countP_map] at hcount
  refine (List.countP_mono_left ?_).trans hcount
  intro d _ hd
  obtain ⟨own, hown, hkey⟩ := (ListStore.hasId_iff id d).mp hd
  rw [Function.comp_apply, beq_iff_eq, key, ListStore.idOf, hown, Option.getD_some, hkey]

end Merge

namespace Database

/-- A search for the documents whose `_id` equals a value. -/
def byId (id : Value) : FindOptions := { filter := [("_id", .document [("$eq", id)])] }

/-- The filter of that search. -/
def idFilter (id : Value) : Filter := .field ⟨["_id"]⟩ (.equal id)

theorem compile_byId (id : Value) : Filter.compile (byId id).filter = .ok (idFilter id) := by
  unfold byId idFilter
  rfl

theorem matches_idFilter (id own : Value) (d : Document)
    (h : Document.get? d "_id" = some own) :
    (idFilter id).matches d = .ok (own.equal id || own.itemsOf.any fun v => v.equal id) := by
  have hcandidates : candidates [own] = own :: own.itemsOf := by
    rw [candidates_eq]
    simp
  rw [idFilter, Filter.matches_field, Path.resolveIn_field, h, FieldTest.holds, Option.toList_some,
    hcandidates, List.any_cons]
  rfl

/-- The search does not fail, and it keeps the order of the collection. -/
theorem find_byId (name : String) (id : Value) (s : Store)
    (h : ∀ d ∈ s.contents name, d.Identified) :
    find name (byId id) s = .ok ((s.contents name).filter (idFilter id).keeps) s := by
  have hruns : ∀ d ∈ s.contents name, ∃ kept, (idFilter id).matches d = .ok kept := by
    intro d hd
    obtain ⟨own, hown⟩ := Option.isSome_iff_exists.mp (h d hd)
    exact ⟨_, matches_idFilter id own d hown⟩
  have hsort : SortSpec.parse (byId id).sort = .ok ⟨[]⟩ := rfl
  rw [find, Script.Run.bind_ok (compileFilter_eq (compile_byId id) s),
    Script.Run.bind_ok (parseSort_eq hsort s), select_eq_ok _ _ _ _ s hruns]
  rfl

theorem keeps_of_hasId (id : Value) (d : Document) (h : ListStore.hasId id d = true) :
    (idFilter id).keeps d = true := by
  obtain ⟨own, hown, hequal⟩ := (Option.any_eq_true _ _).mp h
  rw [Filter.keeps_eq_true_iff, matches_idFilter id own d hown, hequal, Bool.true_or]

theorem keeps_eq_hasId (id : Value) (d : Document) (hd : d.Identified)
    (h : ∀ items, Document.get? d "_id" ≠ some (.array items)) :
    (idFilter id).keeps d = ListStore.hasId id d := by
  obtain ⟨own, hown⟩ := Option.isSome_iff_exists.mp hd
  have hitems : own.itemsOf = [] := by
    cases own with
    | array items => exact absurd hown (h items)
    | _ => rfl
  rw [Filter.keeps, matches_idFilter id own d hown, hitems, ListStore.hasId, hown]
  exact Bool.or_false _

/-- An id that the index knows is found; where no document has an array for its `_id`, the search
finds nothing else, and so one document or none. -/
theorem index_agrees_with_find (s : Store) (hs : s.Reachable) (name : String)
    (hname : s.has name = true) (id : Value) :
    ∃ known found, s.containsId name id = .ok known ∧ find name (byId id) s = .ok found s ∧
      (known = true → ∃ d ∈ found, ∃ own,
        Document.get? d "_id" = some own ∧ own.equal id = true) ∧
      ((∀ d ∈ s.contents name, ∀ items, Document.get? d "_id" ≠ some (.array items)) →
        (known = true ↔ found ≠ []) ∧ (known = true → found.length = 1)) := by
  have hwell := hs.wellFormed
  have hdistinct := s.distinct_contents hwell hname
  refine ⟨_, _, s.containsId_eq hwell hname id, find_byId name id s hdistinct.identified, ?_, ?_⟩
  · intro hknown
    obtain ⟨d, hd, hid⟩ := List.any_eq_true.mp hknown
    obtain ⟨own, hown, hequal⟩ := (Option.any_eq_true _ _).mp hid
    exact ⟨d, List.mem_filter.mpr ⟨hd, keeps_of_hasId id d hid⟩, own, hown, hequal⟩
  · intro hplain
    have hfilter : (s.contents name).filter (idFilter id).keeps =
        (s.contents name).filter (ListStore.hasId id) :=
      List.filter_congr fun d hd => keeps_eq_hasId id d (hdistinct.identified d hd) (hplain d hd)
    have hsome : (s.contents name).any (ListStore.hasId id) = true ↔
        (s.contents name).filter (ListStore.hasId id) ≠ [] := by
      rw [ne_eq, List.filter_eq_nil_iff, List.any_eq_true]
      push Not
      rfl
    have hone := hdistinct.countP_hasId_le id
    rw [List.countP_eq_length_filter] at hone
    rw [hfilter]
    refine ⟨hsome, fun hknown => ?_⟩
    have hpos := List.length_pos_iff.mpr (hsome.mp hknown)
    omega

/-- A collection of one document, whose id is an integer. -/
def oneInteger : Store :=
  ⟨[("a", Collection.empty.append (.int32 1) [("_id", .int32 1)])], countingIds⟩

theorem reachable_oneInteger : oneInteger.Reachable := by
  refine ⟨countingIds, [.create "a", .insert "a" [("_id", .int32 1)]], ?_⟩
  have hnew : Collection.empty.position? (.int32 1) = none := by
    simp [Collection.position?, Collection.empty]
  have hid : Collection.withId [("_id", .int32 1)] countingIds =
      (.int32 1, [("_id", .int32 1)], countingIds) := rfl
  have hall : Collection.empty.insertAll countingIds [[("_id", .int32 1)]] =
      .ok ([.int32 1], Collection.empty.append (.int32 1) [("_id", .int32 1)], countingIds) := by
    rw [Collection.insertAll_cons, hid, hnew]
    rfl
  have hfind : ((Store.empty countingIds).create "a").find "a" = .ok .empty := rfl
  have hids : ((Store.empty countingIds).create "a").ids = countingIds := rfl
  have hinsert : ((Store.empty countingIds).create "a").insert "a" [("_id", .int32 1)] =
      .ok (.int32 1, oneInteger) := by
    rw [Store.insert, Store.insertMany, hfind, hids]
    simp only [bind, Except.bind, hall]
    rfl
  exact (congrArg (fun r => (Store.Operations.write _ Store.Answer.id r).2) hinsert).symm

/-- The integer is known and found as a double. -/
theorem index_agrees_with_find_double :
    ∃ found, oneInteger.containsId "a" (.double ⟨0x3FF0000000000000⟩) = .ok true ∧
      find "a" (byId (.double ⟨0x3FF0000000000000⟩)) oneInteger = .ok found oneInteger ∧
        found.length = 1 := by
  have hname : oneInteger.has "a" = true := by decide
  have hdocs : oneInteger.contents "a" = [[("_id", .int32 1)]] := rfl
  obtain ⟨known, found, hknown, hfind, -, hplain⟩ :=
    index_agrees_with_find oneInteger reachable_oneInteger "a" hname (.double ⟨0x3FF0000000000000⟩)
  have hanswer := oneInteger.containsId_eq reachable_oneInteger.wellFormed hname
    (.double ⟨0x3FF0000000000000⟩)
  have hany : (oneInteger.contents "a").any
      (ListStore.hasId (.double ⟨0x3FF0000000000000⟩)) = true := by decide +kernel
  rw [hany] at hanswer
  have htrue : known = true := Except.ok.inj (hknown.symm.trans hanswer)
  refine ⟨found, hanswer, hfind, (hplain ?_).2 htrue⟩
  intro d hd items
  rw [hdocs, List.mem_singleton] at hd
  rw [hd]
  exact nofun

end Database

end Docbase
