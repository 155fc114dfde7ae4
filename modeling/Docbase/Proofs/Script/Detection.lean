import Docbase.Proofs.Script.FieldNames
import Docbase.Proofs.Text.ByteOrder

/-!
Which tables are arrays. A table without a known name is an array where its keys are exactly the
integers from 1 on, and a document in the order of the names otherwise. Only the length of such a
sequence is a border of it, and a count of distinct keys leaves no room for a gap, so neither the
border that is taken for the length nor the order in which the keys come has a say in it.
-/
namespace Docbase.Script

namespace Table

variable {t : Table} {ds : List Datum} {n : ℕ}

/-- The keys of a table are exactly the integers from 1 to `n`. -/
structure KeysUpTo (t : Table) (n : ℕ) : Prop where
  lt : n < 2 ^ 63
  keys : ∀ key, key ∈ t.entries.map Prod.fst ↔ ∃ i < n, key = .int (Int64.ofNat (i + 1))

theorem mem_keys (hv : t.Valid) (key : Datum) :
    key ∈ t.entries.map Prod.fst ↔ (t.getKey key).isNil = false := by
  rw [List.mem_map]
  constructor
  · rintro ⟨entry, hentry, rfl⟩
    obtain ⟨hpresent, hget⟩ := (mem_entries hv).mp hentry
    rwa [hget]
  · intro hpresent
    exact ⟨(key, t.getKey key), (mem_entries hv).mpr ⟨hpresent, rfl⟩, rfl⟩

/-- The integers from 1 to `n` as keys. -/
def positions (n : ℕ) : List Datum := (List.range n).map fun i => .int (Int64.ofNat (i + 1))

theorem mem_positions {key : Datum} :
    key ∈ positions n ↔ ∃ i < n, key = .int (Int64.ofNat (i + 1)) := by
  simp only [positions, List.mem_map, List.mem_range, eq_comm]

theorem length_positions (n : ℕ) : (positions n).length = n := by
  rw [positions, List.length_map, List.length_range]

theorem nodup_positions (hn : n < 2 ^ 63) : (positions n).Nodup := by
  apply List.Nodup.map_on _ List.nodup_range
  intro i hi j hj heq
  rw [List.mem_range] at hi hj
  have hsucc := ofNat_inj (by omega) (by omega) (Datum.int.inj heq)
  omega

theorem KeysUpTo.perm (h : t.KeysUpTo n) (hv : t.Valid) :
    (t.entries.map Prod.fst).Perm (positions n) := by
  apply (List.perm_ext_iff_of_nodup (nodup_entries hv) (nodup_positions h.lt)).mpr
  intro key
  rw [h.keys, mem_positions]

/-- The values of a table whose keys go from 1 to `n`. -/
def itemsUpTo (t : Table) (n : ℕ) : List Datum :=
  (List.range n).map fun i => t.getInt ((i + 1 : ℕ) : ℤ)

theorem KeysUpTo.lists (h : t.KeysUpTo n) (hv : t.Valid) : t.Lists (t.itemsUpTo n) := by
  have hn := h.lt
  have hget (key : Datum) :
      (t.getKey key).isNil = false ↔ ∃ i < n, key = .int (Int64.ofNat (i + 1)) :=
    (mem_keys hv key).symm.trans (h.keys key)
  have hlength : (t.itemsUpTo n).length = n := by
    rw [itemsUpTo, List.length_map, List.length_range]
  have habsent (key : Datum) (hkey : ¬∃ i < n, key = .int (Int64.ofNat (i + 1))) :
      t.getKey key = .nil := by
    rw [← hget] at hkey
    cases hd : t.getKey key with
    | nil => rfl
    | _ => exact absurd (by rw [hd]; rfl) hkey
  refine ⟨hv, by omega, ?_, ?_⟩
  · intro d hd
    obtain ⟨i, hi, rfl⟩ := List.mem_map.mp hd
    rw [getInt, Int64.ofInt_eq_ofNat]
    exact (hget _).mpr ⟨i, List.mem_range.mp hi, rfl⟩
  · intro key
    cases hp : position? key with
    | none =>
      apply habsent
      rintro ⟨i, hi, rfl⟩
      rw [position?_ofNat (by omega) (by omega)] at hp
      cases hp
    | some p =>
      obtain ⟨k, rfl, hint, hpos⟩ := position?_eq_some hp
      have hk : k = Int64.ofNat p := by
        rw [← Int64.ofInt_eq_ofNat, ← hint, Int64.ofInt_toInt]
      rw [Option.bind_some]
      by_cases hle : p ≤ n
      · have hitem : (t.itemsUpTo n)[p - 1]? = some (t.getInt (p : ℤ)) := by
          rw [itemsUpTo, List.getElem?_map, List.getElem?_range (by omega), Option.map_some,
            Nat.sub_add_cancel hpos]
        rw [hitem, Option.getD_some, getInt, Int64.ofInt_eq_ofNat, hk]
      · rw [List.getElem?_eq_none (by omega), Option.getD_none]
        apply habsent
        rintro ⟨i, hi, heq⟩
        rw [hk] at heq
        have hsmall := k.toInt_lt
        have hsame := ofNat_inj (by omega) (by omega) (Datum.int.inj heq)
        omega

theorem KeysUpTo.border (h : t.KeysUpTo n) (hv : t.Valid) : t.border = n := by
  have hborder := (h.lists hv).findBorder.1
  rwa [itemsUpTo, List.length_map, List.length_range] at hborder

/-- A sequence has one border. -/
theorem KeysUpTo.eq_of_isBorder (h : t.KeysUpTo n) (hv : t.Valid) {m : ℕ} (hm : t.IsBorder m) :
    m = n := by
  have hn := h.lt
  have hlast : lastPosition = 2 ^ 63 - 1 := rfl
  have hlength : (t.itemsUpTo n).length = n := by
    rw [itemsUpTo, List.length_map, List.length_range]
  have hnil {i : ℕ} (hi : 0 < i) (hsmall : i < 2 ^ 64) :
      (t.getInt (i : ℤ)).isNil = decide (n < i) := by
    rw [(h.lists hv).isNil_getInt hi hsmall, hlength]
  obtain ⟨hpresent, hnext⟩ := hm
  have hle : m ≤ n := by
    rcases hpresent with hzero | hpresent
    · omega
    · by_cases hzero : m = 0
      · omega
      · rw [hnil (by omega) (by omega), decide_eq_false_iff_not] at hpresent
        omega
  rcases hnext with ⟨hm, habsent⟩ | hm
  · have hsucc := hnil (Nat.succ_pos m) (by omega)
    rw [Nat.cast_succ, habsent, eq_comm, decide_eq_true_eq] at hsucc
    omega
  · omega

end Table

namespace Materialize

variable {value : Datum → Except Unconvertible Value} {h : Heap} {t : Table} {n : ℕ}
variable {entries : List (Datum × Datum)}

/-- Whether a key is a position up to `n`. -/
def isPosition (n : ℕ) : Datum → Bool
  | .int i => decide (1 ≤ i.toInt ∧ i.toInt ≤ n)
  | _ => false

/-- Whether the keys of entries that come in some order are exactly the positions up to `n`. -/
def isSequenceOf (entries : List (Datum × Datum)) (n : ℕ) : Bool :=
  entries.all (fun entry => isPosition n entry.1) && entries.length == n

/-- The value of a table without a known name that reports the length `n` and whose entries come
in some order. -/
def untaggedBy (value : Datum → Except Unconvertible Value) (t : Table) (n : ℕ)
    (entries : List (Datum × Datum)) : Except Unconvertible Value :=
  if 0 < n && isSequenceOf entries n then sequence value t n
  else do return .document (← addRest value [] (← entries.mapM namedEntry))

theorem untagged_eq (value : Datum → Except Unconvertible Value) (t : Table) :
    untagged value t = untaggedBy value t t.border t.entries := by
  rw [untagged, untaggedBy, document_eq]
  rfl

theorem isPosition_iff {key : Datum} :
    isPosition n key = true ↔ ∃ k : Int64, key = .int k ∧ 1 ≤ k.toInt ∧ k.toInt ≤ n := by
  cases key with
  | int k => simp [isPosition]
  | _ => simp [isPosition]

/-- Counting the keys tells whether they are the positions up to `n`, as none comes twice. -/
theorem isSequenceOf_iff (hv : t.Valid) (hperm : entries.Perm t.entries) (n : ℕ) :
    isSequenceOf entries n = true ↔ t.KeysUpTo n := by
  have hkeys : (entries.map Prod.fst).Perm (t.entries.map Prod.fst) := hperm.map Prod.fst
  have hlength : (entries.map Prod.fst).length = entries.length := List.length_map Prod.fst
  rw [isSequenceOf, Bool.and_eq_true, List.all_eq_true, beq_iff_eq]
  constructor
  · intro ⟨hall, hcount⟩
    have hnodup : (entries.map Prod.fst).Nodup := hkeys.nodup_iff.mpr (Table.nodup_entries hv)
    -- the positions that there are, which go no further than integers do
    have hsub (m : ℕ) (hm : m = min n (2 ^ 63 - 1)) :
        (entries.map Prod.fst).Subperm (Table.positions m) := by
      apply List.subperm_of_subset hnodup
      intro key hkey
      obtain ⟨entry, hentry, rfl⟩ := List.mem_map.mp hkey
      obtain ⟨k, hk, hlow, hhigh⟩ := isPosition_iff.mp (hall entry hentry)
      have hsmall := k.toInt_lt
      refine Table.mem_positions.mpr ⟨k.toInt.toNat - 1, by omega, ?_⟩
      rw [hk, Nat.sub_add_cancel (by omega), ← Int64.ofInt_eq_ofNat, Int.toNat_of_nonneg (by omega),
        Int64.ofInt_toInt]
    have hle := (hsub _ rfl).length_le
    rw [Table.length_positions] at hle
    have hfull := (hsub n (by omega)).perm_of_length_le (by rw [Table.length_positions]; omega)
    refine ⟨by omega, ?_⟩
    intro key
    rw [← Table.mem_positions, ← hfull.mem_iff, hkeys.mem_iff]
  · intro h
    have hpositions := hkeys.trans (h.perm hv)
    have hn := h.lt
    constructor
    · intro entry hentry
      obtain ⟨i, hi, hkey⟩ :=
        Table.mem_positions.mp (hpositions.mem_iff.mp (List.mem_map_of_mem hentry))
      have hint : (Int64.ofNat (i + 1)).toInt = i + 1 := by
        rw [Table.toInt_ofNat (by omega)]
        rfl
      exact isPosition_iff.mpr ⟨_, hkey, by omega, by omega⟩
    · rw [← hlength, hpositions.length_eq, Table.length_positions]

/-! Arrays. -/

theorem sequence_ok (hvalues : ∀ i < n, ∃ v, value (t.getInt ((i + 1 : ℕ) : ℤ)) = .ok v) :
    ∃ items : List Value, sequence value t n = .ok (.array items) ∧ items.length = n ∧
      ∀ i (hi : i < items.length), value (t.getInt ((i + 1 : ℕ) : ℤ)) = .ok items[i] := by
  obtain ⟨items, hitems⟩ := (mapM_succeeds_iff (fun (i : ℕ) => value (t.getInt ((i + 1 : ℕ) : ℤ)))
    (List.range n)).mpr fun i hi => hvalues i (List.mem_range.mp hi)
  have hpairs := (mapM_eq_ok_iff _ _ _).mp hitems
  have hlength : items.length = n := by rw [← hpairs.length_eq, List.length_range]
  refine ⟨items, (bind_eq_ok_iff _ _ _).mpr ⟨items, hitems, rfl⟩, hlength, ?_⟩
  intro i hi
  have hitem := (List.forall₂_iff_get.mp hpairs).2 i (by rw [List.length_range]; omega) hi
  simpa using hitem

/-! Documents. -/

/-- Keys that a field can be named by. -/
def IsName : Datum → Prop
  | .text _ | .int _ | .double _ => True
  | _ => False

theorem exists_fieldName {key : Datum} (hkey : IsName key) : ∃ name, fieldName key = .ok name := by
  cases key with
  | text s => exact ⟨_, rfl⟩
  | int k => exact ⟨_, rfl⟩
  | double x => exact ⟨_, rfl⟩
  | _ => exact hkey.elim

/-- Fields that come in the order of their names leave the keys in this order. -/
theorem insertFields_ascending {fields : List (String × Datum)} {doc : Document}
    (hsorted : fields.Pairwise fun a b => a.1 ≤ b.1)
    (hdoc : (doc.map Prod.fst).Pairwise (· < ·))
    (hbelow : ∀ name ∈ doc.map Prod.fst, ∀ field ∈ fields, name ≤ field.1)
    (hvalues : ∀ field ∈ fields, ∃ v, value field.2 = .ok v) :
    ∃ doc', fields.foldlM (insertField value) doc = .ok doc' ∧
      (doc'.map Prod.fst).Pairwise (· < ·) := by
  induction fields generalizing doc with
  | nil => exact ⟨doc, rfl, hdoc⟩
  | cons field fields ih =>
    obtain ⟨v, hv⟩ := hvalues field List.mem_cons_self
    have hinsert : insertField value doc field = .ok (doc.insert field.1 v) :=
      (bind_eq_ok_iff _ _ _).mpr ⟨v, hv, rfl⟩
    rw [List.pairwise_cons] at hsorted
    have hnext : ((doc.insert field.1 v).map Prod.fst).Pairwise (· < ·) := by
      rw [Document.keys_insert]
      split_ifs with hmem
      · exact hdoc
      · refine List.pairwise_append.mpr ⟨hdoc, List.pairwise_singleton _ _, ?_⟩
        intro name hname last hlast
        rw [List.mem_singleton.mp hlast]
        have hle := hbelow name hname field List.mem_cons_self
        rw [← String.not_le]
        intro hge
        rw [String.le_antisymm hle hge] at hname
        exact hmem hname
    have hbelow' : ∀ name ∈ (doc.insert field.1 v).map Prod.fst, ∀ f ∈ fields, name ≤ f.1 := by
      intro name hname f hf
      rcases (Document.mem_keys_insert doc field.1 name v).mp hname with rfl | hname
      · exact hsorted.1 f hf
      · exact hbelow name hname f (List.mem_cons_of_mem field hf)
    obtain ⟨doc', hfields, hdoc'⟩ := ih hsorted.2 hnext hbelow'
      fun f hf => hvalues f (List.mem_cons_of_mem field hf)
    refine ⟨doc', ?_, hdoc'⟩
    rw [List.foldlM_cons]
    exact (bind_eq_ok_iff _ _ _).mpr ⟨_, hinsert, hfields⟩

/-- The document of fields that all have values. -/
theorem addRest_ascending {named : List (String × Datum)}
    (hvalues : ∀ field ∈ named, ∃ v, value field.2 = .ok v) :
    ∃ doc, addRest value [] named = .ok doc ∧ (doc.map Prod.fst).Pairwise (· < ·) ∧
      ∀ name, name ∈ doc.map Prod.fst ↔ name ∈ named.map Prod.fst := by
  have hmem (field : String × Datum) : field ∈ remaining [] named ↔ field ∈ named := by
    rw [mem_remaining]
    simp
  have hsorted : (remaining [] named).Pairwise fun a b => a.1 ≤ b.1 := by
    refine (List.pairwise_mergeSort ?_ ?_ _).imp fun h => of_decide_eq_true h
    · intro a b c hab hbc
      rw [decide_eq_true_eq] at hab hbc ⊢
      exact String.le_trans hab hbc
    · intro a b
      rw [Bool.or_eq_true, decide_eq_true_eq, decide_eq_true_eq]
      exact String.le_total a.1 b.1
  have hnone : (([] : Document).map Prod.fst).Pairwise (· < ·) := List.Pairwise.nil
  obtain ⟨doc, hdoc, hascend⟩ := insertFields_ascending hsorted hnone (by simp)
    fun field hfield => hvalues field ((hmem field).mp hfield)
  refine ⟨doc, hdoc, hascend, ?_⟩
  intro name
  have hnodup : (([] : Document).map Prod.fst).Nodup := List.nodup_nil
  rw [(takesIn_insertFields hnodup hdoc).keys]
  simp only [List.map_nil, List.not_mem_nil, false_or, List.mem_map, hmem]

/-- Entries that all have names and values are a document, in whichever order they come. -/
theorem document_of_entries (hkeys : ∀ entry ∈ entries, IsName entry.1)
    (hvalues : ∀ entry ∈ entries, ∃ v, value entry.2 = .ok v) :
    ∃ doc : Document,
      (do return .document (← addRest value [] (← entries.mapM namedEntry))) =
        Except.ok (Value.document doc) ∧
      (doc.map Prod.fst).Pairwise (· < ·) ∧
      ∀ name, name ∈ doc.map Prod.fst ↔ ∃ entry ∈ entries, fieldName entry.1 = .ok name := by
  obtain ⟨named, hnamed⟩ := (mapM_succeeds_iff namedEntry entries).mpr fun entry hentry => by
    obtain ⟨name, hname⟩ := exists_fieldName (hkeys entry hentry)
    exact ⟨(name, entry.2), (namedEntry_eq_ok_iff _ _).mpr ⟨hname, rfl⟩⟩
  have hpairs := (mapM_eq_ok_iff _ _ _).mp hnamed
  have hfields : ∀ field ∈ named, ∃ v, value field.2 = .ok v := by
    intro field hfield
    obtain ⟨entry, hentry, hpair⟩ := exists_of_forall₂ hpairs field hfield
    rw [← ((namedEntry_eq_ok_iff _ _).mp hpair).2]
    exact hvalues entry hentry
  obtain ⟨doc, hdoc, hascend, hnames⟩ := addRest_ascending hfields
  refine ⟨doc, ?_, hascend, ?_⟩
  · rw [hnamed]
    exact (bind_eq_ok_iff _ _ _).mpr ⟨named, rfl, (bind_eq_ok_iff _ _ _).mpr ⟨doc, hdoc, rfl⟩⟩
  · intro name
    rw [hnames, List.mem_map]
    constructor
    · rintro ⟨field, hfield, rfl⟩
      obtain ⟨entry, hentry, hpair⟩ := exists_of_forall₂ hpairs field hfield
      exact ⟨entry, hentry, ((namedEntry_eq_ok_iff _ _).mp hpair).1⟩
    · intro ⟨entry, hentry, hname⟩
      obtain ⟨field, hfield, hpair⟩ := exists_of_forall₂ hpairs.flip entry hentry
      have hfound := ((namedEntry_eq_ok_iff _ _).mp hpair).1
      exact ⟨field, hfield, Except.ok.inj (hfound.symm.trans hname)⟩

/-! Which it is. -/

/-- The names that a metatable can tell a table by. -/
def knownNames : List String :=
  ["null", "MinKey", "MaxKey", "Date", "ObjectId", "RegExp", "BinData", "DBRef", "Array",
    "Document"]

/-- No metatable, or one whose name says nothing. -/
def Untagged (h : Heap) (t : Table) : Prop :=
  ∀ m ∈ t.metatable, ∃ name, text? ((h.table m).getText "__name") = .ok name ∧
    ∀ s ∈ name, s ∉ knownNames

theorem Untagged.ofTable (hu : Untagged h t) : ofTable value h t = untagged value t := by
  unfold Materialize.ofTable
  cases hm : t.metatable with
  | none => rfl
  | some m =>
    obtain ⟨name, hname, hnew⟩ := hu m hm
    have hgo {f : Option String → Except Unconvertible Value} :
        (Except.ok name >>= f) = f name := rfl
    dsimp only
    delta tagged
    simp only [hname, hgo]
    split
    case h_11 => rfl
    all_goals exact absurd (by decide) (hnew _ rfl)

/-- An array of the values at 1, 2 and so on where the keys are exactly the integers from 1 on; a
document of all entries, its keys ascending by their bytes, otherwise. -/
structure Detected (value : Datum → Except Unconvertible Value) (t : Table) (v : Value) :
    Prop where
  array_iff : (∃ items, v = .array items) ↔ ∃ n, 1 ≤ n ∧ t.KeysUpTo n
  items : ∀ items, v = .array items → t.KeysUpTo items.length ∧
    ∀ i (hi : i < items.length), value (t.getInt ((i + 1 : ℕ) : ℤ)) = .ok items[i]
  document : (¬∃ n, 1 ≤ n ∧ t.KeysUpTo n) → ∃ doc, v = .document doc ∧
    (doc.map Prod.fst).Pairwise (fun a b => Utf8.encode a < Utf8.encode b) ∧
    ∀ name, name ∈ doc.map Prod.fst ↔ ∃ entry ∈ t.entries, fieldName entry.1 = .ok name

/-- Any length that is the border of a sequence, and any order of the entries. -/
theorem untaggedBy_detected (hv : t.Valid) (hkeys : ∀ entry ∈ t.entries, IsName entry.1)
    (hvalues : ∀ entry ∈ t.entries, ∃ v, value entry.2 = .ok v)
    (hn : ∀ m, t.KeysUpTo m → n = m) (hperm : entries.Perm t.entries) :
    ∃ v, untaggedBy value t n entries = .ok v ∧ Detected value t v := by
  by_cases hsequence : 0 < n ∧ isSequenceOf entries n = true
  · obtain ⟨hpos, hcount⟩ := hsequence
    have hupTo := (isSequenceOf_iff hv hperm n).mp hcount
    have hitem : ∀ i < n, ∃ v, value (t.getInt ((i + 1 : ℕ) : ℤ)) = .ok v := by
      intro i hi
      have hkey := (hupTo.keys _).mpr ⟨i, hi, rfl⟩
      obtain ⟨entry, hentry, hfst⟩ := List.mem_map.mp hkey
      have hget := ((Table.mem_entries hv).mp hentry).2
      rw [Table.getInt, Int64.ofInt_eq_ofNat, ← hfst, hget]
      exact hvalues entry hentry
    obtain ⟨items, hitems, hlength, hvalue⟩ := sequence_ok hitem
    refine ⟨.array items, ?_, ?_, ?_, ?_⟩
    · rw [untaggedBy, if_pos (by simp [hpos, hcount]), hitems]
    · exact ⟨fun _ => ⟨n, hpos, hupTo⟩, fun _ => ⟨items, rfl⟩⟩
    · intro items' heq
      obtain rfl := Value.array.inj heq
      exact ⟨by rwa [hlength], hvalue⟩
    · intro hnone
      exact absurd ⟨n, hpos, hupTo⟩ hnone
  · have hnone : ¬∃ m, 1 ≤ m ∧ t.KeysUpTo m := by
      rintro ⟨m, hm, hupTo⟩
      have hlength := hn m hupTo
      subst hlength
      exact hsequence ⟨hm, (isSequenceOf_iff hv hperm n).mpr hupTo⟩
    obtain ⟨doc, hdoc, hascend, hnames⟩ := document_of_entries
      (fun entry hentry => hkeys entry (hperm.mem_iff.mp hentry))
      fun entry hentry => hvalues entry (hperm.mem_iff.mp hentry)
    refine ⟨.document doc, ?_, ?_, ?_, ?_⟩
    · rw [untaggedBy, if_neg (by simpa using hsequence), hdoc]
    · constructor
      · rintro ⟨items, heq⟩
        cases heq
      · intro hsome
        exact absurd hsome hnone
    · intro items heq
      cases heq
    · intro _
      refine ⟨doc, rfl, hascend.imp Utf8.encode_lt, ?_⟩
      intro name
      rw [hnames]
      exact exists_congr fun entry => and_congr_left fun _ => hperm.mem_iff

end Materialize

open Materialize

/-- A table without a known name becomes an array just where its keys are exactly the integers
from 1 on, whichever border is taken for its length and in whichever order its entries come. -/
theorem arrays_detected (h : Heap) (levels place : ℕ) (hv : (h.table place).Valid)
    (huntagged : Untagged h (h.table place))
    (hkeys : ∀ entry ∈ (h.table place).entries, IsName entry.1)
    (hvalues : ∀ entry ∈ (h.table place).entries, ∃ v, ofDatum h levels entry.2 = .ok v) :
    (∃ v, ofDatum h (levels + 1) (.table place) = .ok v ∧
      Detected (ofDatum h levels) (h.table place) v) ∧
    ∀ n entries, (h.table place).IsBorder n → entries.Perm (h.table place).entries →
      ∃ v, untaggedBy (ofDatum h levels) (h.table place) n entries = .ok v ∧
        Detected (ofDatum h levels) (h.table place) v := by
  constructor
  · rw [ofDatum_succ, huntagged.ofTable, untagged_eq]
    exact untaggedBy_detected hv hkeys hvalues (fun m hm => hm.border hv) (List.Perm.refl _)
  · intro n entries hborder hperm
    exact untaggedBy_detected hv hkeys hvalues (fun m hm => hm.eq_of_isBorder hv hborder) hperm

/-- A table of two values, under 1 and 3. -/
def holed : Heap := ⟨#[⟨#[.boolean true, .nil, .boolean false], [], 0, 3, none⟩], #[], #[], 0⟩

/-- Both 1 and 3 are borders of it, and it is a document with either. -/
theorem arrays_detected_holed :
    ((holed.table 0).IsBorder 1 ∧ (holed.table 0).IsBorder 3) ∧
      (∃ v, holed.valueOf (.table 0) = .ok v ∧
        Detected (ofDatum holed 99) (holed.table 0) v) ∧
      (∃ v, untaggedBy (ofDatum holed 99) (holed.table 0) 1 (holed.table 0).entries = .ok v ∧
        Detected (ofDatum holed 99) (holed.table 0) v) ∧
      ∃ v, untaggedBy (ofDatum holed 99) (holed.table 0) 3 (holed.table 0).entries = .ok v ∧
        Detected (ofDatum holed 99) (holed.table 0) v := by
  have hbeyond : (holed.table 0).items.getD (2 ^ 63 - 1) .nil = .nil := by
    rw [Array.getD_eq_getD_getElem?, Array.getElem?_eq_none (by decide), Option.getD_none]
  have hfields : (holed.table 0).fields = [] := rfl
  have hapart : ∀ f ∈ (holed.table 0).fields, (holed.table 0).slot? f.1 = none := by
    rw [hfields]
    exact List.forall_mem_nil _
  have hv : (holed.table 0).Valid := ⟨by decide, by decide, hbeyond, List.nodup_nil, hapart⟩
  have hentries : (holed.table 0).entries = [(.int 1, .boolean true), (.int 3, .boolean false)] :=
    rfl
  have hkeys : ∀ entry ∈ (holed.table 0).entries, IsName entry.1 := by
    rw [hentries]
    simp [IsName]
  have hvalues : ∀ entry ∈ (holed.table 0).entries,
      ∃ v, ofDatum holed 99 entry.2 = .ok v := by
    have hboolean (b : Bool) : ofDatum holed 99 (.boolean b) = .ok (.boolean b) :=
      ofDatum_plain (by simp) 99
    rw [hentries]
    simp only [List.forall_mem_cons]
    exact ⟨⟨_, hboolean true⟩, ⟨_, hboolean false⟩, List.forall_mem_nil _⟩
  have hfirst : (holed.table 0).IsBorder 1 := ⟨Or.inr rfl, Or.inl ⟨by decide, rfl⟩⟩
  have hlast : (holed.table 0).IsBorder 3 := ⟨Or.inr rfl, Or.inl ⟨by decide, rfl⟩⟩
  have huntagged : Untagged holed (holed.table 0) := by
    intro m hm
    cases hm
  obtain ⟨hvalue, hborders⟩ := arrays_detected holed 99 0 hv huntagged hkeys hvalues
  exact ⟨⟨hfirst, hlast⟩, hvalue, hborders 1 _ hfirst (List.Perm.refl _),
    hborders 3 _ hlast (List.Perm.refl _)⟩

end Docbase.Script
