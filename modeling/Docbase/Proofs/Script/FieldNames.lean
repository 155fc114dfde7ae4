import Docbase.Proofs.Script.Content
import Docbase.Proofs.Script.Links

/-!
What becomes of the entries of a table that is read as a document. Keys of different kinds may be
written alike, and of the entries of one name the document has one; it has all of them where no
two names are the same.
-/
namespace Docbase.Script

open Materialize

variable {h : Heap} {t : Table} {d : Datum} {v : Value} {levels : ℕ}

/-! Documents. -/

/-- What a text names is an entry of the table. -/
theorem mem_entries_getText {name : String} (hpresent : (t.getText name).isNil = false) :
    (Datum.ofText name, t.getText name) ∈ t.entries := by
  have hfield : (Datum.ofText name, t.getText name) ∈ t.fields :=
    Table.mem_of_lookUp (by rfl) hpresent
  rw [Table.entries, List.mem_filter]
  exact ⟨List.mem_append_right _ hfield, by rw [hpresent]; rfl⟩

/-- Fields are entries under the names of their keys. -/
theorem Materialize.Field.exists_entry {order : Option Table} {name : String}
    (hfield : Field t order name d) :
    ∃ entry ∈ t.entries, fieldName entry.1 = .ok name ∧ entry.2 = d := by
  cases hfield with
  | declared hname =>
    obtain ⟨names, hnames, i, hi, htext, hpresent⟩ := hname
    exact ⟨_, mem_entries_getText hpresent, fieldName_ofText name, rfl⟩
  | other hentry hname hnew => exact ⟨_, hentry, hname, rfl⟩

theorem exists_field {order : Option Table} {entry : Datum × Datum} {name : String}
    (hentry : entry ∈ t.entries) (hname : fieldName entry.1 = .ok name) :
    ∃ d, Field t order name d := by
  by_cases hdeclared : Declares order t name
  · exact ⟨_, .declared hdeclared⟩
  · exact ⟨entry.2, .other hentry hname hdeclared⟩

/-- An entry of a table and a field of the document that hold the same. -/
def Keeps (h : Heap) (entry : Datum × Datum) (field : String × Value) : Prop :=
  fieldName entry.1 = .ok field.1 ∧ h.valueOf entry.2 = .ok field.2

theorem exists_forall₂ {α β : Type} {R : α → β → Prop} {as : List α}
    (hR : ∀ a ∈ as, ∃ b, R a b) : ∃ bs, List.Forall₂ R as bs := by
  induction as with
  | nil => exact ⟨[], .nil⟩
  | cons a as ih =>
    obtain ⟨⟨b, hb⟩, hrest⟩ := List.forall_mem_cons.mp hR
    obtain ⟨bs, hbs⟩ := ih hrest
    exact ⟨b :: bs, .cons hb hbs⟩

/-- Where each name is that of one entry, entries and fields go in pairs. -/
theorem exists_perm_of_names {entries : List (Datum × Datum)} {doc : Document}
    (hnames : (entries.map fun entry => fieldName entry.1).Nodup)
    (hkeys : (doc.map Prod.fst).Nodup)
    (hentries : ∀ entry ∈ entries, ∃ name ∈ doc.map Prod.fst, fieldName entry.1 = .ok name)
    (hfields : ∀ field ∈ doc, ∃ entry ∈ entries, Keeps h entry field) :
    ∃ fields, fields.Perm doc ∧ List.Forall₂ (Keeps h) entries fields := by
  have hkept : ∀ entry ∈ entries, ∃ field, Keeps h entry field ∧ field ∈ doc := by
    intro entry hentry
    obtain ⟨name, hname, hwritten⟩ := hentries entry hentry
    obtain ⟨field, hfield, rfl⟩ := List.mem_map.mp hname
    obtain ⟨entry', hentry', hkeeps⟩ := hfields field hfield
    have hsame : entry' = entry :=
      List.inj_on_of_nodup_map hnames hentry' hentry (hkeeps.1.trans hwritten.symm)
    exact ⟨field, hsame ▸ hkeeps, hfield⟩
  obtain ⟨fields, hpairs⟩ := exists_forall₂ hkept
  have hwritten : entries.map (fun entry => fieldName entry.1) =
      fields.map fun field => .ok field.1 := by
    clear hnames hentries hfields hkept
    induction hpairs with
    | nil => rfl
    | cons hpair _ ih => rw [List.map_cons, List.map_cons, hpair.1.1, ih]
  have hnodup : fields.Nodup := by
    rw [hwritten] at hnames
    exact hnames.of_map
  refine ⟨fields, ?_, hpairs.imp fun _ _ hpair => hpair.1⟩
  refine (List.perm_ext_iff_of_nodup hnodup hkeys.of_map).mpr fun field => ?_
  constructor
  · intro hfield
    obtain ⟨entry, -, hpair⟩ := exists_of_forall₂ hpairs field hfield
    exact hpair.2
  · intro hfield
    obtain ⟨entry, hentry, hkeeps⟩ := hfields field hfield
    obtain ⟨field', hfield', hpair⟩ := exists_of_forall₂ hpairs.flip entry hentry
    have hname : field'.1 = field.1 := Except.ok.inj (hpair.1.1.symm.trans hkeeps.1)
    have hsame : field' = field := List.inj_on_of_nodup_map hkeys hpair.2 hfield hname
    exact hsame ▸ hfield'

/-- A document has each name that an entry of its table is written with, once, with the value of
such an entry; where no two names are the same, it has one field for each entry. -/
theorem fields_keep_entries (h : Heap) (place : ℕ) (doc : Document)
    (hvalue : h.valueOf (.table place) = .ok (.document doc)) :
    (∀ entry ∈ (h.table place).entries, ∃ name ∈ doc.map Prod.fst,
        fieldName entry.1 = .ok name) ∧
      (doc.map Prod.fst).Nodup ∧
      (∀ field ∈ doc, ∃ entry ∈ (h.table place).entries, Keeps h entry field) ∧
      (((h.table place).entries.map fun entry => fieldName entry.1).Nodup →
        ∃ fields, fields.Perm doc ∧ List.Forall₂ (Keeps h) (h.table place).entries fields) := by
  obtain ⟨order, hread⟩ := document_of_ofTable ((ofDatum_succ h 99 place).symm.trans hvalue)
  have hentries : ∀ entry ∈ (h.table place).entries, ∃ name ∈ doc.map Prod.fst,
      fieldName entry.1 = .ok name := by
    intro entry hentry
    obtain ⟨name, hname⟩ := hread.named entry hentry
    exact ⟨name, (hread.keys name).mpr (exists_field hentry hname), hname⟩
  have hfields : ∀ field ∈ doc, ∃ entry ∈ (h.table place).entries, Keeps h entry field := by
    intro field hfield
    obtain ⟨d, hd, hconverted⟩ := hread.mem field hfield
    obtain ⟨entry, hentry, hname, rfl⟩ := hd.exists_entry
    exact ⟨entry, hentry, hname, valueOf_of_inside hconverted⟩
  exact ⟨hentries, hread.nodup, hfields,
    fun hnames => exists_perm_of_names hnames hread.nodup hentries hfields⟩

/-! Names that differ and names that do not. -/

/-- How many fields the document of a table has. -/
def fieldCount? (h : Heap) (place : ℕ) : Option ℕ :=
  match h.valueOf (.table place) with
  | .ok (.document doc) => some doc.length
  | _ => none

theorem exists_document {place n : ℕ} (hcount : fieldCount? h place = some n) :
    ∃ doc, h.valueOf (.table place) = .ok (.document doc) ∧ doc.length = n := by
  unfold fieldCount? at hcount
  split at hcount
  · next doc hvalue => exact ⟨doc, hvalue, Option.some_inj.mp hcount⟩
  · cases hcount

/-- A document of two values, one under the number 1 and one under a text that is declared. -/
def declaring (name : String) : Heap :=
  ⟨#[⟨#[.int 8], [(.ofText name, .int 7)], 1, 1, some 1⟩,
    ⟨#[], [(.ofText "__name", .ofText "Document"), (.ofText "__keys", .table 2)], 2, 0, none⟩,
    ⟨#[.ofText name], [], 0, 1, none⟩], #[], #[], 0⟩

theorem fields_keep_entries_apart : ∃ doc : Document,
    (declaring "b").valueOf (.table 0) = .ok (.document doc) ∧ ∃ fields, fields.Perm doc ∧
      List.Forall₂ (Keeps (declaring "b")) ((declaring "b").table 0).entries fields := by
  have hcount : fieldCount? (declaring "b") 0 = some 2 := by decide +kernel
  obtain ⟨doc, hvalue, -⟩ := exists_document hcount
  have hnames : ((declaring "b").table 0).entries.map (fun entry => fieldName entry.1) =
      [.ok "1", fieldName (.ofText "b")] := by rfl
  have hdiffer : (((declaring "b").table 0).entries.map fun entry => fieldName entry.1).Nodup := by
    rw [hnames, fieldName_ofText]
    simp
  exact ⟨doc, hvalue, (fields_keep_entries (declaring "b") 0 doc hvalue).2.2.2 hdiffer⟩

/-- Where the text is `1` as well, the value under the number is lost. -/
theorem one_field_for_two_entries : ∃ doc : Document,
    (declaring "1").valueOf (.table 0) = .ok (.document doc) ∧ doc.length = 1 ∧
      ((declaring "1").table 0).entries.length = 2 := by
  have hcount : fieldCount? (declaring "1") 0 = some 1 := by decide +kernel
  obtain ⟨doc, hvalue, hlength⟩ := exists_document hcount
  exact ⟨doc, hvalue, hlength, by rfl⟩

end Docbase.Script
