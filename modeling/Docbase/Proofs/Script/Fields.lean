import Docbase.Proofs.Refusal
import Docbase.Proofs.Script.Meaning

/-!
The fields of tables that are read as documents. Declared names come first, each with what the
text names; all other entries are fields under the names that their keys are written with. A
document has each name once, with the value of a field of that name, and its fields are all
that is asked for.
-/
namespace Docbase

namespace Script.Materialize

variable {value value' : Datum → Except Unconvertible Value} {t : Table}

/-- The order of a document's fields names a field that the table has. -/
def Declares (order : Option Table) (t : Table) (name : String) : Prop :=
  ∃ names ∈ order, ∃ i < names.border,
    text (names.getInt ((i + 1 : ℕ) : ℤ)) = .ok name ∧ (t.getText name).isNil = false

/-- What stands under a name in a table that is read as a document: under a declared name what
the text names, under another one what a key has that is written so. -/
inductive Field (t : Table) (order : Option Table) : String → Datum → Prop
  | declared {name : String} (hname : Declares order t name) : Field t order name (t.getText name)
  | other {key d : Datum} {name : String} (hentry : (key, d) ∈ t.entries)
    (hname : fieldName key = .ok name) (hnew : ¬Declares order t name) : Field t order name d

/-- The slots of the order. -/
def declaredKeys : Option Table → List Datum
  | none => []
  | some names => (List.range names.border).map fun (i : ℕ) => names.getInt ((i + 1 : ℕ) : ℤ)

theorem declares_iff {order : Option Table} {name : String} :
    Declares order t name ↔ ∃ d ∈ declaredKeys order, text d = .ok name ∧
      (t.getText name).isNil = false := by
  cases order with
  | none => simp [Declares, declaredKeys]
  | some names => simp [Declares, declaredKeys]

/-- An entry under the name that it is written with. -/
def namedEntry (entry : Datum × Datum) : Except Unconvertible (String × Datum) := do
  return (← fieldName entry.1, entry.2)

theorem namedEntry_eq_ok_iff (entry : Datum × Datum) (field : String × Datum) :
    namedEntry entry = .ok field ↔ fieldName entry.1 = .ok field.1 ∧ entry.2 = field.2 := by
  rw [namedEntry, bind_eq_ok_iff]
  constructor
  · rintro ⟨name, hname, hfield⟩
    obtain rfl := (pure_eq_ok_iff _ _).mp hfield
    exact ⟨hname, rfl⟩
  · intro ⟨hname, hdatum⟩
    exact ⟨field.1, hname, (pure_eq_ok_iff _ _).mpr (by rw [hdatum])⟩

theorem document_eq (value : Datum → Except Unconvertible Value) (t : Table)
    (order : Option Table) :
    document value t order = (do
      let ordered ← (declaredKeys order).foldlM (addField value t) []
      let named ← t.entries.mapM namedEntry
      return .document (← addRest value ordered named)) := by
  cases order with
  | none => rfl
  | some names => rfl

/-- The document with one more field. -/
def insertField (value : Datum → Except Unconvertible Value) (doc : Document)
    (field : String × Datum) : Except Unconvertible Document := do
  return doc.insert field.1 (← value field.2)

/-- A document that took in fields one after the other. -/
structure TakesIn (value : Datum → Except Unconvertible Value) (fields : List (String × Datum))
    (doc doc' : Document) : Prop where
  converted : ∀ field ∈ fields, ∃ v, value field.2 = .ok v
  keys : ∀ name, name ∈ doc'.map Prod.fst ↔
    name ∈ doc.map Prod.fst ∨ name ∈ fields.map Prod.fst
  nodup : (doc'.map Prod.fst).Nodup
  mem : ∀ entry ∈ doc', entry ∈ doc ∨
    ∃ field ∈ fields, field.1 = entry.1 ∧ value field.2 = .ok entry.2

theorem TakesIn.refl {doc : Document} (hdoc : (doc.map Prod.fst).Nodup) :
    TakesIn value [] doc doc :=
  ⟨by simp, by simp, hdoc, fun _ hentry => .inl hentry⟩

theorem TakesIn.cons {fields : List (String × Datum)} {field : String × Datum} {v : Value}
    {doc doc' : Document} (hdoc : (doc.map Prod.fst).Nodup) (hvalue : value field.2 = .ok v)
    (hrest : TakesIn value fields (doc.insert field.1 v) doc') :
    TakesIn value (field :: fields) doc doc' where
  converted := List.forall_mem_cons.mpr ⟨⟨v, hvalue⟩, hrest.converted⟩
  keys name := by
    rw [hrest.keys, Document.mem_keys_insert, List.map_cons, List.mem_cons]
    tauto
  nodup := hrest.nodup
  mem entry hentry := by
    rcases hrest.mem entry hentry with hold | ⟨f, hf, hname, hconverted⟩
    · rcases Document.mem_insert hdoc hold with rfl | ⟨hold, -⟩
      · exact .inr ⟨field, List.mem_cons_self, rfl, hvalue⟩
      · exact .inl hold
    · exact .inr ⟨f, List.mem_cons_of_mem _ hf, hname, hconverted⟩

theorem takesIn_insertFields {fields : List (String × Datum)} {doc doc' : Document}
    (hdoc : (doc.map Prod.fst).Nodup) (hfields : fields.foldlM (insertField value) doc = .ok doc') :
    TakesIn value fields doc doc' := by
  induction fields generalizing doc with
  | nil =>
    obtain rfl := (pure_eq_ok_iff _ _).mp hfields
    exact .refl hdoc
  | cons field fields ih =>
    rw [List.foldlM_cons, bind_eq_ok_iff] at hfields
    obtain ⟨next, hnext, hrest⟩ := hfields
    obtain ⟨v, hvalue, hinsert⟩ := (bind_eq_ok_iff _ _ _).mp hnext
    obtain rfl := (pure_eq_ok_iff _ _).mp hinsert
    exact .cons hdoc hvalue (ih (Document.nodup_insert hdoc field.1 v) hrest)

/-- The fields that keys in a row name, but for those that the table lacks. -/
inductive Names (t : Table) : List Datum → List (String × Datum) → Prop
  | nil : Names t [] []
  | absent {d : Datum} {keys : List Datum} {fields : List (String × Datum)} {name : String}
    (hname : text d = .ok name) (hnil : (t.getText name).isNil = true)
    (hrest : Names t keys fields) : Names t (d :: keys) fields
  | present {d : Datum} {keys : List Datum} {fields : List (String × Datum)} {name : String}
    (hname : text d = .ok name) (hpresent : (t.getText name).isNil = false)
    (hrest : Names t keys fields) : Names t (d :: keys) ((name, t.getText name) :: fields)

theorem Names.mem_iff {keys : List Datum} {fields : List (String × Datum)}
    (hnames : Names t keys fields) (field : String × Datum) :
    field ∈ fields ↔ field.2 = t.getText field.1 ∧
      ∃ d ∈ keys, text d = .ok field.1 ∧ (t.getText field.1).isNil = false := by
  induction hnames with
  | nil => simp
  | @absent d keys fields name hname hnil hrest ih =>
    rw [ih]
    refine and_congr_right fun _ => ?_
    constructor
    · intro ⟨key, hkey, hfield⟩
      exact ⟨key, List.mem_cons_of_mem _ hkey, hfield⟩
    · intro ⟨key, hkey, hfield, hpresent⟩
      rcases List.mem_cons.mp hkey with rfl | hkey
      · rw [hname, Except.ok.injEq] at hfield
        rw [← hfield, hnil] at hpresent
        cases hpresent
      · exact ⟨key, hkey, hfield, hpresent⟩
  | @present d keys fields name hname hpresent hrest ih =>
    rw [List.mem_cons, ih]
    constructor
    · rintro (rfl | ⟨hdatum, key, hkey, hfield⟩)
      · exact ⟨rfl, d, List.mem_cons_self, hname, hpresent⟩
      · exact ⟨hdatum, key, List.mem_cons_of_mem _ hkey, hfield⟩
    · intro ⟨hdatum, key, hkey, hfield, hpresent⟩
      rcases List.mem_cons.mp hkey with rfl | hkey
      · rw [hname, Except.ok.injEq] at hfield
        subst hfield
        exact .inl (Prod.ext rfl hdatum)
      · exact .inr ⟨hdatum, key, hkey, hfield, hpresent⟩

/-- Fields that are looked up one after the other are written one after the other. -/
theorem exists_names {keys : List Datum} {doc doc' : Document}
    (hkeys : keys.foldlM (addField value t) doc = .ok doc') :
    ∃ fields, Names t keys fields ∧ fields.foldlM (insertField value) doc = .ok doc' := by
  induction keys generalizing doc with
  | nil => exact ⟨[], .nil, hkeys⟩
  | cons d keys ih =>
    rw [List.foldlM_cons, bind_eq_ok_iff] at hkeys
    obtain ⟨next, hnext, hrest⟩ := hkeys
    obtain ⟨fields, hnames, hfields⟩ := ih hrest
    rw [addField, bind_eq_ok_iff] at hnext
    obtain ⟨name, hname, hnext⟩ := hnext
    cases hpresent : (t.getText name).isNil with
    | true =>
      simp only [hpresent, if_true, pure_eq_ok_iff] at hnext
      subst hnext
      exact ⟨fields, .absent hname hpresent hnames, hfields⟩
    | false =>
      simp only [hpresent, Bool.false_eq_true, if_false] at hnext
      refine ⟨(name, t.getText name) :: fields, .present hname hpresent hnames, ?_⟩
      rw [List.foldlM_cons]
      exact (bind_eq_ok_iff _ _ _).mpr ⟨next, hnext, hfields⟩

/-- A table that became a document: each name of a field is a key, once, and each key has the
value of a field of that name. -/
structure ReadAs (value : Datum → Except Unconvertible Value) (t : Table) (order : Option Table)
    (doc : Document) : Prop where
  named : ∀ entry ∈ t.entries, ∃ name, fieldName entry.1 = .ok name
  nodup : (doc.map Prod.fst).Nodup
  converted : ∀ name d, Field t order name d → ∃ v, value d = .ok v
  keys : ∀ name, name ∈ doc.map Prod.fst ↔ ∃ d, Field t order name d
  mem : ∀ entry ∈ doc, ∃ d, Field t order entry.1 d ∧ value d = .ok entry.2

/-- The fields without a place in the document so far, by name. -/
def remaining (ordered : Document) (named : List (String × Datum)) : List (String × Datum) :=
  (named.filter fun field => !ordered.contains field.1).mergeSort fun a b => decide (a.1 ≤ b.1)

theorem mem_remaining {ordered : Document} {named : List (String × Datum)}
    {field : String × Datum} : field ∈ remaining ordered named ↔
      field ∈ named ∧ field.1 ∉ ordered.map Prod.fst := by
  rw [remaining, List.mem_mergeSort, List.mem_filter, Bool.not_eq_true', ← Document.contains_iff,
    Bool.not_eq_true]

/-- The names that are declared, once the document has their fields. -/
theorem mem_keys_declared {order : Option Table} {ordered : Document}
    (hordered : (declaredKeys order).foldlM (addField value t) [] = .ok ordered) (name : String) :
    name ∈ ordered.map Prod.fst ↔ Declares order t name := by
  obtain ⟨fields, hnames, hfields⟩ := exists_names hordered
  have hnil : (([] : Document).map Prod.fst).Nodup := List.nodup_nil
  rw [(takesIn_insertFields hnil hfields).keys, declares_iff]
  constructor
  · intro hname
    obtain ⟨field, hfield, rfl⟩ := List.mem_map.mp (hname.resolve_left List.not_mem_nil)
    exact ((hnames.mem_iff field).mp hfield).2
  · intro hdeclared
    refine .inr (List.mem_map.mpr ⟨(name, t.getText name), ?_, rfl⟩)
    exact (hnames.mem_iff _).mpr ⟨rfl, hdeclared⟩

/-- The data under names that are not declared. -/
theorem field_of_mem_remaining {order : Option Table} {ordered : Document}
    {named : List (String × Datum)}
    (hordered : (declaredKeys order).foldlM (addField value t) [] = .ok ordered)
    (hnamed : t.entries.mapM namedEntry = .ok named) {field : String × Datum}
    (hfield : field ∈ remaining ordered named) : Field t order field.1 field.2 := by
  obtain ⟨hmem, hnew⟩ := mem_remaining.mp hfield
  obtain ⟨entry, hentry, hname⟩ := exists_of_forall₂ ((mapM_eq_ok_iff _ _ _).mp hnamed) field hmem
  obtain ⟨hname, hdatum⟩ := (namedEntry_eq_ok_iff _ _).mp hname
  rw [← hdatum]
  exact .other hentry hname (mt (mem_keys_declared hordered field.1).mpr hnew)

theorem readAs_document {order : Option Table} {v : Value}
    (hvalue : document value t order = .ok v) : ∃ doc, v = .document doc ∧
      ReadAs value t order doc := by
  rw [document_eq, bind_eq_ok_iff] at hvalue
  obtain ⟨ordered, hordered, hvalue⟩ := hvalue
  obtain ⟨named, hnamed, hvalue⟩ := (bind_eq_ok_iff _ _ _).mp hvalue
  obtain ⟨doc, hdoc, hvalue⟩ := (bind_eq_ok_iff _ _ _).mp hvalue
  refine ⟨doc, ((pure_eq_ok_iff _ _).mp hvalue).symm, ?_⟩
  obtain ⟨fields, hnames, hfields⟩ := exists_names hordered
  have hfirst : TakesIn value fields [] ordered :=
    takesIn_insertFields List.nodup_nil hfields
  have hrest : TakesIn value (remaining ordered named) ordered doc :=
    takesIn_insertFields hfirst.nodup hdoc
  have hentries := (mapM_eq_ok_iff _ _ _).mp hnamed
  have hother {field : String × Datum} (hfield : field ∈ remaining ordered named) :
      Field t order field.1 field.2 := field_of_mem_remaining hordered hnamed hfield
  have hremaining {key d : Datum} {name : String} (hentry : (key, d) ∈ t.entries)
      (hname : fieldName key = .ok name) (hnew : ¬Declares order t name) :
      (name, d) ∈ remaining ordered named := by
    obtain ⟨field, hfield, hentry⟩ := exists_of_forall₂ hentries.flip (key, d) hentry
    obtain ⟨hkey, hdatum⟩ := (namedEntry_eq_ok_iff _ _).mp hentry
    obtain rfl : field.1 = name := Except.ok.inj (hkey.symm.trans hname)
    refine mem_remaining.mpr ⟨?_, mt (mem_keys_declared hordered field.1).mp hnew⟩
    rw [show d = field.2 from hdatum]
    exact hfield
  have hdeclared {name : String} (hname : Declares order t name) :
      (name, t.getText name) ∈ fields :=
    (hnames.mem_iff _).mpr ⟨rfl, declares_iff.mp hname⟩
  refine ⟨fun entry hentry => ?_, hrest.nodup, fun name d hfield => ?_, fun name => ?_,
    fun entry hentry => ?_⟩
  · obtain ⟨field, -, hfield⟩ := exists_of_forall₂ hentries.flip entry hentry
    exact ⟨field.1, ((namedEntry_eq_ok_iff _ _).mp hfield).1⟩
  · cases hfield with
    | declared hname => exact hfirst.converted _ (hdeclared hname)
    | other hentry hname hnew => exact hrest.converted _ (hremaining hentry hname hnew)
  · rw [hrest.keys, mem_keys_declared hordered]
    constructor
    · rintro (hname | hname)
      · exact ⟨_, .declared hname⟩
      · obtain ⟨field, hfield, rfl⟩ := List.mem_map.mp hname
        exact ⟨field.2, hother hfield⟩
    · rintro ⟨d, hfield⟩
      cases hfield with
      | declared hname => exact .inl hname
      | other hentry hname hnew =>
        exact .inr (List.mem_map.mpr ⟨_, hremaining hentry hname hnew, rfl⟩)
  · rcases hrest.mem entry hentry with hold | ⟨field, hfield, hname, hconverted⟩
    · obtain ⟨field, hfield, hname, hconverted⟩ :=
        (hfirst.mem entry hold).resolve_left List.not_mem_nil
      obtain ⟨hdatum, hfound⟩ := (hnames.mem_iff field).mp hfield
      rw [hname] at hdatum hfound
      rw [hdatum] at hconverted
      exact ⟨t.getText entry.1, .declared (declares_iff.mpr hfound), hconverted⟩
    · exact ⟨field.2, hname ▸ hother hfield, hconverted⟩

/-- A document asks for the values of its fields, also where it fails. -/
theorem document_congr {order : Option Table}
    (hsame : ∀ name d, Field t order name d → value d = value' d) :
    document value t order = document value' t order := by
  have hordered : (declaredKeys order).foldlM (addField value t) [] =
      (declaredKeys order).foldlM (addField value' t) [] := by
    refine foldlM_congr _ _ _ (fun d hd doc => ?_) []
    rw [addField, addField]
    cases hname : text d with
    | error e => rfl
    | ok name =>
      cases hpresent : (t.getText name).isNil with
      | true => simp [bind, Except.bind, hpresent]
      | false =>
        have hvalue : value (t.getText name) = value' (t.getText name) :=
          hsame name _ (.declared (declares_iff.mpr ⟨d, hd, hname, hpresent⟩))
        simp [bind, Except.bind, hvalue]
  rw [document_eq, document_eq, hordered]
  cases hfirst : (declaredKeys order).foldlM (addField value' t) [] with
  | error e => rfl
  | ok ordered =>
    cases hnamed : t.entries.mapM namedEntry with
    | error e => rfl
    | ok named =>
      have hrest : addRest value ordered named = addRest value' ordered named := by
        refine foldlM_congr _ _ _ (fun field hfield doc => ?_) ordered
        have hvalue : value field.2 = value' field.2 :=
          hsame _ _ (field_of_mem_remaining hfirst hnamed hfield)
        rw [hvalue]
      change (do return Value.document (← addRest value ordered named)) =
        (do return Value.document (← addRest value' ordered named))
      rw [hrest]

end Script.Materialize

end Docbase
