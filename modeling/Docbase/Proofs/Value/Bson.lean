import Docbase.Proofs.Value.Options
import Docbase.Proofs.Value.Shape
import Docbase.Value.Bson

/-!
Values on their way through BSON. A value comes back as it was unless a document in it has the
shape of a reference. What was read from BSON comes back as well, unless reading made the shape
of a reference by turning a symbol or code into a text.
-/
namespace Docbase

namespace Bson

variable {fields : List (String × Bson)} {collection : String} {database : Option String}

/-- The keys of documents that stand for references. -/
def referenceKeys : List String := ["$ref", "$id", "$db"]

theorem referenceShape?_eq_some_iff :
    referenceShape? fields = some (collection, database) ↔
      (∀ entry ∈ fields, entry.1 ∈ referenceKeys) ∧
        field? "$ref" fields = some (.string collection) ∧ (field? "$id" fields).isSome ∧
        field? "$db" fields = database.map .string := by
  have hknown : (fields.all fun entry => ["$ref", "$id", "$db"].contains entry.1) = true ↔
      ∀ entry ∈ fields, entry.1 ∈ referenceKeys := by
    simp [referenceKeys]
  rw [← hknown, referenceShape?]
  constructor
  · intro h
    split at h
    · next hall href hid hdb =>
      cases h
      exact ⟨hall, href, by rw [hid]; rfl, hdb⟩
    · next hall href hid hdb =>
      cases h
      exact ⟨hall, href, by rw [hid]; rfl, hdb⟩
    · cases h
  · rintro ⟨hall, href, hid, hdb⟩
    obtain ⟨id, hid⟩ := Option.isSome_iff_exists.mp hid
    cases database <;> simp only [hall, href, hid, hdb, Option.map_none, Option.map_some]

theorem mem_of_field? {key : String} {b : Bson} (h : field? key fields = some b) :
    (key, b) ∈ fields := by
  induction fields with
  | nil => cases h
  | cons entry fields ih =>
    obtain ⟨k, c⟩ := entry
    rw [field?] at h
    split_ifs at h with hkey
    · cases h
      exact hkey ▸ List.mem_cons_self
    · exact List.mem_cons_of_mem _ (ih h)

/-- Types without values inside, scopes of code aside: those are not read. -/
def IsLeaf : Bson → Prop
  | .document _ | .array _ => False
  | _ => True

/-- The recursor that descends into the documents and arrays that are read. -/
@[elab_as_elim]
theorem nested_induction {motive : Bson → Prop} (leaf : ∀ b, b.IsLeaf → motive b)
    (document : ∀ fields, (∀ entry ∈ fields, motive entry.2) → motive (.document fields))
    (array : ∀ items, (∀ b ∈ items, motive b) → motive (.array items)) (b : Bson) :
    motive b := by
  induction hsize : sizeOf b using Nat.strong_induction_on generalizing b with
  | _ n ih =>
    cases b with
    | document fields =>
      refine document fields fun entry hmem => ih _ ?_ entry.2 rfl
      have hlt := List.sizeOf_lt_of_mem hmem
      have hentry : sizeOf entry = 1 + sizeOf entry.1 + sizeOf entry.2 := rfl
      simp only [Bson.document.sizeOf_spec] at hsize
      omega
    | array items =>
      refine array items fun b hmem => ih _ ?_ b rfl
      have hlt := List.sizeOf_lt_of_mem hmem
      simp only [Bson.array.sizeOf_spec] at hsize
      omega
    | _ => exact leaf _ trivial

end Bson

namespace Value

/-! What is inside a value. -/

/-- A value stands in another at some depth, or is that value. -/
inductive Within (u : Value) : Value → Prop
  | self : Within u u
  | entry {fields : Document} {entry : String × Value} (hmem : entry ∈ fields)
    (h : Within u entry.2) : Within u (.document fields)
  | item {items : List Value} {v : Value} (hmem : v ∈ items) (h : Within u v) :
    Within u (.array items)
  | id {id : Value} (database : Option String) (collection : String) (h : Within u id) :
    Within u (.reference database collection id)

/-- A document that BSON reads as a reference: a text as `$ref`, anything as `$id`, perhaps a
text as `$db`, and no other key. -/
structure HasReferenceShape (fields : Document) : Prop where
  known : ∀ entry ∈ fields, entry.1 ∈ Bson.referenceKeys
  collection : ∃ name, Document.get? fields "$ref" = some (.string name)
  id : (Document.get? fields "$id").isSome
  database : ∀ v, Document.get? fields "$db" = some v → ∃ name, v = .string name

section Within

variable {P : Document → Prop}

theorem forall_within_scalar {v : Value} (hv : v.IsScalar) :
    ∀ fields, Within (.document fields) v → P fields := by
  intro fields h
  cases h <;> exact hv.elim

theorem forall_within_document {fields : Document} :
    (∀ d, Within (.document d) (.document fields) → P d) ↔
      P fields ∧ ∀ entry ∈ fields, ∀ d, Within (.document d) entry.2 → P d := by
  constructor
  · exact fun h => ⟨h fields .self, fun entry hmem d hd => h d (.entry hmem hd)⟩
  · rintro ⟨hself, hentries⟩ d hd
    cases hd with
    | self => exact hself
    | entry hmem hd => exact hentries _ hmem d hd

theorem forall_within_array {items : List Value} :
    (∀ d, Within (.document d) (.array items) → P d) ↔
      ∀ v ∈ items, ∀ d, Within (.document d) v → P d := by
  constructor
  · exact fun h v hmem d hd => h d (.item hmem hd)
  · intro hitems d hd
    cases hd with
    | item hmem hd => exact hitems _ hmem d hd

theorem forall_within_reference {database : Option String} {collection : String} {id : Value} :
    (∀ d, Within (.document d) (.reference database collection id) → P d) ↔
      ∀ d, Within (.document d) id → P d := by
  constructor
  · exact fun h d hd => h d (.id database collection hd)
  · intro hid d hd
    cases hd with
    | id _ _ hd => exact hid d hd

end Within

/-! Entries and elements one by one. -/

theorem fieldsOfBson_eq (fields : List (String × Bson)) :
    fieldsOfBson fields = fields.map fun entry => (entry.1, ofBson entry.2) := by
  induction fields with
  | nil => rfl
  | cons entry fields ih => exact congrArg ((entry.1, ofBson entry.2) :: ·) ih

theorem itemsOfBson_eq (items : List Bson) : itemsOfBson items = items.map ofBson := by
  induction items with
  | nil => rfl
  | cons b items ih => exact congrArg (ofBson b :: ·) ih

theorem fieldsToBson_eq (fields : Document) :
    fieldsToBson fields = fields.map fun entry => (entry.1, toBson entry.2) := by
  induction fields with
  | nil => rfl
  | cons entry fields ih => exact congrArg ((entry.1, toBson entry.2) :: ·) ih

theorem itemsToBson_eq (items : List Value) : itemsToBson items = items.map toBson := by
  induction items with
  | nil => rfl
  | cons v items ih => exact congrArg (toBson v :: ·) ih

theorem field?_fieldsToBson (key : String) (fields : Document) :
    Bson.field? key (fieldsToBson fields) = (Document.get? fields key).map toBson := by
  induction fields with
  | nil => rfl
  | cons entry fields ih =>
    obtain ⟨k, v⟩ := entry
    rw [fieldsToBson, Bson.field?, Document.get?, ih]
    split_ifs <;> rfl

theorem get?_fieldsOfBson (key : String) (fields : List (String × Bson)) :
    Document.get? (fieldsOfBson fields) key = (Bson.field? key fields).map ofBson := by
  induction fields with
  | nil => rfl
  | cons entry fields ih =>
    obtain ⟨k, b⟩ := entry
    rw [fieldsOfBson, Bson.field?, Document.get?, ih]
    split_ifs <;> rfl

theorem toBson_eq_string_iff (v : Value) (s : String) : toBson v = .string s ↔ v = .string s := by
  cases v <;> simp [toBson]

/-- The shape of a document is that of the document it is written as. -/
theorem referenceShape?_fieldsToBson (fields : Document) :
    (Bson.referenceShape? (fieldsToBson fields)).isSome ↔ HasReferenceShape fields := by
  have hkeys : (∀ entry ∈ fieldsToBson fields, entry.1 ∈ Bson.referenceKeys) ↔
      ∀ entry ∈ fields, entry.1 ∈ Bson.referenceKeys := by
    rw [fieldsToBson_eq, List.forall_mem_map]
  rw [Option.isSome_iff_exists, Prod.exists]
  simp only [Bson.referenceShape?_eq_some_iff, hkeys, field?_fieldsToBson, Option.isSome_map,
    Option.map_eq_some_iff, toBson_eq_string_iff]
  constructor
  · rintro ⟨collection, database, hknown, ⟨v, hv, rfl⟩, hid, hdb⟩
    refine ⟨hknown, ⟨collection, hv⟩, hid, fun v hv => ?_⟩
    rw [hv] at hdb
    cases database with
    | none => cases hdb
    | some name => exact ⟨name, (toBson_eq_string_iff v name).mp (Option.some_inj.mp hdb)⟩
  · rintro ⟨hknown, ⟨collection, hcollection⟩, hid, hdb⟩
    cases hv : Document.get? fields "$db" with
    | none => exact ⟨collection, none, hknown, ⟨_, hcollection, rfl⟩, hid, rfl⟩
    | some v =>
      obtain ⟨name, rfl⟩ := hdb v hv
      exact ⟨collection, some name, hknown, ⟨_, hcollection, rfl⟩, hid, rfl⟩

/-! Which values come back. -/

/-- What becomes of a value that is written and read. -/
def returned (v : Value) : Value := ofBson (toBson v)

theorem returned_scalar {v : Value} (hv : v.IsScalar)
    (hregex : ∀ r, v = .regex r → ∃ pattern options, r = Regex.ofText pattern options) :
    v.returned = v := by
  cases v with
  | regex r =>
    obtain ⟨pattern, options, rfl⟩ := hregex r rfl
    exact congrArg Value.regex (Regex.ofText_options pattern options)
  | document | array | reference => exact hv.elim
  | _ => rfl

theorem map_eq_self_iff {α : Type} {f : α → α} {l : List α} : l.map f = l ↔ ∀ a ∈ l, f a = a := by
  conv_lhs => rhs; rw [← List.map_id l]
  exact List.map_inj_left

theorem returned_document_iff (fields : Document) :
    (Value.document fields).returned = .document fields ↔
      ¬HasReferenceShape fields ∧ ∀ entry ∈ fields, entry.2.returned = entry.2 := by
  rw [returned, toBson, ofBson, ← referenceShape?_fieldsToBson]
  cases Bson.referenceShape? (fieldsToBson fields) with
  | some shape => simp
  | none =>
    simp only [fieldsOfBson_eq, fieldsToBson_eq, List.map_map, Value.document.injEq]
    rw [map_eq_self_iff]
    simp [Prod.ext_iff, returned]

theorem returned_array_iff (items : List Value) :
    (Value.array items).returned = .array items ↔ ∀ v ∈ items, v.returned = v := by
  rw [returned, toBson, ofBson, itemsOfBson_eq, itemsToBson_eq, List.map_map, Value.array.injEq]
  exact map_eq_self_iff

theorem toBson_reference (database : Option String) (collection : String) (id : Value) :
    toBson (.reference database collection id) =
      .document (fieldsToBson (referenceFields database collection id)) := by
  cases database <;> rfl

/-- What a reference is written as is read as that reference again. -/
theorem referenceShape?_referenceFields (database : Option String) (collection : String)
    (id : Value) :
    Bson.referenceShape? (fieldsToBson (referenceFields database collection id)) =
      some (collection, database) := by
  cases database <;> rfl

theorem returned_reference (database : Option String) (collection : String) (id : Value) :
    (Value.reference database collection id).returned =
      .reference database collection id.returned := by
  have hid : Document.get? (referenceFields database collection id) "$id" = some id := by
    simp [referenceFields, Document.get?]
  rw [returned, toBson_reference, ofBson, referenceShape?_referenceFields]
  simp only [get?_fieldsOfBson, field?_fieldsToBson, hid, Option.map_some, Option.getD_some,
    returned]

/-- A value comes back from BSON as it was when no document in it has the shape of a reference,
and only then. -/
theorem bson_round_trip_iff (v : Value)
    (hregex : ∀ r, Within (.regex r) v → ∃ pattern options, r = Regex.ofText pattern options) :
    ofBson (toBson v) = v ↔ ∀ fields, Within (.document fields) v → ¬HasReferenceShape fields := by
  change v.returned = v ↔ _
  induction v using nested_induction with
  | scalar v hv =>
    have hback := returned_scalar hv fun r hr => hregex r (hr ▸ .self)
    exact iff_of_true hback (forall_within_scalar hv)
  | document fields ih =>
    rw [returned_document_iff, forall_within_document]
    refine and_congr_right fun _ => forall₂_congr fun entry hmem => ?_
    exact ih entry hmem fun r hr => hregex r (.entry hmem hr)
  | array items ih =>
    rw [returned_array_iff, forall_within_array]
    refine forall₂_congr fun u hmem => ?_
    exact ih u hmem fun r hr => hregex r (.item hmem hr)
  | reference database collection id ih =>
    rw [returned_reference, Value.reference.injEq, forall_within_reference]
    simpa using ih fun r hr => hregex r (.id database collection hr)

/-- A reference whose id holds a pattern and a document with two of the keys. -/
def nestedReference : Value :=
  .reference (some "db") "xs" <| .array
    [.document [("$id", .int32 1), ("$ref", .null)], .regex (Regex.ofText "a" "mi")]

theorem bson_round_trip_nested : ofBson (toBson nestedReference) = nestedReference := by
  refine (bson_round_trip_iff nestedReference fun r h => ?_).mpr ?_
  · rcases h with _ | _ | _ | ⟨_, _, _ | _ | ⟨hmem, h⟩⟩
    simp only [List.mem_cons, List.not_mem_nil, or_false] at hmem
    rcases hmem with rfl | rfl
    · rcases h with _ | ⟨hmem, h⟩
      simp only [List.mem_cons, List.not_mem_nil, or_false] at hmem
      rcases hmem with rfl | rfl <;> cases h
    · cases h
      exact ⟨_, _, rfl⟩
  · simp only [nestedReference, forall_within_reference, forall_within_array, List.forall_mem_cons,
      forall_within_document]
    refine ⟨⟨fun hshape => ?_, forall_within_scalar trivial, forall_within_scalar trivial,
      List.forall_mem_nil _⟩, forall_within_scalar trivial, List.forall_mem_nil _⟩
    obtain ⟨name, hname⟩ := hshape.collection
    cases hname

end Value

/-! Reading BSON that has not been written from a value. -/

namespace Bson

/-- A type that is read as a text. -/
def IsText : Bson → Prop
  | .string _ | .symbol _ | .code _ | .codeWithScope .. => True
  | _ => False

/-- A document that is kept as a document when a BSON value is read. Of a reference only the id
is read, and of code not the scope. -/
inductive Keeps (d : List (String × Bson)) : Bson → Prop
  | self (h : referenceShape? d = none) : Keeps d (.document d)
  | entry {fields : List (String × Bson)} {entry : String × Bson}
    (hshape : referenceShape? fields = none) (hmem : entry ∈ fields) (h : Keeps d entry.2) :
    Keeps d (.document fields)
  | id {fields : List (String × Bson)} {b : Bson} (hshape : (referenceShape? fields).isSome)
    (hid : field? "$id" fields = some b) (h : Keeps d b) : Keeps d (.document fields)
  | item {items : List Bson} {b : Bson} (hmem : b ∈ items) (h : Keeps d b) :
    Keeps d (.array items)

/-- A document that reading gives the shape of a reference. -/
structure BecomesReference (fields : List (String × Bson)) : Prop where
  known : ∀ entry ∈ fields, entry.1 ∈ referenceKeys
  collection : ∃ b, field? "$ref" fields = some b ∧ b.IsText
  id : (field? "$id" fields).isSome
  database : ∀ b, field? "$db" fields = some b → b.IsText

section Keeps

variable {P : List (String × Bson) → Prop}

theorem forall_keeps_leaf {b : Bson} (hb : b.IsLeaf) : ∀ d, Keeps d b → P d := by
  intro d h
  cases h <;> exact hb.elim

theorem forall_keeps_document (h : referenceShape? fields = none) :
    (∀ d, Keeps d (.document fields) → P d) ↔
      P fields ∧ ∀ entry ∈ fields, ∀ d, Keeps d entry.2 → P d := by
  constructor
  · exact fun hd => ⟨hd fields (.self h), fun entry hmem d hentry =>
      hd d (.entry h hmem hentry)⟩
  · rintro ⟨hself, hentries⟩ d hd
    cases hd with
    | self => exact hself
    | entry _ hmem hd => exact hentries _ hmem d hd
    | id hshape => rw [h] at hshape; cases hshape

theorem forall_keeps_reference {b : Bson} (h : (referenceShape? fields).isSome)
    (hid : field? "$id" fields = some b) :
    (∀ d, Keeps d (.document fields) → P d) ↔ ∀ d, Keeps d b → P d := by
  constructor
  · exact fun hd d hb => hd d (.id h hid hb)
  · intro hb d hd
    cases hd with
    | self hnone => rw [hnone] at h; cases h
    | entry hnone => rw [hnone] at h; cases h
    | id _ hid' hd =>
      cases Option.some_inj.mp (hid.symm.trans hid')
      exact hb d hd

theorem forall_keeps_array {items : List Bson} :
    (∀ d, Keeps d (.array items) → P d) ↔ ∀ b ∈ items, ∀ d, Keeps d b → P d := by
  constructor
  · exact fun h b hmem d hd => h d (.item hmem hd)
  · intro hitems d hd
    cases hd with
    | item hmem hd => exact hitems _ hmem d hd

end Keeps

end Bson

namespace Value

theorem exists_ofBson_eq_string_iff (b : Bson) : (∃ s, ofBson b = .string s) ↔ b.IsText := by
  cases b with
  | document fields =>
    rw [ofBson]
    split <;> simp [Bson.IsText]
  | _ => simp [ofBson, Bson.IsText]

theorem hasReferenceShape_fieldsOfBson (fields : List (String × Bson)) :
    HasReferenceShape (fieldsOfBson fields) ↔ Bson.BecomesReference fields := by
  have hkeys : (∀ entry ∈ fieldsOfBson fields, entry.1 ∈ Bson.referenceKeys) ↔
      ∀ entry ∈ fields, entry.1 ∈ Bson.referenceKeys := by
    rw [fieldsOfBson_eq, List.forall_mem_map]
  constructor
  · rintro ⟨hknown, ⟨name, hname⟩, hid, hdb⟩
    rw [get?_fieldsOfBson, Option.map_eq_some_iff] at hname
    obtain ⟨b, hb, hname⟩ := hname
    rw [get?_fieldsOfBson, Option.isSome_map] at hid
    refine ⟨hkeys.mp hknown, ⟨b, hb, (exists_ofBson_eq_string_iff b).mp ⟨name, hname⟩⟩, hid,
      fun b hb => (exists_ofBson_eq_string_iff b).mp (hdb _ ?_)⟩
    rw [get?_fieldsOfBson, hb, Option.map_some]
  · rintro ⟨hknown, ⟨b, hb, htext⟩, hid, hdb⟩
    obtain ⟨name, hname⟩ := (exists_ofBson_eq_string_iff b).mpr htext
    refine ⟨hkeys.mpr hknown, ⟨name, ?_⟩, ?_, fun v hv => ?_⟩
    · rw [get?_fieldsOfBson, hb, Option.map_some, hname]
    · rwa [get?_fieldsOfBson, Option.isSome_map]
    · rw [get?_fieldsOfBson, Option.map_eq_some_iff] at hv
      obtain ⟨b, hb, rfl⟩ := hv
      exact (exists_ofBson_eq_string_iff b).mpr (hdb b hb)

theorem returned_ofBson_leaf {b : Bson} (hb : b.IsLeaf) : (ofBson b).returned = ofBson b := by
  refine returned_scalar ?_ fun r hr => ?_
  · cases b <;> trivial
  · cases b <;> first | exact hb.elim | cases hr
    exact ⟨_, _, rfl⟩

/-- What was read from BSON comes back as it is when no document was given the shape of a
reference by reading it, and only then. -/
theorem narrowing_stable_iff (b : Bson) :
    ofBson (toBson (ofBson b)) = ofBson b ↔
      ∀ fields, b.Keeps fields → ¬Bson.BecomesReference fields := by
  change (ofBson b).returned = ofBson b ↔ _
  induction b using Bson.nested_induction with
  | leaf b hb => exact iff_of_true (returned_ofBson_leaf hb) (Bson.forall_keeps_leaf hb)
  | document fields ih =>
    cases hshape : Bson.referenceShape? fields with
    | none =>
      have hread : ofBson (.document fields) = .document (fieldsOfBson fields) := by
        rw [ofBson, hshape]
      rw [hread, returned_document_iff, hasReferenceShape_fieldsOfBson,
        Bson.forall_keeps_document hshape, fieldsOfBson_eq, List.forall_mem_map]
      exact and_congr_right fun _ => forall₂_congr ih
    | some shape =>
      obtain ⟨_, _, hid, _⟩ := Bson.referenceShape?_eq_some_iff.mp hshape
      obtain ⟨id, hid⟩ := Option.isSome_iff_exists.mp hid
      have hread : ofBson (.document fields) = .reference shape.2 shape.1 (ofBson id) := by
        rw [ofBson, hshape]
        simp only [get?_fieldsOfBson, hid, Option.map_some, Option.getD_some]
      rw [hread, returned_reference, Value.reference.injEq,
        Bson.forall_keeps_reference (hshape ▸ rfl) hid]
      simpa using ih ("$id", id) (Bson.mem_of_field? hid)
  | array items ih =>
    have hread : ofBson (.array items) = .array (items.map ofBson) :=
      congrArg Value.array (itemsOfBson_eq items)
    rw [hread, returned_array_iff, Bson.forall_keeps_array, List.forall_mem_map]
    exact forall₂_congr ih

/-- A symbol in the place of the collection is read as a text; only then the document has the
shape of a reference. -/
theorem narrowing_not_stable : ¬∀ b, ofBson (toBson (ofBson b)) = ofBson b := by
  intro h
  have hsymbol := h (.document [("$ref", .symbol "xs"), ("$id", .int32 1)])
  cases hsymbol

end Value

end Docbase
