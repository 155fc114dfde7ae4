import Docbase.Proofs.Script.Fields

/-!
The forms in which tables are read. The metatable and the keys of a table tell whether it is an
array, a document, a reference or a value without data inside; the data of each form are all
that is asked for, whatever it is that gives them their values, and all of them have values if
the table has one.
-/
namespace Docbase.Script.Materialize

variable {value value' : Datum → Except Unconvertible Value} {h : Heap} {t : Table}

/-- What a table is read as. -/
inductive Form where
  /-- A value without data inside, if it is one at all. -/
  | scalar
  | array
  | reference
  | document (order : Option Table)

def untaggedForm (t : Table) : Form :=
  if 0 < t.border && isSequence t t.border then .array else .document none

/-- The form by the name in a metatable. -/
def taggedForm (h : Heap) (t metatable : Table) : Form :=
  match text? (metatable.getText "__name") with
  | .error _ => .scalar
  | .ok name =>
    match name with
    | some "null" | some "MinKey" | some "MaxKey" | some "Date" | some "ObjectId"
    | some "RegExp" | some "BinData" => .scalar
    | some "DBRef" => .reference
    | some "Array" => .array
    | some "Document" =>
      match metatable.getText "__keys" with
      | .nil => .document none
      | .table keys => .document (some (h.table keys))
      | _ => .scalar
    | _ => untaggedForm t

def formOf (h : Heap) (t : Table) : Form :=
  match t.metatable with
  | some metatable => taggedForm h t (h.table metatable)
  | none => untaggedForm t

/-- The value of a table, given those of the data inside. -/
def ofTable (value : Datum → Except Unconvertible Value) (h : Heap) (t : Table) :
    Except Unconvertible Value :=
  match t.metatable with
  | some metatable => tagged value h t (h.table metatable)
  | none => untagged value t

def reference (value : Datum → Except Unconvertible Value) (t : Table) :
    Except Unconvertible Value := do
  let collection ← text (t.getText "$ref")
  let database ← text? (t.getText "$db")
  return .reference database collection (← value (t.getText "$id"))

/-- The value of a table of a form; where the data inside do not matter, it is given. -/
def readForm (value : Datum → Except Unconvertible Value) (t : Table)
    (scalar : Except Unconvertible Value) : Form → Except Unconvertible Value
  | .scalar => scalar
  | .array => sequence value t t.border
  | .reference => reference value t
  | .document order => document value t order

/-- A result that is no document, array or reference. -/
def Plain (result : Except Unconvertible Value) : Prop := ∀ v, result = .ok v → v.IsScalar

theorem plain_ok {v : Value} (hv : v.IsScalar) : Plain (.ok v) := by
  intro w hw
  cases hw
  exact hv

theorem plain_error (e : Unconvertible) : Plain (.error e) := nofun

theorem plain_bind {α : Type} {x : Except Unconvertible α}
    {f : α → Except Unconvertible Value} (hf : ∀ a, Plain (f a)) : Plain (x >>= f) := by
  intro v hv
  obtain ⟨a, -, ha⟩ := (bind_eq_ok_iff _ _ _).mp hv
  exact hf a v ha

theorem plain_objectId (s : String) : Plain (objectId s) := by
  unfold objectId
  dsimp only
  split_ifs
  · exact plain_error _
  · split
    · exact plain_error _
    · split
      · exact plain_ok trivial
      · exact plain_error _

theorem untagged_eq_read (value : Datum → Except Unconvertible Value) (t : Table)
    (scalar : Except Unconvertible Value) :
    untagged value t = readForm value t scalar (untaggedForm t) := by
  rw [untagged, untaggedForm]
  split_ifs
  · rfl
  · rfl

/-- The form tells how the data inside a table give it its value. -/
theorem exists_read_tagged (h : Heap) (t metatable : Table) :
    ∃ scalar, Plain scalar ∧
      ∀ value, tagged value h t metatable = 
        readForm value t scalar (taggedForm h t metatable) := by
  cases hname : text? (metatable.getText "__name") with
  | error e =>
    refine ⟨.error e, plain_error e, fun value => ?_⟩
    rw [taggedForm, hname]
    delta tagged
    rw [hname]
    rfl
  | ok name =>
    have hgo {f : Option String → Except Unconvertible Value} :
        (Except.ok name >>= f) = f name := rfl
    rw [taggedForm, hname]
    delta tagged
    simp only [hname, hgo]
    -- the names in the order in which they are looked for
    split
    case h_1 | h_2 | h_3 =>
      refine ⟨_, ?_, fun value => rfl⟩
      exact plain_ok trivial
    case h_4 =>
      refine ⟨_, ?_, fun value => rfl⟩
      exact plain_bind fun n => plain_ok trivial
    case h_5 =>
      refine ⟨_, ?_, fun value => rfl⟩
      exact plain_bind plain_objectId
    case h_6 =>
      refine ⟨_, ?_, fun value => rfl⟩
      exact plain_bind fun pattern => plain_bind fun options => plain_ok trivial
    case h_7 =>
      refine ⟨_, ?_, fun value => rfl⟩
      refine plain_bind fun subtype => ?_
      split_ifs
      · exact plain_error (.subtype subtype)
      · split
        · exact plain_ok trivial
        · exact plain_error _
    case h_8 | h_9 => exact ⟨.error .noText, plain_error _, fun value => rfl⟩
    case h_10 =>
      refine ⟨.error .noText, plain_error _, fun value => ?_⟩
      cases metatable.getText "__keys" <;> rfl
    case h_11 =>
      -- the form is looked for under the same names, which are ruled out
      refine ⟨.error .noText, plain_error _, fun value => ?_⟩
      exact (untagged_eq_read value t (.error .noText)).trans (by simp only [*])

theorem exists_read (h : Heap) (t : Table) :
    ∃ scalar, Plain scalar ∧
      ∀ value, ofTable value h t = readForm value t scalar (formOf h t) := by
  unfold ofTable formOf
  cases t.metatable with
  | some metatable => exact exists_read_tagged h t (h.table metatable)
  | none =>
    exact ⟨.error .noText, plain_error _, fun value => untagged_eq_read value t _⟩

/-! The data inside. -/

/-- A datum inside a table of a form. -/
inductive Inside (t : Table) : Form → Datum → Prop
  | item {i : ℕ} (hi : i < t.border) : Inside t .array (t.getInt ((i + 1 : ℕ) : ℤ))
  | field {order : Option Table} {name : String} {d : Datum} (hfield : Field t order name d) :
    Inside t (.document order) d
  | id : Inside t .reference (t.getText "$id")

/-- A value that was put together from values of data. -/
inductive Assembled (value : Datum → Except Unconvertible Value) : Value → Prop
  | scalar {v : Value} (hv : v.IsScalar) : Assembled value v
  | array {items : List Value} (hitems : ∀ v ∈ items, ∃ d, value d = .ok v) :
    Assembled value (.array items)
  | reference {id : Value} (database : Option String) (collection : String)
    (hid : ∃ d, value d = .ok id) : Assembled value (.reference database collection id)
  | document {fields : Document} (hkeys : (fields.map Prod.fst).Nodup)
    (hfields : ∀ entry ∈ fields, ∃ d, value d = .ok entry.2) : Assembled value (.document fields)

theorem sequence_eq_ok {n : ℕ} {v : Value} (hvalue : sequence value t n = .ok v) :
    ∃ items, v = .array items ∧
      List.Forall₂ (fun (i : ℕ) w => value (t.getInt ((i + 1 : ℕ) : ℤ)) = .ok w)
        (List.range n) items := by
  rw [sequence, bind_eq_ok_iff] at hvalue
  obtain ⟨items, hitems, hvalue⟩ := hvalue
  exact ⟨items, ((pure_eq_ok_iff _ _).mp hvalue).symm, (mapM_eq_ok_iff _ _ _).mp hitems⟩

theorem reference_eq_ok {v : Value} (hvalue : reference value t = .ok v) :
    ∃ database collection id, v = .reference database collection id ∧
      value (t.getText "$id") = .ok id := by
  rw [reference, bind_eq_ok_iff] at hvalue
  obtain ⟨collection, -, hvalue⟩ := hvalue
  obtain ⟨database, -, hvalue⟩ := (bind_eq_ok_iff _ _ _).mp hvalue
  obtain ⟨id, hid, hvalue⟩ := (bind_eq_ok_iff _ _ _).mp hvalue
  exact ⟨database, collection, id, ((pure_eq_ok_iff _ _).mp hvalue).symm, hid⟩

/-- The values of the data inside a table decide about its value, also where it has none. -/
theorem ofTable_congr (hsame : ∀ d, Inside t (formOf h t) d → value d = value' d) :
    ofTable value h t = ofTable value' h t := by
  obtain ⟨scalar, -, hread⟩ := exists_read h t
  rw [hread, hread]
  cases hform : formOf h t with
  | scalar => rfl
  | array =>
    rw [hform] at hsame
    have hitems : (List.range t.border).mapM (fun (i : ℕ) => value (t.getInt ((i + 1 : ℕ) : ℤ))) =
        (List.range t.border).mapM fun (i : ℕ) => value' (t.getInt ((i + 1 : ℕ) : ℤ)) :=
      mapM_congr _ _ _ fun i hi => hsame _ (.item (List.mem_range.mp hi))
    exact congrArg (fun items => do return Value.array (← items)) hitems
  | reference =>
    rw [hform] at hsame
    rw [readForm, readForm, reference, reference, hsame _ .id]
  | document order =>
    rw [hform] at hsame
    exact document_congr fun name d hfield => hsame d (.field hfield)

/-- A table that has a value has it from values of all data inside. -/
theorem ofTable_eq_ok {v : Value} (hvalue : ofTable value h t = .ok v) :
    Assembled value v ∧ ∀ d, Inside t (formOf h t) d → ∃ w, value d = .ok w := by
  obtain ⟨scalar, hplain, hread⟩ := exists_read h t
  rw [hread] at hvalue
  cases hform : formOf h t with
  | scalar =>
    rw [hform] at hvalue
    exact ⟨.scalar (hplain v hvalue), nofun⟩
  | array =>
    rw [hform] at hvalue
    obtain ⟨items, rfl, hitems⟩ := sequence_eq_ok hvalue
    refine ⟨.array fun w hw => ?_, fun d hd => ?_⟩
    · obtain ⟨i, -, hi⟩ := exists_of_forall₂ hitems w hw
      exact ⟨_, hi⟩
    · cases hd with
      | @item i hi =>
        obtain ⟨w, -, hw⟩ := exists_of_forall₂ hitems.flip i (List.mem_range.mpr hi)
        exact ⟨w, hw⟩
  | reference =>
    rw [hform] at hvalue
    obtain ⟨database, collection, id, rfl, hid⟩ := reference_eq_ok hvalue
    refine ⟨.reference database collection ⟨_, hid⟩, fun d hd => ?_⟩
    cases hd with
    | id => exact ⟨id, hid⟩
  | document order =>
    rw [hform] at hvalue
    obtain ⟨doc, rfl, hdoc⟩ := readAs_document hvalue
    refine ⟨.document hdoc.nodup fun entry hentry => ?_, fun d hd => ?_⟩
    · obtain ⟨d, -, hd⟩ := hdoc.mem entry hentry
      exact ⟨d, hd⟩
    · cases hd with
      | field hfield => exact hdoc.converted _ d hfield

/-- The four ways in which a table has a value. -/
theorem ofTable_cases {v : Value} (hvalue : ofTable value h t = .ok v) :
    v.IsScalar ∨ sequence value t t.border = .ok v ∨ reference value t = .ok v ∨
      ∃ order, document value t order = .ok v := by
  obtain ⟨scalar, hplain, hread⟩ := exists_read h t
  rw [hread] at hvalue
  cases hform : formOf h t with
  | scalar =>
    rw [hform] at hvalue
    exact .inl (hplain v hvalue)
  | array =>
    rw [hform] at hvalue
    exact .inr (.inl hvalue)
  | reference =>
    rw [hform] at hvalue
    exact .inr (.inr (.inl hvalue))
  | document order =>
    rw [hform] at hvalue
    exact .inr (.inr (.inr ⟨order, hvalue⟩))

/-- A document comes from a table that is read as one. -/
theorem document_of_ofTable {doc : Document} (hvalue : ofTable value h t = .ok (.document doc)) :
    ∃ order, ReadAs value t order doc := by
  rcases ofTable_cases hvalue with hscalar | hsequence | hreference | ⟨order, hdocument⟩
  · exact hscalar.elim
  · obtain ⟨items, hitems, -⟩ := sequence_eq_ok hsequence
    cases hitems
  · obtain ⟨database, collection, id, hid, -⟩ := reference_eq_ok hreference
    cases hid
  · obtain ⟨doc', hdoc, hread⟩ := readAs_document hdocument
    obtain rfl := Value.document.inj hdoc
    exact ⟨order, hread⟩

end Docbase.Script.Materialize
