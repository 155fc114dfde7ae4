import Docbase.Proofs.Value.Writing

/-!
A document under changes. Writing a key, putting it first and taking it out each keep every key
at most once, and each says of every key what it holds afterwards and where it stands; so after
any changes a key holds what it was last given, and the keys stand in the order that the changes
have given them.
-/
namespace Docbase.Document

/-- A change of a document. -/
inductive Edit where
  | insert (key : String) (value : Value)
  | insertFirst (key : String) (value : Value)
  | remove (key : String)

namespace Edit

def key : Edit → String
  | insert key _ | insertFirst key _ | remove key => key

/-- What the key holds afterwards. -/
def written : Edit → Option Value
  | insert _ value | insertFirst _ value => some value
  | remove _ => none

/-- What a change gives back, and the document after it. -/
def perform (d : Document) : Edit → Option Value × Document
  | insert key value => replace d key value
  | insertFirst key value => (none, Document.insertFirst d key value)
  | remove key => Document.remove d key

/-- What a change gives back where its key held something. Putting a key first tells nothing. -/
def answer (held : Option Value) : Edit → Option Value
  | insert .. | remove _ => held
  | insertFirst .. => none

/-- The order of the keys afterwards: a key that is written stays where it is or comes last, and
a key that is put first or taken out leaves the others in their order. -/
def reorder (keys : List String) : Edit → List String
  | insert key _ => if key ∈ keys then keys else keys ++ [key]
  | insertFirst key _ => key :: keys.filter (· != key)
  | remove key => keys.filter (· != key)

end Edit

/-- What is left of an empty document after changes. -/
def after (edits : List Edit) : Document := edits.foldl (fun d edit => (edit.perform d).2) empty

/-- What the last change that names a key has written. -/
def lastWritten (edits : List Edit) (key : String) : Option Value :=
  (edits.filter fun edit => edit.key == key).getLast?.bind Edit.written

variable {d : Document}

/-! Single changes. -/

theorem get?_filter (d : Document) (key name : String) :
    get? (d.filter fun entry => entry.1 != key) name =
      if name = key then none else get? d name := by
  induction d with
  | nil => simp [get?]
  | cons entry rest ih =>
    obtain ⟨k, v⟩ := entry
    by_cases hk : k = key
    · subst hk
      rw [List.filter_cons_of_neg (by simp), ih, get?]
      by_cases hname : name = k
      · rw [if_pos hname, if_pos hname]
      · rw [if_neg hname, if_neg hname, if_neg (Ne.symm hname)]
    · rw [List.filter_cons_of_pos (by simpa using hk), get?, ih, get?]
      by_cases hname : k = name
      · subst hname
        rw [if_pos rfl, if_pos rfl, if_neg hk]
      · rw [if_neg hname, if_neg hname]

theorem keys_filter (d : Document) (key : String) :
    keys (d.filter fun entry => entry.1 != key) = (keys d).filter (· != key) := by
  rw [keys, keys, List.filter_map]
  rfl

theorem replace_eq (d : Document) (key : String) (v : Value) :
    replace d key v = (get? d key, insert d key v) := by
  induction d with
  | nil => rfl
  | cons entry rest ih =>
    obtain ⟨k, w⟩ := entry
    rw [replace, get?, insert]
    split_ifs
    · rfl
    · rw [ih]

theorem get?_insert (d : Document) (key name : String) (v : Value) :
    get? (insert d key v) name = if name = key then some v else get? d name := by
  induction d with
  | nil =>
    change (if key = name then some v else none) = if name = key then some v else none
    rw [if_congr eq_comm rfl rfl]
  | cons entry rest ih =>
    obtain ⟨k, w⟩ := entry
    rw [insert]
    by_cases hk : k = key
    · subst hk
      rw [if_pos rfl, get?, get?]
      by_cases hname : k = name
      · rw [if_pos hname, if_pos hname.symm]
      · rw [if_neg hname, if_neg (Ne.symm hname), if_neg hname]
    · rw [if_neg hk, get?, get?, ih]
      by_cases hname : k = name
      · subst hname
        rw [if_pos rfl, if_neg hk, if_pos rfl]
      · rw [if_neg hname, if_neg hname]

/-- Where every key is there once, to take out the first entry is to take out all. -/
theorem remove_eq (hd : (keys d).Nodup) (key : String) :
    remove d key = (get? d key, d.filter fun entry => entry.1 != key) := by
  induction d with
  | nil => rfl
  | cons entry rest ih =>
    obtain ⟨k, w⟩ := entry
    rw [keys, List.map_cons, List.nodup_cons] at hd
    rw [remove, get?]
    by_cases hk : k = key
    · subst hk
      have hrest : rest.filter (fun entry => entry.1 != k) = rest := by
        refine List.filter_eq_self.mpr fun entry hentry => bne_iff_ne.mpr fun heq => hd.1 ?_
        exact List.mem_map.mpr ⟨entry, hentry, heq⟩
      rw [if_pos rfl, if_pos rfl, List.filter_cons_of_neg (by simp), hrest]
    · rw [if_neg hk, if_neg hk, List.filter_cons_of_pos (by simpa using hk), ih hd.2]

theorem nodup_filter (hd : (keys d).Nodup) (key : String) :
    (keys (d.filter fun entry => entry.1 != key)).Nodup := by
  rw [keys_filter]
  exact hd.filter _

/-- What one change does to a document that has every key at most once. -/
structure Edit.Performed (edit : Edit) (d : Document) : Prop where
  nodup : (keys (edit.perform d).2).Nodup
  answer : (edit.perform d).1 = edit.answer (get? d edit.key)
  get? : ∀ name, get? (edit.perform d).2 name =
    if name = edit.key then edit.written else get? d name
  keys : keys (edit.perform d).2 = edit.reorder (keys d)

theorem Edit.performed (hd : (Document.keys d).Nodup) (edit : Edit) : edit.Performed d := by
  cases edit with
  | insert key v =>
    have hperform : (Edit.insert key v).perform d =
        (Document.get? d key, Document.insert d key v) := replace_eq d key v
    refine ⟨?_, ?_, fun name => ?_, ?_⟩
    · rw [hperform]
      exact nodup_insert hd key v
    · rw [hperform]
      rfl
    · rw [hperform]
      exact get?_insert d key name v
    · rw [hperform]
      exact keys_insert d key v
  | insertFirst key v =>
    refine ⟨?_, rfl, fun name => ?_, ?_⟩
    · refine List.nodup_cons.mpr ⟨?_, nodup_filter hd key⟩
      have hkeys := keys_filter d key
      rw [Document.keys] at hkeys
      rw [hkeys, List.mem_filter]
      simp
    · change (if key = name then some v else
        Document.get? (d.filter fun entry => entry.1 != key) name) = _
      rw [get?_filter]
      by_cases hname : name = key
      · rw [if_pos hname.symm]
        exact (if_pos hname).symm
      · rw [if_neg (Ne.symm hname), if_neg hname]
        exact (if_neg hname).symm
    · exact congrArg (key :: ·) (keys_filter d key)
  | remove key =>
    have hperform : (Edit.remove key).perform d =
        (Document.get? d key, d.filter fun entry => entry.1 != key) := remove_eq hd key
    refine ⟨?_, ?_, fun name => ?_, ?_⟩
    · rw [hperform]
      exact nodup_filter hd key
    · rw [hperform]
      rfl
    · rw [hperform]
      exact get?_filter d key name
    · rw [hperform]
      exact keys_filter d key

/-! Sequences of changes. -/

theorem after_append (edits : List Edit) (edit : Edit) :
    after (edits ++ [edit]) = (edit.perform (after edits)).2 := by
  rw [after, List.foldl_append]
  rfl

theorem lastWritten_append (edits : List Edit) (edit : Edit) (key : String) :
    lastWritten (edits ++ [edit]) key =
      if key = edit.key then edit.written else lastWritten edits key := by
  rw [lastWritten, lastWritten, List.filter_append, List.filter_singleton]
  by_cases hkey : key = edit.key
  · simp [hkey]
  · have hother : (edit.key == key) = false := beq_false_of_ne (Ne.symm hkey)
    rw [if_neg hkey, hother, cond_false, List.append_nil]

/-- Every key is there once and holds what it was last given. -/
theorem after_spec (edits : List Edit) :
    (keys (after edits)).Nodup ∧ ∀ key, get? (after edits) key = lastWritten edits key := by
  induction edits using List.reverseRecOn with
  | nil => exact ⟨List.nodup_nil, fun _ => rfl⟩
  | append_singleton edits edit ih =>
    have hperformed := edit.performed ih.1
    rw [after_append]
    refine ⟨hperformed.nodup, fun key => ?_⟩
    rw [hperformed.get?, lastWritten_append, ih.2]

/-- After any changes a document is a map with ordered keys: every key is there once and holds
what it was last given, unless it was taken out since; and the next change gives back what its
key held, changes no other key, and orders the keys by its rule. -/
theorem edits_keep_map (edits : List Edit) :
    (keys (after edits)).Nodup ∧ (∀ key, get? (after edits) key = lastWritten edits key) ∧
      ∀ edit : Edit,
        (edit.perform (after edits)).1 = edit.answer (get? (after edits) edit.key) ∧
        (∀ key, get? (after (edits ++ [edit])) key =
          if key = edit.key then edit.written else get? (after edits) key) ∧
        keys (after (edits ++ [edit])) = edit.reorder (keys (after edits)) := by
  obtain ⟨hnodup, hlast⟩ := after_spec edits
  refine ⟨hnodup, hlast, fun edit => ?_⟩
  have hperformed := edit.performed hnodup
  rw [after_append]
  exact ⟨hperformed.answer, hperformed.get?, hperformed.keys⟩

/-- A key that is put first again holds its new value, and one that is taken out and written
again comes last. -/
example (v w : Value) :
    after [.insert "a" v, .insert "b" v, .insertFirst "b" w, .remove "b", .insert "b" v] =
      [("a", v), ("b", v)] := rfl

end Docbase.Document
