import Docbase.Proofs.Script.Assignment
import Docbase.Proofs.Script.Construction
import Docbase.Proofs.Value.Key

/-!
What literals evaluate to. Wherever the globals are those of a fresh scope, the literal of a
value gives a datum that means the value.
-/
namespace Docbase

/-! Doubles by sign and magnitude. -/

namespace Binary64

theorem magnitude_lt (x : Binary64) : x.magnitude < 2 ^ 63 := by
  rw [magnitude, pow2_eq]
  exact Nat.mod_lt _ (by decide)

/-- A double is its sign and its magnitude. -/
theorem ofMagnitude_eta (x : Binary64) : ofMagnitude x.isNegative x.magnitude = x :=
  eq_of_magnitude _ _ (magnitude_ofMagnitude _ _ x.magnitude_lt)
    (isNegative_ofMagnitude _ _ x.magnitude_lt)

theorem negate_ofMagnitude {magnitude : ℕ} (h : magnitude < 2 ^ 63) :
    (ofMagnitude false magnitude).negate = ofMagnitude true magnitude := by
  rw [negate, isNegative_ofMagnitude _ _ h, magnitude_ofMagnitude _ _ h]
  rfl

end Binary64

namespace Script

/-- What a literal sees: the globals, and no variable. -/
def Literal.sight : Sight := ⟨[(Env.globalsName, .table Heap.globals)], globals.map Prod.fst⟩

section Numbers

variable {call : Dispatch} {env : Env} {h : Heap}

/-- A number, of which the sign comes after it if it is negative. -/
theorem evaluate_signed (negative : Bool) (n : Number) :
    (Literal.signedExpr negative n).evaluate call env h =
      .ok [.ofNumber (if negative then n.negate else n)] h := by
  have hconstant : (Parser.constant n).evaluate call env h = .ok [.ofNumber n] h := by
    cases n <;> rfl
  cases negative with
  | false => exact hconstant
  | true =>
    have hnegate : env.operate call 1
        (fun call => Operation.unary call .negate (Datum.ofNumber n)) h =
          .ok (Datum.ofNumber n.negate) h := by cases n <;> rfl
    exact (Run.bind_ok hconstant).trans (Run.bind_ok hnegate)

theorem evaluate_int (k : ℤ) :
    (Literal.intExpr k).evaluate call env h = .ok [.int (Int64.ofInt k)] h := by
  rw [Literal.intExpr, evaluate_signed]
  by_cases hk : k < 0
  · rw [decide_eq_true hk, if_pos rfl]
    change EStateM.Result.ok [Datum.int (-Int64.ofInt k.natAbs)] h = _
    rw [← Int64.ofInt_neg, show -(k.natAbs : ℤ) = k by omega]
  · rw [decide_eq_false hk, if_neg (by simp), show (k.natAbs : ℤ) = k by omega]
    rfl

theorem evaluate_integer (hs : env.Sees Literal.sight h) (n : Int64) :
    (Literal.integerExpr n).evaluate call env h = .ok [.int n] h := by
  unfold Literal.integerExpr
  split_ifs with hmin
  · rw [hmin]
    exact evaluate_field _ hs 1 1 (x := "math") (p := 4) (by decide) (by decide) (by decide)
  · rw [evaluate_int, Int64.ofInt_toInt]

theorem evaluate_double (hs : env.Sees Literal.sight h) (x : Binary64) :
    (Literal.doubleExpr x).evaluate call env h =
      .ok [.double (if x.isNaN then .invalid else x)] h := by
  have hhuge : (Literal.mathExpr "huge").evaluate call env h = .ok [.double .infinity] h :=
    evaluate_field _ hs 1 1 (x := "math") (p := 4) (by decide) (by decide) (by decide)
  have heta := x.ofMagnitude_eta
  unfold Literal.doubleExpr
  split_ifs with hnan hinfinite hnegative
  · rfl
  · have hvalue : x = Binary64.infinity.negate := by
      rw [beq_iff_eq.mp hinfinite, hnegative] at heta
      rw [Binary64.infinity, Binary64.negate_ofMagnitude (by decide), heta]
    rw [hvalue]
    have hnegate : env.operate call 1
        (fun call => Operation.unary call .negate (.double .infinity)) h =
          .ok (.double Binary64.infinity.negate) h := rfl
    have hunary : (Expr.unary 1 .negate (Literal.mathExpr "huge")).evaluate call env h =
        .ok [.double Binary64.infinity.negate] h :=
      (Run.bind_ok hhuge).trans (Run.bind_ok hnegate)
    exact Run.bind_ok hunary
  · have hvalue : x = .infinity := by
      rw [beq_iff_eq.mp hinfinite, Bool.eq_false_iff.mpr hnegative] at heta
      exact heta.symm
    rw [hvalue]
    exact hhuge
  · rw [evaluate_signed]
    cases hnegative : x.isNegative with
    | true =>
      rw [hnegative, ← Binary64.negate_ofMagnitude x.magnitude_lt] at heta
      exact congrArg (fun x => EStateM.Result.ok [Datum.double x] h) heta
    | false =>
      rw [hnegative] at heta
      exact congrArg (fun x => EStateM.Result.ok [Datum.double x] h) heta

end Numbers

/-! Literals. -/

section Literals

variable {env : Env} {h : Heap} (depth : ℕ)

/-- A datum that is given without changes of the heap. -/
theorem gives_of_ok {call : Dispatch} {env : Env} {s : Sight} {e : Expr} {d : Datum} {R : Footing}
    (heval : ∀ h, env.Sees s h → e.evaluate call env h = .ok [d] h)
    (hd : ∀ h low high, h.Ready → R h low high d) : Gives call env s e R :=
  fun h hs => ⟨d, h, heval h hs, .refl h, hd h _ _ hs.ready⟩

/-- A call of a constructor by its name. -/
theorem gives_call {call : Dispatch} {f : String} {g : Datum} (hf : (f, g) ∈ Literal.globals)
    {args : List Expr} {v : Value}
    (hargs : ∀ h, env.Sees Literal.sight h → ∃ ds h₁,
      Expr.evaluateAll call args env h = .ok ds h₁ ∧ h.Keeps h₁ ∧
      Makes (call (env.trace 1)) g ds h₁ h.tables.size v) :
    Gives call env Literal.sight (Literal.callExpr f args) (Denotes v) := by
  intro h hs
  obtain ⟨ds, h₁, heval, hkeeps, d, h', hcall, hgrows, hd⟩ := hargs h hs
  have hname := evaluate_global call hs 1 hf (List.mem_map_of_mem hf)
  exact ⟨d, h', evaluate_call hname heval hcall, (hkeeps.grows.trans hgrows).keeps fun _ => id, hd⟩

theorem gives_scalar (henv : env.callers.hosted < Trace.hostedLimit) {v : Value}
    (hscalar : v.IsScalar)
    (hregex : ∀ r, v = .regex r → ∃ pattern options, r = Regex.ofText pattern options) :
    Gives (Call.within (depth + 2)) env Literal.sight (Literal.expr v) (Denotes v) := by
  have htrace : (env.trace 1).hosted < Trace.hostedLimit := henv
  cases v with
  | minKey =>
    exact gives_of_ok (fun h hs => evaluate_global _ hs 1 (x := "MinKey") (by decide)
      (by decide)) fun h _ _ hr => means_minKey hr.hasPrelude
  | null =>
    exact gives_of_ok (fun h hs => evaluate_global _ hs 1 (x := "null") (by decide)
      (by decide)) fun h _ _ hr => means_null hr.hasPrelude
  | maxKey =>
    exact gives_of_ok (fun h hs => evaluate_global _ hs 1 (x := "MaxKey") (by decide)
      (by decide)) fun h _ _ hr => means_maxKey hr.hasPrelude
  | int32 n => exact gives_of_ok (fun h _ => evaluate_int n.toInt) fun _ _ _ _ => means_int32 n
  | int64 n => exact gives_of_ok (fun h hs => evaluate_integer hs n) fun _ _ _ _ => means_int n
  | double x => exact gives_of_ok (fun h hs => evaluate_double hs x) fun _ _ _ _ => means_double x
  | string s => exact gives_of_ok (fun _ _ => rfl) fun _ _ _ _ => means_text s
  | boolean b => exact gives_of_ok (fun _ _ => rfl) fun _ _ _ _ => means_boolean b
  | dateTime ms =>
    exact gives_call (f := "Date") (g := .closure 13) (by decide) fun h hs =>
      ⟨_, h, evaluate_integer hs ms, .refl h, makes_date hs.ready htrace depth ms⟩
  | binary subtype bytes =>
    exact gives_call (f := "BinData") (g := .closure 20) (by decide) fun h hs =>
      ⟨_, h, Run.bind_ok (evaluate_int subtype.toNat), .refl h,
        makes_binData hs.ready htrace depth subtype bytes⟩
  | objectId id =>
    exact gives_call (f := "ObjectId") (g := .closure 17) (by decide) fun h hs =>
      ⟨_, h, rfl, .refl h, makes_objectId hs.ready htrace depth id⟩
  | regex r =>
    obtain ⟨pattern, options, rfl⟩ := hregex r rfl
    exact gives_call (f := "RegExp") (g := .closure 19) (by decide) fun h hs =>
      ⟨_, h, rfl, .refl h, makes_regExp hs.ready htrace depth pattern options⟩
  | document fields => exact hscalar.elim
  | array items => exact hscalar.elim
  | reference database collection id => exact hscalar.elim

/-- The literal of a value gives a datum that means the value. -/
theorem gives_literal (env : Env) (henv : env.callers.hosted < Trace.hostedLimit) {v : Value}
    (hv : v.WellFormed) :
    Gives (Call.within (depth + 2)) env Literal.sight (Literal.expr v) (Denotes v) := by
  have htrace : (env.trace 1).hosted < Trace.hostedLimit := henv
  induction hv with
  | scalar hscalar hregex => exact gives_scalar depth henv hscalar hregex
  | @document fields hkeys hsize hfields ih =>
    have hrecord : Gives (Call.within (depth + 2)) env Literal.sight
        (.table 1 (Literal.fieldItems fields)) (IsRecord Denotes fields) := by
      rw [fieldItems_eq, List.map_map]
      exact gives_record lasts_denotes 1 Literal.expr fields hkeys ih
    have hnames : Gives (Call.within (depth + 2)) env Literal.sight
        (.table 1 (Literal.keyItems fields))
        (IsSequence (fun x _ _ _ d => d = Datum.ofText x) (fields.map Prod.fst)) := by
      have hitems : Literal.keyItems fields =
          (fields.map Prod.fst).map fun x => .positional (Literal.textExpr x) := by
        rw [keyItems_eq, List.map_map, List.map_map]
        rfl
      rw [hitems]
      exact gives_sequence (fun _ _ _ _ _ _ _ _ hd _ _ _ => hd) 1 Literal.textExpr
        (fields.map Prod.fst) fun x _ h _ => ⟨.ofText x, h, rfl, .refl h, rfl⟩
    refine gives_call (f := "Document") (g := .closure 24) (by decide) fun h hs => ?_
    obtain ⟨d, h₁, hrun, hkeeps, hd⟩ := hrecord h hs
    obtain ⟨e, h₂, hrun', hkeeps', he⟩ := hnames h₁ (hs.growsApart hkeeps.grows)
    refine ⟨[d, e], h₂, (Run.bind_ok hrun).trans (Run.bind_ok hrun'), hkeeps.trans hkeeps', ?_⟩
    have hr₁ := hs.ready.growsApart hkeeps.grows
    have hsame : h₁.Agrees h.tables.size h₁.tables.size h₂ :=
      hkeeps'.agrees hr₁.tables_le le_rfl fun _ => False.elim
    exact makes_document (hr₁.growsApart hkeeps'.grows) htrace depth hkeys hsize
      hs.ready.tables_le hkeeps'.tables_le
      (lasts_isRecord lasts_denotes fields hd le_rfl le_rfl hsame) he
  | @array items hsize hitems ih =>
    have hsequence : Gives (Call.within (depth + 2)) env Literal.sight
        (.table 1 (Literal.elementItems items)) (IsSequence Denotes items) := by
      rw [elementItems_eq, List.map_map]
      exact gives_sequence lasts_denotes 1 Literal.expr items ih
    refine gives_call (f := "Array") (g := .table 20) (by decide) fun h hs => ?_
    obtain ⟨d, h₁, hrun, hkeeps, hd⟩ := hsequence h hs
    exact ⟨[d], h₁, hrun, hkeeps, makes_array (hs.ready.growsApart hkeeps.grows) htrace depth hsize
      hs.ready.tables_le hd⟩
  | @reference id database collection hid ih =>
    refine gives_call (f := "DBRef") (g := .closure 21) (by decide) fun h hs => ?_
    obtain ⟨d, h₁, hrun, hkeeps, hd⟩ := ih h hs
    refine ⟨_, h₁, ?_, hkeeps, makes_reference (hs.ready.growsApart hkeeps.grows) htrace depth
      database collection hd hkeeps.tables_le⟩
    cases database with
    | none => exact (Run.bind_ok (a := [Datum.ofText collection]) rfl).trans (Run.bind_ok hrun)
    | some name =>
      have hrest : Expr.evaluateAll (Call.within (depth + 2))
          [Literal.expr id, Literal.textExpr name] env h = .ok [d, .ofText name] h₁ :=
        Run.bind_ok hrun
      exact (Run.bind_ok (a := [Datum.ofText collection]) rfl).trans (Run.bind_ok hrest)

end Literals

end Script

end Docbase
