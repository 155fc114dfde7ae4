import Docbase.Proofs.Script.Heap
import Docbase.Script.Assigned

/-!
Guarded variables. A guard names cells that no function writes to but a few, which it names as
well with their bodies. While it holds, two computations that differ in how they make calls come
to the same end if the calls do, and it goes on to hold. The rules below follow how computations
are put together.
-/
namespace Docbase.Script

structure Guard where
  /-- The guarded cells, some with the value that they keep. -/
  cells : List (ℕ × Option Datum)
  /-- The functions that may write to them, by their places. -/
  functions : List (ℕ × Closure)

namespace Guard

variable (G : Guard)

def Watches (c : ℕ) : Prop := ∃ v, (c, v) ∈ G.cells

/-- Whether code may run with variables: their cells are there, and the guarded ones among them
have names that the code does not assign to. -/
def Admits (n : ℕ) (vars : List (String × ℕ)) (assigns : String → Bool) : Prop :=
  ∀ v ∈ vars, v.2 < n ∧ (G.Watches v.2 → assigns v.1 = false)

/-- Whether variables are more than others by unguarded ones only. -/
def Extends (n : ℕ) (vars more : List (String × ℕ)) : Prop :=
  ∀ v ∈ more, v ∈ vars ∨ v.2 < n ∧ ¬G.Watches v.2

structure Holds (h : Heap) : Prop where
  cell : ∀ c ∈ G.cells, c.1 < h.cells.size ∧ ∀ d ∈ c.2, h.cell c.1 = d
  function : ∀ f ∈ G.functions, f.1 < h.closures.size ∧ h.closure f.1 = f.2 ∧
    ∀ v ∈ f.2.captured, v.2 < h.cells.size
  closure : ∀ place, (∀ f ∈ G.functions, f.1 ≠ place) →
    G.Admits h.cells.size (h.closure place).captured
      fun x => Block.assigns x (h.closure place).body

/-- What the end of a computation says: the guard holds, no cell has gone, and a result is as it
should be among so many cells. -/
def Keeps {α : Type} (h : Heap) (Q : α → ℕ → Prop) : EStateM.Result Fault Heap α → Prop
  | .ok a h' => G.Holds h' ∧ h.cells.size ≤ h'.cells.size ∧ Q a h'.cells.size
  | .error _ h' => G.Holds h' ∧ h.cells.size ≤ h'.cells.size

/-- Two computations come to the same end where the guard holds and there are `n` cells, and the
guard holds then. -/
def Goes {α : Type} (n : ℕ) (x y : Run α) (Q : α → ℕ → Prop) : Prop :=
  ∀ h, G.Holds h → n ≤ h.cells.size → x h = y h ∧ G.Keeps h Q (y h)

/-- They do so, with whatever result. -/
abbrev Same {α : Type} (n : ℕ) (x y : Run α) : Prop := G.Goes n x y fun _ _ => True

/-- Two ways of calling functions come to the same ends. -/
def Alike (call call' : Callee) : Prop := ∀ f args, G.Same 0 (call f args) (call' f args)

def Agree (call call' : Dispatch) : Prop := ∀ trace, G.Alike (call trace) (call' trace)

end Guard

/-! Variables. -/

section Admits

variable {G : Guard} {n m : ℕ} {vars more further : List (String × ℕ)} {f g : String → Bool}

theorem Guard.Admits.imp (ha : G.Admits n vars f) (hfg : ∀ x, f x = false → g x = false) :
    G.Admits n vars g :=
  fun v hv => ⟨(ha v hv).1, fun hw => hfg v.1 ((ha v hv).2 hw)⟩

theorem Guard.Admits.mono (ha : G.Admits n vars f) (hnm : n ≤ m) :
    G.Admits m vars f :=
  fun v hv => ⟨(ha v hv).1.trans_le hnm, (ha v hv).2⟩

theorem Guard.Admits.left (ha : G.Admits n vars fun x => f x || g x) : G.Admits n vars f :=
  ha.imp fun _ hx => (Bool.or_eq_false_iff.mp hx).1

theorem Guard.Admits.right (ha : G.Admits n vars fun x => f x || g x) : G.Admits n vars g :=
  ha.imp fun _ hx => (Bool.or_eq_false_iff.mp hx).2

theorem Guard.Extends.refl (G : Guard) (n : ℕ) (vars : List (String × ℕ)) :
    G.Extends n vars vars :=
  fun _ hv => .inl hv

theorem Guard.Extends.mono (he : G.Extends n vars more) (hnm : n ≤ m) : G.Extends m vars more :=
  fun v hv => (he v hv).imp_right fun hnew => ⟨hnew.1.trans_le hnm, hnew.2⟩

theorem Guard.Extends.trans (hab : G.Extends n vars more) (hnm : n ≤ m)
    (hbc : G.Extends m more further) : G.Extends m vars further := by
  intro v hv
  rcases hbc v hv with hv | hv
  · exact hab.mono hnm v hv
  · exact .inr hv

theorem Guard.Extends.cons {x : String} {c : ℕ} (hc : c < n) (hw : ¬G.Watches c)
    (vars : List (String × ℕ)) : G.Extends n vars ((x, c) :: vars) := by
  intro v hv
  rcases List.mem_cons.mp hv with rfl | hv
  exacts [.inr ⟨hc, hw⟩, .inl hv]

theorem Guard.Admits.extend (ha : G.Admits n vars f) (hnm : n ≤ m) (he : G.Extends m vars more) :
    G.Admits m more f := by
  intro v hv
  rcases he v hv with hv | hv
  · exact ha.mono hnm v hv
  · exact ⟨hv.1, fun hw => absurd hw hv.2⟩

end Admits

namespace Guard

section Rules

variable {G : Guard} {n m : ℕ} {α β σ : Type} {x y : Run α} {f g : α → Run β}
  {Q : α → ℕ → Prop} {R : β → ℕ → Prop}

/-- The guard rests on cells and functions only. -/
theorem Holds.of_eq {h h' : Heap} (hh : G.Holds h) (hcells : h'.cells = h.cells)
    (hclosures : h'.closures = h.closures) : G.Holds h' := by
  obtain ⟨tables', cells', closures', threads'⟩ := h'
  obtain rfl : cells' = h.cells := hcells
  obtain rfl : closures' = h.closures := hclosures
  exact ⟨hh.cell, hh.function, hh.closure⟩

theorem Holds.not_watches {h : Heap} (hh : G.Holds h) {c : ℕ} (hc : h.cells.size ≤ c) :
    ¬G.Watches c :=
  fun ⟨_, hv⟩ => (hh.cell _ hv).1.not_ge hc

/-- A guard of fewer cells holds as well. -/
theorem Holds.of_cons {c : ℕ × Option Datum} {h : Heap}
    (hh : Holds ⟨c :: G.cells, G.functions⟩ h) : G.Holds h where
  cell w hw := hh.cell w (List.mem_cons_of_mem c hw)
  function := hh.function
  closure place hplace v hv :=
    ⟨(hh.closure place hplace v hv).1, fun ⟨kept, hw⟩ =>
      (hh.closure place hplace v hv).2 ⟨kept, List.mem_cons_of_mem c hw⟩⟩

/-- What a computation leaves that came to a result. -/
theorem Goes.ok {h h' : Heap} {a : α} (hxy : G.Goes n x y Q) (hh : G.Holds h)
    (hn : n ≤ h.cells.size) (hy : y h = .ok a h') :
    G.Holds h' ∧ h.cells.size ≤ h'.cells.size ∧ Q a h'.cells.size := by
  have hkeep := (hxy h hh hn).2
  rwa [hy] at hkeep

theorem Goes.mono (hxy : G.Goes n x y Q) (hnm : n ≤ m) : G.Goes m x y Q :=
  fun h hh hm => hxy h hh (hnm.trans hm)

theorem Goes.imp {Q' : α → ℕ → Prop} (hxy : G.Goes n x y Q)
    (himp : ∀ a m, n ≤ m → Q a m → Q' a m) : G.Goes n x y Q' := by
  intro h hh hn
  obtain ⟨heq, hkeep⟩ := hxy h hh hn
  refine ⟨heq, ?_⟩
  cases hy : y h with
  | error fault h' => rwa [hy] at hkeep
  | ok a h' =>
    rw [hy] at hkeep
    exact ⟨hkeep.1, hkeep.2.1, himp a _ (hn.trans hkeep.2.1) hkeep.2.2⟩

theorem Goes.result {a : α} (ha : ∀ m, n ≤ m → Q a m) : G.Goes n (pure a) (pure a) Q :=
  fun _ hh hn => ⟨rfl, hh, le_rfl, ha _ hn⟩

theorem Goes.pure (a : α) : G.Same n (Pure.pure a) (Pure.pure a) := .result fun _ _ => trivial

theorem Goes.andThen (hxy : G.Goes n x y Q)
    (hfg : ∀ a m, n ≤ m → Q a m → G.Goes m (f a) (g a) R) :
    G.Goes n (x >>= f) (y >>= g) R := by
  intro h hh hn
  obtain ⟨heq, hkeep⟩ := hxy h hh hn
  cases hy : y h with
  | error fault h' =>
    rw [hy] at heq hkeep
    rw [Run.bind_error heq, Run.bind_error hy]
    exact ⟨rfl, hkeep⟩
  | ok a h' =>
    rw [hy] at heq hkeep
    rw [Run.bind_ok heq, Run.bind_ok hy]
    obtain ⟨hh', hle, ha⟩ := hkeep
    obtain ⟨heq', hkeep'⟩ := hfg a _ (hn.trans hle) ha h' hh' le_rfl
    refine ⟨heq', ?_⟩
    cases hg : g a h' with
    | error fault h'' =>
      rw [hg] at hkeep'
      exact ⟨hkeep'.1, hle.trans hkeep'.2⟩
    | ok b h'' =>
      rw [hg] at hkeep'
      exact ⟨hkeep'.1, hle.trans hkeep'.2.1, hkeep'.2.2⟩

/-- What follows does not rest on the result. -/
theorem Goes.bind (hxy : G.Same n x y) (hfg : ∀ a, G.Goes n (f a) (g a) R) :
    G.Goes n (x >>= f) (y >>= g) R :=
  Goes.andThen hxy fun a _ hnm _ => (hfg a).mono hnm

theorem Goes.raise (d : Datum) : G.Goes n (Run.raise d) (Run.raise d) Q :=
  fun _ hh _ => ⟨rfl, hh, le_rfl⟩

theorem Goes.fail (message : String) : G.Goes n (Run.fail message) (Run.fail message) Q :=
  fun _ hh _ => ⟨rfl, hh, le_rfl⟩

/-- What would follow a failure makes no difference. -/
theorem Goes.raise_bind (d : Datum) : G.Goes n (Run.raise d >>= f) (Run.raise d >>= g) R :=
  fun _ hh _ => ⟨rfl, hh, le_rfl⟩

theorem Goes.fail_bind (message : String) :
    G.Goes n (Run.fail message >>= f) (Run.fail message >>= g) R :=
  fun _ hh _ => ⟨rfl, hh, le_rfl⟩

theorem Goes.placed (frame : Frame) (hxy : G.Goes n x y Q) :
    G.Goes n (Run.placed frame x) (Run.placed frame y) Q := by
  intro h hh hn
  obtain ⟨heq, hkeep⟩ := hxy h hh hn
  rw [Run.placed, Run.placed, heq]
  refine ⟨rfl, ?_⟩
  cases hy : y h with
  | ok a h' => rwa [hy] at hkeep
  | error fault h' =>
    rw [hy] at hkeep
    cases fault <;> exact hkeep

/-- A step that is made on a condition, and what follows it. -/
theorem Goes.when {u v : Run σ} {x y : Run β} (c : Prop) [Decidable c] (huv : G.Same n u v)
    (hxy : G.Goes n x y R) :
    G.Goes n (if c then u >>= fun _ => x else x) (if c then v >>= fun _ => y else y) R := by
  split
  · exact .bind huv fun _ => hxy
  · exact hxy

theorem Goes.attempt (hxy : G.Same n x y) : G.Same n (Run.attempt x) (Run.attempt y) := by
  intro h hh hn
  obtain ⟨heq, hkeep⟩ := hxy h hh hn
  rw [Run.attempt, Run.attempt, heq]
  refine ⟨rfl, ?_⟩
  cases hy : y h with
  | ok a h' => rwa [hy] at hkeep
  | error fault h' =>
    rw [hy] at hkeep
    exact ⟨hkeep.1, hkeep.2, trivial⟩

theorem Goes.iterate {step step' : σ → Run (σ ⊕ α)}
    (hstep : ∀ s, G.Same n (step s) (step' s)) (turns : ℕ) (s : σ) :
    G.Same n (Script.iterate step turns s) (Script.iterate step' turns s) := by
  induction turns generalizing s with
  | zero => exact .fail _
  | succ turns ih =>
    refine .bind (hstep s) fun
      | .inl s => ih s
      | .inr a => .pure a

theorem Goes.mapM {f g : σ → Run α} (hfg : ∀ s, G.Same n (f s) (g s)) (l : List σ) :
    G.Same n (l.mapM f) (l.mapM g) := by
  induction l with
  | nil => exact .pure _
  | cons s l ih =>
    rw [List.mapM_cons, List.mapM_cons]
    exact .bind (hfg s) fun _ => .bind ih fun _ => .pure _

theorem Goes.forIn {f g : σ → α → Run (ForInStep α)}
    (hfg : ∀ s a, G.Same n (f s a) (g s a)) (l : List σ) (a : α) :
    G.Same n (ForIn.forIn l a f) (ForIn.forIn l a g) := by
  induction l generalizing a with
  | nil => exact .pure _
  | cons s l ih =>
    rw [List.forIn_cons, List.forIn_cons]
    refine .bind (hfg s a) fun
      | .done a => .pure a
      | .yield a => ih a

end Rules

/-! Single steps. -/

section Steps

variable {G : Guard} {n : ℕ} {α : Type} {x : Run α}

/-- Cells and functions stay as they are. -/
theorem Goes.of_eq (hx : ∀ h, ∃ a h', x h = .ok a h' ∧ h'.cells = h.cells ∧
    h'.closures = h.closures) : G.Same n x x := by
  intro h hh hn
  obtain ⟨a, h', heq, hcells, hclosures⟩ := hx h
  rw [heq]
  exact ⟨rfl, hh.of_eq hcells hclosures, (congrArg Array.size hcells).ge, trivial⟩

theorem Goes.readTable (place : ℕ) : G.Same n (Run.readTable place) (Run.readTable place) :=
  .of_eq fun _ => ⟨_, _, rfl, rfl, rfl⟩

theorem Goes.modifyTable (place : ℕ) (f : Table → Table) :
    G.Same n (Run.modifyTable place f) (Run.modifyTable place f) :=
  .of_eq fun _ => ⟨_, _, rfl, rfl, rfl⟩

theorem Goes.allocate (t : Table) : G.Same n (Run.allocate t) (Run.allocate t) :=
  .of_eq fun _ => ⟨_, _, rfl, rfl, rfl⟩

theorem Goes.newTable (t : Table) : G.Same n (Run.newTable t) (Run.newTable t) :=
  .bind (.allocate t) fun _ => .pure _

theorem Goes.newThread : G.Same n Run.newThread Run.newThread :=
  .of_eq fun _ => ⟨_, _, rfl, rfl, rfl⟩

theorem Goes.readCell (c : ℕ) : G.Same n (Run.readCell c) (Run.readCell c) :=
  .of_eq fun _ => ⟨_, _, rfl, rfl, rfl⟩

theorem Goes.rawGet (place : ℕ) (key : Datum) :
    G.Same n (Run.rawGet place key) (Run.rawGet place key) := by
  refine .of_eq fun h => ?_
  rw [Run.rawGet]
  split <;> exact ⟨_, _, rfl, rfl, rfl⟩

theorem Goes.findBorder (place : ℕ) : G.Same n (Run.findBorder place) (Run.findBorder place) :=
  .of_eq fun _ => ⟨_, _, rfl, rfl, rfl⟩

theorem Goes.rawSet (place : ℕ) (key value : Datum) :
    G.Same n (Run.rawSet place key value) (Run.rawSet place key value) := by
  unfold Run.rawSet
  split
  · exact .fail _
  split
  · exact .fail _
  · exact .modifyTable _ _

/-- A cell that keeps no value may be written to. -/
theorem Goes.writeCell {c : ℕ} (hc : ∀ v, (c, some v) ∉ G.cells) (d : Datum) :
    G.Same n (Run.writeCell c d) (Run.writeCell c d) := by
  intro h hh hn
  have hsize : (h.cells.setIfInBounds c d).size = h.cells.size := Array.size_setIfInBounds
  refine ⟨rfl, ⟨fun w hw => ?_, fun f hf => ?_, fun place hplace => ?_⟩, hsize.ge, trivial⟩
  · obtain ⟨c', kept⟩ := w
    refine ⟨(hh.cell _ hw).1.trans_eq hsize.symm, fun v (hv : kept = some v) => ?_⟩
    subst hv
    have hne : c ≠ c' := fun he => hc v (he ▸ hw)
    rw [← (hh.cell _ hw).2 v rfl]
    simp [Heap.cell, Array.getElem?_setIfInBounds_ne hne]
  · obtain ⟨hlt, heq, hcaptured⟩ := hh.function f hf
    exact ⟨hlt, heq, fun v hv => (hcaptured v hv).trans_eq hsize.symm⟩
  · exact (hh.closure place hplace).mono hsize.ge

/-- A function is one that the guard names, or may run with the variables that it sees. -/
theorem Goes.readClosure (place : ℕ) :
    G.Goes n (Run.readClosure place) (Run.readClosure place) fun c m =>
      ((place, c) ∈ G.functions ∧ ∀ v ∈ c.captured, v.2 < m) ∨
        G.Admits m c.captured fun x => Block.assigns x c.body := by
  intro h hh _
  refine ⟨rfl, hh, le_rfl, ?_⟩
  by_cases hplace : ∃ f ∈ G.functions, f.1 = place
  · obtain ⟨f, hf, rfl⟩ := hplace
    obtain ⟨-, heq, hcaptured⟩ := hh.function f hf
    have hread : h.closures.getD f.1 default = f.2 := heq
    rw [hread]
    exact .inl ⟨hf, hcaptured⟩
  · exact .inr (hh.closure place fun f hf he => hplace ⟨f, hf, he⟩)

/-- A new cell is not guarded. -/
theorem Goes.newCell (d : Datum) :
    G.Goes n (Run.newCell d) (Run.newCell d) fun c m => c < m ∧ ¬G.Watches c := by
  intro h hh hn
  have hsize : (h.cells.push d).size = h.cells.size + 1 := Array.size_push ..
  refine ⟨rfl, ⟨fun w hw => ?_, fun f hf => ?_, fun place hplace => ?_⟩, ?_, ?_,
    hh.not_watches le_rfl⟩
  · have hlt := (hh.cell w hw).1
    refine ⟨hlt.trans_le (by simp), fun v hv => ?_⟩
    rw [← (hh.cell w hw).2 v hv]
    simp [Heap.cell, Array.getElem?_push, hlt.ne]
  · obtain ⟨hlt, heq, hcaptured⟩ := hh.function f hf
    exact ⟨hlt, heq, fun v hv => (hcaptured v hv).trans_le (by simp)⟩
  · exact (hh.closure place hplace).mono (by simp)
  · simp
  · simp

/-- No function sees a new cell yet, so that it can be guarded with its value. -/
theorem Holds.newCell {h : Heap} (hh : G.Holds h) (d : Datum) :
    Holds ⟨(h.cells.size, some d) :: G.cells, G.functions⟩
      { h with cells := h.cells.push d } := by
  have hheld := (Goes.newCell (G := G) d h hh (Nat.zero_le _)).2.1
  refine ⟨fun w hw => ?_, hheld.function, fun place hplace v hv => ?_⟩
  · rcases List.mem_cons.mp hw with rfl | hw
    · refine ⟨by simp, fun v (hv : some d = some v) => ?_⟩
      cases hv
      simp [Heap.cell]
    · exact hheld.cell w hw
  · obtain ⟨hlt, hspared⟩ := hheld.closure place hplace v hv
    refine ⟨hlt, fun hwatched => ?_⟩
    obtain ⟨kept, hw⟩ := hwatched
    rcases List.mem_cons.mp hw with he | hw
    · -- what functions see was there before
      have hold := (hh.closure place hplace v hv).1
      exact absurd (congrArg Prod.fst he) hold.ne
    · exact hspared ⟨kept, hw⟩

/-- A new function may see guarded cells under names that it does not assign to. -/
theorem Goes.newClosure {c : Closure} (hc : G.Admits n c.captured fun x => Block.assigns x c.body) :
    G.Same n (Run.newClosure c) (Run.newClosure c) := by
  intro h hh hn
  have hold {place : ℕ} (hlt : place < h.closures.size) :
      (h.closures.push c).getD place default = h.closure place := by
    simp [Heap.closure, Array.getElem?_push, hlt.ne]
  refine ⟨rfl, ⟨hh.cell, fun f hf => ?_, fun place hplace => ?_⟩, le_rfl, trivial⟩
  · obtain ⟨hlt, heq, hcaptured⟩ := hh.function f hf
    exact ⟨hlt.trans_le (by simp), (hold hlt).trans heq, hcaptured⟩
  · change G.Admits h.cells.size ((h.closures.push c).getD place default).captured
      fun x => Block.assigns x ((h.closures.push c).getD place default).body
    rcases lt_trichotomy place h.closures.size with hlt | rfl | hgt
    · rw [hold hlt]
      exact hh.closure place hplace
    · simpa using hc.mono hn
    · have hnone : (h.closures.push c).getD place default = default := by
        rw [Array.getD_eq_getD_getElem?, Array.getElem?_eq_none (by simpa using hgt)]
        rfl
      rw [hnone]
      exact fun v hv => absurd hv List.not_mem_nil

/-- Further variables of a function are none of the guarded ones. -/
theorem Goes.bindAll (names : List String) (ds : List Datum) (cells more : List (String × ℕ)) :
    G.Goes n (Run.bindAll names ds cells) (Run.bindAll names ds cells)
      fun cells' m => G.Extends m (cells ++ more) (cells' ++ more) := by
  induction names generalizing ds cells n with
  | nil => exact .result fun m _ => .refl G m _
  | cons x names ih =>
    refine .andThen (.newCell _) fun c m _ hc => (ih ds.tail ((x, c) :: cells)).imp ?_
    exact fun cells' k hmk he => (Extends.cons hc.1 hc.2 _).trans hmk he

end Steps

end Guard

end Docbase.Script
