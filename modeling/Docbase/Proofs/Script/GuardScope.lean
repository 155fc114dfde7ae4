import Docbase.Proofs.Script.GuardEvaluation
import Docbase.Proofs.Script.Turns

/-!
Scopes under a guard: if turns of calls come to the same ends, then so do calls, and so do the
steps of a scope.
-/
namespace Docbase.Script

variable {G : Guard} {n : ℕ} {α β : Type} {t t' : Turn} {call call' : Callee}

/-! Calls. -/

namespace Guard

/-- Two ways for calls to go on come to the same ends at a depth. -/
def TurnsAgree (G : Guard) (t t' : Turn) (depth : ℕ) : Prop :=
  ∀ trace p, trace.hosted < Trace.hostedLimit →
    G.Same 0 (t depth (t.within depth) trace p) (t' depth (t'.within depth) trace p)

/-- They do so at each depth. -/
def Follows (G : Guard) (t t' : Turn) : Prop :=
  ∀ depth, G.Agree (t.within depth) (t'.within depth) ∧ G.TurnsAgree t t' depth

/-- A turn of a call rests on the calls that may nest less deep. -/
theorem follows_of_turns
    (hturn : ∀ depth, G.Agree (t.within depth) (t'.within depth) → G.TurnsAgree t t' depth) :
    G.Follows t t' := by
  intro depth
  induction depth with
  | zero =>
    have hagree : G.Agree (t.within 0) (t'.within 0) := fun _ _ _ => .fail _
    exact ⟨hagree, hturn 0 hagree⟩
  | succ depth ih =>
    have hagree : G.Agree (t.within (depth + 1)) (t'.within (depth + 1)) := by
      intro trace f args
      rw [Turn.within, Turn.within]
      split
      · exact .fail _
      · next hhosted =>
        exact .iterate (fun p => (ih.2 trace p (not_le.mp hhosted)).mono (Nat.zero_le _)) _ _
    exact ⟨hagree, hturn _ hagree⟩

theorem Follows.main (hfollows : G.Follows t t') (depth : ℕ) {c : Closure}
    (hc : G.Admits n c.captured fun x => Block.assigns x c.body) :
    G.Same n (t.main depth c) (t'.main depth c) := by
  cases depth with
  | zero => exact .fail _
  | succ depth =>
    refine .bind (Call.goes_enter (hfollows depth).1 .start hc []) fun result => ?_
    cases result with
    | inl p =>
      exact .iterate (fun p => ((hfollows depth).2 .start p (by decide)).mono (Nat.zero_le n)) _ _
    | inr values => exact .pure _

theorem Follows.alike (hfollows : G.Follows t t') : G.Alike t.call t'.call :=
  (hfollows callDepth).1 .start

/-- A unit sees the globals, in the shared cell only if it does not assign to them. -/
theorem Goes.mainFunction (hglobals : G.Watches Heap.globalsCell) (unit : Option String)
    (body : Block) (globals : Datum) :
    G.Goes n (Run.mainFunction unit body globals) (Run.mainFunction unit body globals)
      fun c m => G.Admits m c.captured fun x => Block.assigns x c.body := by
  have hcell : G.Goes n (Run.globalsCell body globals) (Run.globalsCell body globals)
      fun c m => c < m ∧ (G.Watches c → Block.assigns Env.globalsName body = false) := by
    unfold Run.globalsCell
    split
    · next hshared =>
      intro h hh _
      obtain ⟨v, hv⟩ := hglobals
      exact ⟨rfl, hh, le_rfl, (hh.cell _ hv).1, fun _ => by simpa using hshared.2⟩
    · exact (Goes.newCell _).imp fun c m _ hc => ⟨hc.1, fun hw => absurd hw hc.2⟩
  refine .andThen hcell fun c m _ hc => .result fun k hmk v hv => ?_
  obtain rfl := List.mem_singleton.mp hv
  exact ⟨hc.1.trans_le hmk, hc.2⟩

theorem Goes.newScript (hglobals : G.Watches Heap.globalsCell) (unit : Option String)
    (body : Block) (globals : Datum) :
    G.Same n (Run.newScript unit body globals) (Run.newScript unit body globals) :=
  .andThen (.mainFunction hglobals unit body globals) fun _ _ _ hc => .newClosure hc

theorem Follows.script (hfollows : G.Follows t t') (hglobals : G.Watches Heap.globalsCell)
    (unit : Option String) (body : Block) (globals : Datum) :
    G.Same n (t.script unit body globals) (t'.script unit body globals) :=
  .andThen (.mainFunction hglobals unit body globals) fun _ _ _ hc => hfollows.main _ hc

/-! Steps of a scope. -/

/-- Two steps come to the same end where the guard holds, and it holds then. -/
def Steps (G : Guard) (x y : ScopeM α) : Prop :=
  ∀ s, G.Holds s.heap → x s = y s ∧
    match y s with
    | .ok _ s' | .error _ s' => G.Holds s'.heap

variable {x y : ScopeM α} {f g : α → ScopeM β}

theorem Steps.pure (a : α) : G.Steps (pure a) (pure a) := fun _ hs => ⟨rfl, hs⟩

/-- What would follow a failure makes no difference. -/
theorem Steps.throw_bind (e : Failure) :
    G.Steps ((throw e : ScopeM α) >>= f) ((throw e : ScopeM α) >>= g) := fun _ hs => ⟨rfl, hs⟩

theorem Steps.throw (e : Failure) : G.Steps (throw e : ScopeM α) (throw e) := fun _ hs => ⟨rfl, hs⟩

theorem Steps.bind (hxy : G.Steps x y) (hfg : ∀ a, G.Steps (f a) (g a)) :
    G.Steps (x >>= f) (y >>= g) := by
  intro s hs
  obtain ⟨heq, hkeep⟩ := hxy s hs
  cases hy : y s with
  | error e s' =>
    rw [hy] at heq hkeep
    rw [Run.bind_error heq, Run.bind_error hy]
    exact ⟨rfl, hkeep⟩
  | ok a s' =>
    rw [hy] at heq hkeep
    rw [Run.bind_ok heq, Run.bind_ok hy]
    exact hfg a s' hkeep

theorem raisedTextBy_eq (hcall : G.Alike call call') (times : ℕ) (d : Datum) {h : Heap}
    (hh : G.Holds h) : Scope.raisedTextBy call times d h = Scope.raisedTextBy call' times d h ∧
      G.Holds (Scope.raisedTextBy call' times d h).2 := by
  induction times generalizing d h with
  | zero => exact ⟨rfl, hh⟩
  | succ times ih =>
    obtain ⟨heq, hkeep⟩ := Operation.goes_describe hcall d h hh (Nat.zero_le _)
    rw [Scope.raisedTextBy, Scope.raisedTextBy, heq]
    cases hdescribe : Operation.describe call' d h with
    | ok text h' =>
      rw [hdescribe] at hkeep
      exact ⟨rfl, hkeep.1⟩
    | error fault h' =>
      rw [hdescribe] at hkeep
      exact ih _ hkeep.1

theorem Steps.run (hcall : G.Alike call call') {x y : Run α} (hxy : G.Same 0 x y) :
    G.Steps (Scope.runBy call x) (Scope.runBy call' y) := by
  intro s hs
  obtain ⟨heq, hkeep⟩ := hxy s.heap hs (Nat.zero_le _)
  rw [Scope.runBy, Scope.runBy, heq]
  cases hy : y s.heap with
  | ok a h =>
    rw [hy] at hkeep
    exact ⟨rfl, hkeep.1⟩
  | error fault h =>
    rw [hy] at hkeep
    obtain ⟨htext, hleft⟩ := raisedTextBy_eq hcall Scope.descriptionLimit fault.datum hkeep.1
    dsimp only
    rw [htext]
    exact ⟨rfl, hleft⟩

theorem Steps.checkName (name : String) :
    G.Steps (Scope.checkName name) (Scope.checkName name) := by
  unfold Scope.checkName
  split
  · exact .pure _
  · exact .throw _

theorem Steps.orFailure (body : Except Refusal Block) :
    G.Steps (Scope.orFailure body) (Scope.orFailure body) := by
  unfold Scope.orFailure
  split
  · exact .pure _
  · exact .throw _
  · exact .throw _

theorem Steps.readGlobal (hcall : G.Alike call call') (x : String) :
    G.Steps (Scope.readGlobalBy call x) (Scope.readGlobalBy call' x) :=
  .run hcall (Operation.goes_index hcall _ _)

theorem Steps.bindings (hcall : G.Alike call call') :
    G.Steps (Scope.bindingsBy call) (Scope.bindingsBy call') := by
  refine .bind (.readGlobal hcall _) fun d => ?_
  split
  · exact .pure _
  · exact .throw _

theorem Steps.isTruthy (hcall : G.Alike call call') (d : Datum) :
    G.Steps (Scope.isTruthyBy call d) (Scope.isTruthyBy call' d) := by
  unfold Scope.isTruthyBy
  split
  · refine .bind (.run hcall (.readTable _)) fun t => ?_
    split
    · exact .pure _
    · refine .bind (.run hcall (.rawGet _ _)) fun tag => ?_
      split
      · exact .pure _
      · exact .throw _
  · exact .pure _

theorem Follows.exec (hfollows : G.Follows t t') (hglobals : G.Watches Heap.globalsCell)
    (name source : String) : G.Steps (Scope.execBy t name source) (Scope.execBy t' name source) :=
  .bind (.checkName name) fun _ => .bind (.orFailure _) fun _ =>
    .bind (.run hfollows.alike (hfollows.script hglobals _ _ _)) fun _ => .pure _

theorem Follows.evalPredicate (hfollows : G.Follows t t') (hglobals : G.Watches Heap.globalsCell)
    (name source : String) (doc : Document) :
    G.Steps (Scope.evalPredicateBy t name source doc)
      (Scope.evalPredicateBy t' name source doc) := by
  have hcall := hfollows.alike
  have happly (f : Datum) (args : List Datum) :
      G.Steps (Scope.runBy t.call (t.call f args)) (Scope.runBy t'.call (t'.call f args)) :=
    .run hcall (hcall f args)
  refine .bind (.bindings hcall) fun environment => .bind (.checkName name) fun _ =>
    .bind (.orFailure _) fun body => .bind (.run hcall (.newScript hglobals _ _ _)) fun predicate =>
    .bind (.orFailure _) fun literal =>
    .bind (.run hcall (hfollows.script hglobals _ _ _)) fun this =>
    .bind (.readGlobal hcall _) fun withDocument => ?_
  split
  · exact .throw_bind _
  refine .bind (happly _ _) fun result => ?_
  dsimp only
  split
  · exact .bind (happly _ _) fun _ => .isTruthy hcall _
  · exact .isTruthy hcall _

theorem Follows.perform (hfollows : G.Follows t t') (hglobals : G.Watches Heap.globalsCell)
    (step : Scope.Step) : G.Steps (step.performBy t) (step.performBy t') := by
  cases step with
  | exec name source => exact .bind (hfollows.exec hglobals name source) fun _ => .pure _
  | evalPredicate name source doc =>
    exact .bind (hfollows.evalPredicate hglobals name source doc) fun _ => .pure _

end Guard

end Docbase.Script
