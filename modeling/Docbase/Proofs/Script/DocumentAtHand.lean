import Docbase.Proofs.Script.DocumentLookup

/-!
The document at hand is taken up again. However steps of a scope nest calls of `__with_document`,
each call that is orderly leaves the document at hand that it found, and a step that leaves
another one has made a call that is not.
-/
namespace Docbase.Script

open Guard

/-! Calls of `__with_document` and of the function that looks up names. -/

/-- Whether some way for calls of a kind to go on makes a difference. As cells are never given
back, one that makes more of them than there are otherwise does, if such a call is made at all. -/
def MakesCall {σ β : Type} (kind : Call.Kind) (run : Turn → σ → β) (s : σ) : Prop :=
  ∃ answer, run (.but kind answer) s ≠ run .plain s

namespace Call

/-- Whether a call finds the library's function in the global `pcall`, and room to call it. -/
def Orderly (depth : ℕ) (h : Heap) : Prop :=
  0 < depth ∧ (h.table Heap.globals).getText "pcall" = .primitive .pcall

/-- Calls of `__with_document` that cannot make sure of what they leave. -/
def disorderly : Kind := fun depth _ p h =>
  p.f = .closure Heap.withDocumentPlace ∧ ¬Orderly depth h

/-- Orderly calls of `__with_document` that leave another document at hand than they found,
although their end is the library's, or makes no call that is not orderly. -/
def unrestored : Kind := fun depth trace p h =>
  p.f = .closure Heap.withDocumentPlace ∧ Orderly depth h ∧
    (TakingUp.EndsPlainly (within depth) trace p.args h ∨
      ¬MakesCall disorderly (fun t => step (t.within depth) trace p) h) ∧
    (Run.left (step (within depth) trace p) h).document ≠ h.document

/-- Lookups of a name that give something else than it stands for. -/
def misresolved : Kind := fun depth trace p h =>
  p.f = .closure Heap.lookupPlace ∧ 0 < depth ∧ ∃ self x d, p.args = [self, .ofText x] ∧
    h.Binds x d ∧ ∀ h', step (within depth) trace p h ≠ .ok (.inr [d]) h'

end Call

namespace Turn

variable {kind : Call.Kind} {answer : Trace → Call.Pending → Run (Call.Pending ⊕ List Datum)}
  {depth : ℕ} {call : Dispatch} {trace : Trace} {p : Call.Pending} {h : Heap}

theorem but_of (hkind : kind depth trace p h) :
    but kind answer depth call trace p h = answer trace p h := if_pos hkind

theorem but_of_not (hkind : ¬kind depth trace p h) :
    but kind answer depth call trace p h = Call.step call trace p h := if_neg hkind

/-- Calls end at once, and leave the heap alone. -/
def refuse (_ : Trace) (_ : Call.Pending) : Run (Call.Pending ⊕ List Datum) := Run.fail ""

/-- Calls of the library go on as they do. -/
def Hosts (t : Turn) : Prop :=
  ∀ depth call trace caller q args h, t depth call trace ⟨caller, .primitive q, args⟩ h =
    Call.step call trace ⟨caller, .primitive q, args⟩ h

theorem hosts_plain : Hosts plain := fun _ _ _ _ _ _ _ => rfl

theorem hosts_but_disorderly : Hosts (but Call.disorderly answer) :=
  fun _ _ _ _ _ _ _ => but_of_not fun hkind => absurd hkind.1 (by simp)

theorem pcall_ok (call : Callee) (f : Datum) (args : List Datum) (h : Heap) :
    ∃ ds h', Library.pcall call (f :: args) h = .ok ds h' := by
  cases hcall : call f args h with
  | ok ds h' =>
    have hattempt : Run.attempt (call f args) h = .ok (.ok ds) h' := by rw [Run.attempt, hcall]
    exact ⟨_, _, Run.bind_ok hattempt⟩
  | error fault h' =>
    have hattempt : Run.attempt (call f args) h = .ok (.error fault.datum) h' := by
      rw [Run.attempt, hcall]
    exact ⟨_, _, Run.bind_ok hattempt⟩

theorem error_raises (trace : Trace) (d : Datum) (h : Heap) :
    ∃ fault, Library.error trace [d, .int 0] h = .error fault h := by
  cases d <;> exact ⟨_, rfl⟩

theorem Hosts.within {t : Turn} (ht : Hosts t) (hhosted : trace.hosted < Trace.hostedLimit)
    (depth : ℕ) : TakingUp.Hosts (t.within (depth + 1)) (trace.push .host) := by
  have hcall (q : Primitive) (args : List Datum) (h : Heap) :
      t.within (depth + 1) (trace.push .host) (.primitive q) args h =
        iterate (t depth (t.within depth) (trace.push .host)) (turnLimit - 1 + 1)
          ⟨none, .primitive q, args⟩ h := by
    rw [show turnLimit - 1 + 1 = turnLimit by decide, Turn.within,
      if_neg (show ¬Trace.hostedLimit ≤ (trace.push .host).hosted from hhosted.not_ge)]
  constructor
  · intro f args h
    obtain ⟨ds, h', hpcall⟩ := pcall_ok
      (t.within depth ((trace.push .host).push .host).throughHost) f args h
    have hturn : t depth (t.within depth) (trace.push .host) ⟨none, .primitive .pcall, f :: args⟩
        h = .ok (.inr ds) h' :=
      (ht ..).trans (Run.bind_ok (Run.placed_ok _ hpcall))
    exact ⟨ds, h', (hcall ..).trans (Run.iterate_result hturn _)⟩
  · intro d h
    obtain ⟨fault, herror⟩ := error_raises (trace.push .host) d h
    obtain ⟨fault', hplaced⟩ := Run.placed_error ((trace.push .host).frame 1) herror
    have hturn : t depth (t.within depth) (trace.push .host) ⟨none, .primitive .error, [d, .int 0]⟩
        h = .error fault' h := (ht ..).trans (Run.bind_error hplaced)
    exact ⟨fault', (hcall ..).trans (Run.bind_error hturn)⟩

end Turn

/-! Scopes whose document at hand is left open. -/

section Open

open TakingUp

variable {more : List (ℕ × Option Datum)} {kind : Call.Kind} {depth : ℕ} {trace : Trace}
  {p : Call.Pending} {h : Heap}

theorem Guard.open_nil : Open [] := fun _ hd => absurd hd List.not_mem_nil

theorem admitted_functions (hopen : Open more) {call call' : Dispatch}
    (hcall : (ofScope more).Agree call call') :
    ∀ f ∈ (ofScope more).functions, Call.Admitted (ofScope more) call call' f.2 := by
  intro f hf
  rcases mem_functions.mp hf with rfl | rfl
  exacts [admitted_lookup hcall, admitted_withDocument hopen hcall]

theorem Guard.follows_plain (hopen : Open more) : (ofScope more).Follows .plain .plain :=
  follows_of_turns fun _ hagree trace p _ =>
    Call.goes_step hagree trace p fun f hf _ => admitted_functions hopen hagree f hf

/-- It makes no difference to the guard if calls of a kind are refused. -/
theorem Guard.follows_refuse (hopen : Open more) (kind : Call.Kind) :
    (ofScope more).Follows (.but kind Turn.refuse) (.but kind Turn.refuse) := by
  refine follows_of_turns fun depth hagree trace p _ h hh hn => ⟨rfl, ?_⟩
  by_cases hkind : kind depth trace p h
  · rw [Turn.but_of hkind]
    exact ⟨hh, le_rfl⟩
  · rw [Turn.but_of_not hkind]
    exact (Call.goes_step hagree trace p
      (fun f hf _ => admitted_functions hopen hagree f hf) h hh hn).2

/-- A turn of a call of `__with_document` runs its body. -/
theorem step_withDocument (hh : (ofScope more).Holds h) (call : Dispatch) (trace : Trace)
    (caller : Option Frame) (args : List Datum) :
    Call.step call trace ⟨caller, .closure Heap.withDocumentPlace, args⟩ h =
      Call.enter call trace .withDocument args h := by
  have hread : Run.readClosure Heap.withDocumentPlace h = .ok .withDocument h :=
    congrArg (EStateM.Result.ok · h) hh.withDocument
  exact Run.bind_ok hread

/-- Without room to call the library, a call leaves the document at hand that it was given. -/
theorem document_without_room (hh : (ofScope []).Holds h)
    (hpcall : (h.table Heap.globals).getText "pcall" = .primitive .pcall)
    (hf : p.f = .closure Heap.withDocumentPlace) :
    (Run.left (Call.step (Call.within 0) trace p) h).document = p.args.headD .nil := by
  obtain ⟨caller, f, args⟩ := p
  obtain rfl : f = .closure Heap.withDocumentPlace := hf
  obtain ⟨doc, fn, previous, h', hbound, hsteps⟩ := steps_bind hh (Call.within 0) trace args
  have hpcall' : (h'.table Heap.globals).getText "pcall" = .primitive .pcall := by
    rwa [Heap.table, hbound.tables]
  obtain ⟨fault, hraised⟩ : ∃ fault, protectedCall.evaluate (Call.within 0)
      (inside trace args doc fn previous) h' = .error fault h' := by
    rw [evaluate_protectedCall hbound.guarded hpcall']
    exact Run.placed_error _ rfl
  have hfailed : steps (Call.within 0) trace args h = .error fault h' :=
    hsteps.trans (Run.bind_error hraised)
  rw [Run.left, step_withDocument hh, Closure.withDocument, enter_takingUp,
    Run.bind_error hfailed]
  exact hbound.document

/-! The document at hand is kept where calls that are not orderly are refused. -/

/-- An orderly call leaves the document that it found. -/
theorem document_of_orderly {t : Turn} (ht : t.Hosts)
    (hcall : ∀ more, Open more → (ofScope more).Agree (t.within depth) (t.within depth))
    (hh : (ofScope []).Holds h) (hhosted : trace.hosted < Trace.hostedLimit)
    (horderly : Call.Orderly depth h) (hf : p.f = .closure Heap.withDocumentPlace)
    (hend : EndsPlainly (t.within depth) trace p.args h ∨
      (ofScope [(Heap.documentCell, some h.document)]).Agree (t.within depth) (t.within depth)) :
    (Run.left (Call.step (t.within depth) trace p) h).document = h.document := by
  obtain ⟨caller, f, args⟩ := p
  obtain rfl : f = .closure Heap.withDocumentPlace := hf
  obtain ⟨hpositive, hpcall⟩ := horderly
  obtain ⟨depth, rfl⟩ := Nat.exists_eq_succ_of_ne_zero hpositive.ne'
  rw [Run.left, step_withDocument hh]
  exact document_left hcall (ht.within hhosted depth) hh hpcall hend

/-- What leaves the document at hand as it is keeps it under guard. -/
theorem Guard.keeps_document {α : Type} {x : Run α} {Q : α → ℕ → Prop}
    (hkeep : (ofScope []).Keeps h Q (x h)) {d : Datum} (hd : (Run.left x h).document = d) :
    (ofScope [(Heap.documentCell, some d)]).Keeps h Q (x h) := by
  rw [Run.left] at hd
  cases hx : x h with
  | ok a h' =>
    rw [hx] at hkeep hd
    exact ⟨hd ▸ hkeep.1.keepDocument, hkeep.2⟩
  | error fault h' =>
    rw [hx] at hkeep hd
    exact ⟨hd ▸ hkeep.1.keepDocument, hkeep.2⟩

theorem Guard.follows_refuse_disorderly (d : Datum) :
    (ofScope [(Heap.documentCell, some d)]).Follows (.but Call.disorderly Turn.refuse)
      (.but Call.disorderly Turn.refuse) := by
  refine follows_of_turns fun depth hagree trace p hhosted h hh hn => ⟨rfl, ?_⟩
  by_cases hkind : Call.disorderly depth trace p h
  · rw [Turn.but_of hkind]
    exact ⟨hh, le_rfl⟩
  rw [Turn.but_of_not hkind]
  by_cases hf : p.f = .closure Heap.withDocumentPlace
  · have horderly : Call.Orderly depth h := by
      by_contra hnot
      exact hkind ⟨hf, hnot⟩
    have hopened : (ofScope []).Holds h :=
      Holds.of_cons (G := ofScope []) (c := (Heap.documentCell, some d)) hh
    have hcall (more : List (ℕ × Option Datum)) (hopen : Open more) :=
      (follows_refuse hopen Call.disorderly depth).1
    have hkeep := (Call.goes_step (hcall [] open_nil) trace p
      (fun f hf _ => admitted_functions open_nil (hcall [] open_nil) f hf) h hopened hn).2
    have hdocument := document_of_orderly Turn.hosts_but_disorderly hcall hopened hhosted
      horderly hf (.inr (hh.document_eq ▸ hagree))
    exact keeps_document hkeep (hdocument.trans hh.document_eq)
  · refine (Call.goes_step hagree trace p (fun f hf' he => ?_) h hh hn).2
    rcases mem_functions.mp hf' with rfl | rfl
    exacts [admitted_lookup hagree, absurd he hf]

/-! No call does what it should not. -/

theorem not_unrestored (hh : (ofScope []).Holds h) (hhosted : trace.hosted < Trace.hostedLimit) :
    ¬Call.unrestored depth trace p h := by
  rintro ⟨hf, horderly, hend, hne⟩
  have hplain : Turn.plain.within depth = Call.within depth := congrFun Turn.within_plain depth
  rcases hend with hend | hnone
  · rw [← hplain] at hend hne
    exact hne (document_of_orderly Turn.hosts_plain (fun _ hopen => (follows_plain hopen depth).1)
      hh hhosted horderly hf (.inl hend))
  · -- it makes no difference if what is not orderly is refused, so the document is kept
    have hsame : Call.step ((Turn.but Call.disorderly Turn.refuse).within depth) trace p h =
        Call.step (Turn.plain.within depth) trace p h := by
      by_contra hdifferent
      exact hnone ⟨Turn.refuse, hdifferent⟩
    rw [Run.left, ← hplain, ← hsame] at hne
    exact hne (document_of_orderly Turn.hosts_but_disorderly
      (fun _ hopen => (follows_refuse hopen Call.disorderly depth).1) hh hhosted horderly hf
      (.inr (follows_refuse_disorderly h.document depth).1))

theorem not_misresolved (hh : (ofScope []).Holds h) (hhosted : trace.hosted < Trace.hostedLimit) :
    ¬Call.misresolved depth trace p h := by
  rintro ⟨hf, hpositive, self, x, d, hargs, hbinds, hother⟩
  obtain ⟨caller, f, args⟩ := p
  obtain rfl : f = .closure Heap.lookupPlace := hf
  obtain rfl : args = [self, .ofText x] := hargs
  obtain ⟨depth, rfl⟩ := Nat.exists_eq_succ_of_ne_zero hpositive.ne'
  obtain ⟨h', hstep⟩ := step_lookup hh hhosted hbinds depth caller self
  exact hother h' hstep

/-- Calls of a kind that there are none of may go on in any way. -/
theorem Guard.follows_of_none
    (hnone : ∀ depth trace p h, (ofScope []).Holds h → trace.hosted < Trace.hostedLimit →
      ¬kind depth trace p h)
    (answer : Trace → Call.Pending → Run (Call.Pending ⊕ List Datum)) :
    (ofScope []).Follows (.but kind answer) .plain := by
  refine follows_of_turns fun depth hagree trace p hhosted h hh hn => ?_
  rw [Turn.but_of_not (hnone depth trace p h hh hhosted)]
  exact Call.goes_step hagree trace p
    (fun f hf _ => admitted_functions open_nil hagree f hf) h hh hn

end Open

/-! A fresh scope. -/

/-- Whether no document is at hand, and the functions that may not write to guarded cells do not;
functions that are not there see nothing. -/
def Heap.isGuarded (h : Heap) : Bool :=
  decide (Heap.documentCell < h.cells.size) && h.cell Heap.globalsCell == .table Heap.globals &&
    h.cell Heap.documentCell == .nil && decide (Heap.withDocumentPlace < h.closures.size) &&
    (List.range h.closures.size).all fun place =>
      (h.closure place).captured.all fun v =>
        decide (v.2 < h.cells.size) &&
          (place == Heap.withDocumentPlace || !Block.assigns v.1 (h.closure place).body ||
            (v.2 != Heap.globalsCell && v.2 != Heap.documentCell))

theorem isGuarded_fresh : Heap.fresh.isGuarded = true := by decide +kernel

theorem Guard.watches_ofScope {c : ℕ} (hw : (ofScope []).Watches c) :
    c = Heap.globalsCell ∨ c = Heap.documentCell := by
  obtain ⟨kept, hc⟩ := hw
  exact ((mem_cells.mp hc).resolve_left List.not_mem_nil).imp (congrArg Prod.fst)
    (congrArg Prod.fst)

theorem Guard.holds_of_isGuarded {h : Heap} (hguarded : h.isGuarded = true)
    (hwith : h.closure Heap.withDocumentPlace = .withDocument)
    (hlookup : h.closure Heap.lookupPlace = .lookup) : (ofScope []).Holds h := by
  simp only [Heap.isGuarded, Bool.and_eq_true, decide_eq_true_eq, beq_iff_eq, List.all_eq_true,
    List.mem_range] at hguarded
  obtain ⟨⟨⟨⟨hcells, hglobals⟩, -⟩, hclosures⟩, hfunctions⟩ := hguarded
  have hlookupPlace : Heap.lookupPlace < h.closures.size :=
    (show Heap.lookupPlace < Heap.withDocumentPlace by decide).trans hclosures
  refine ⟨fun c hc => ?_, fun f hf => ?_, fun place hplace v hv => ?_⟩
  · rcases (mem_cells.mp hc).resolve_left List.not_mem_nil with rfl | rfl
    · exact ⟨(show Heap.globalsCell < Heap.documentCell by decide).trans hcells,
        fun d hd => hglobals.trans (Option.some.inj hd)⟩
    · exact ⟨hcells, by simp⟩
  · rcases mem_functions.mp hf with rfl | rfl
    · exact ⟨hlookupPlace, hlookup, fun v hv =>
        (hfunctions _ hlookupPlace v (by rwa [hlookup])).1⟩
    · exact ⟨hclosures, hwith, fun v hv => (hfunctions _ hclosures v (by rwa [hwith])).1⟩
  · have hthere : place < h.closures.size := by
      by_contra hnone
      rw [Heap.closure, Array.getD_eq_getD_getElem?, Array.getElem?_eq_none (not_lt.mp hnone)] at hv
      exact absurd hv List.not_mem_nil
    obtain ⟨hlt, hassigns⟩ := hfunctions place hthere v hv
    refine ⟨hlt, fun hw => ?_⟩
    have hother : place ≠ Heap.withDocumentPlace :=
      (hplace _ (mem_functions.mpr (.inr rfl))).symm
    rcases watches_ofScope hw with hc | hc <;> simpa [hother, hc] using hassigns

theorem Guard.holds_fresh : (ofScope []).Holds Heap.fresh :=
  holds_of_isGuarded isGuarded_fresh closure_fresh.1 closure_fresh.2

theorem document_fresh : Heap.fresh.document = .nil := by
  have hguarded := isGuarded_fresh
  simp only [Heap.isGuarded, Bool.and_eq_true, beq_iff_eq] at hguarded
  exact hguarded.1.1.2

end Docbase.Script

/-! Steps of a scope. -/

namespace Docbase.Scope

open Script Guard

/-- A fresh scope after some steps, whether they failed or not. -/
def after (steps : List Step) : Scope := steps.foldl (fun s step => step.next s) .fresh

theorem heap_after_nil : (after []).heap = .fresh := by rw [after, List.foldl_nil, fresh]

theorem after_concat (steps : List Step) (step : Step) :
    after (steps ++ [step]) = step.next (after steps) := by
  rw [after, List.foldl_append]
  rfl

variable {s : Scope}

theorem holds_next (hs : (ofScope []).Holds s.heap) (step : Step) :
    (ofScope []).Holds (step.next s).heap := by
  have hkeep := ((follows_plain open_nil).perform (watches_globals []) step s hs).2
  rw [Step.performBy_plain] at hkeep
  rw [Step.next]
  split <;> next heq => rwa [heq] at hkeep

/-- `__with_document` alone writes to the variable of the document at hand, after any steps. -/
theorem holds_after (steps : List Step) : (ofScope []).Holds (after steps).heap := by
  induction steps using List.reverseRecOn with
  | nil => rw [heap_after_nil]; exact holds_fresh
  | append_singleton steps step ih => exact after_concat steps step ▸ holds_next ih step

/-- A step that makes orderly calls only ends with the document at hand that it began with. -/
theorem document_next (hs : (ofScope []).Holds s.heap) (step : Step) :
    (step.next s).heap.document = s.heap.document ∨
      MakesCall Call.disorderly step.performBy s := by
  by_cases hcalls : step.performBy (.but Call.disorderly Turn.refuse) s = step.performBy .plain s
  · refine .inl ?_
    have hkeep := ((follows_refuse_disorderly s.heap.document).perform (watches_globals _) step s
      hs.keepDocument).2
    rw [hcalls, Step.performBy_plain] at hkeep
    rw [Step.next]
    split <;> next heq =>
      rw [heq] at hkeep
      exact hkeep.document_eq
  · exact .inr ⟨Turn.refuse, hcalls⟩

/-- A document is at hand between steps only if a step made a call that is not orderly. -/
theorem document_after (steps : List Step) : (after steps).heap.document = .nil ∨
    ∃ earlier step later, steps = earlier ++ step :: later ∧
      MakesCall Call.disorderly step.performBy (after earlier) := by
  induction steps using List.reverseRecOn with
  | nil => rw [heap_after_nil]; exact .inl document_fresh
  | append_singleton steps step ih =>
    rcases ih with hnone | ⟨earlier, other, later, rfl, hcalls⟩
    · rcases document_next (holds_after steps) step with hsame | hcalls
      · exact .inl (by rw [after_concat, hsame, hnone])
      · exact .inr ⟨steps, step, [], rfl, hcalls⟩
    · exact .inr ⟨earlier, other, later ++ [step], by simp, hcalls⟩

/-- There are no calls of a kind that the guard excludes. -/
theorem not_makesCall {kind : Call.Kind} (hs : (ofScope []).Holds s.heap)
    (hnone : ∀ depth trace p h, (ofScope []).Holds h → trace.hosted < Trace.hostedLimit →
      ¬kind depth trace p h) (step : Step) : ¬MakesCall kind step.performBy s := by
  rintro ⟨answer, hdifferent⟩
  exact hdifferent ((follows_of_none hnone answer).perform (watches_globals []) step s hs).1

/-- After any steps of a scope, whether they failed or not, a step makes no call of
`__with_document` that finds the library's `pcall` and leaves another document at hand than it
found, and no lookup of a name that gives something else than it stands for. If it ends with
another document than it began with, it has made a call that did not find the library's `pcall`,
or no room; and if it begins with one, an earlier step has. -/
theorem calls_restore_document (steps : List Step) (step : Step) :
    ¬MakesCall Call.unrestored step.performBy (after steps) ∧
      ¬MakesCall Call.misresolved step.performBy (after steps) ∧
      ((step.next (after steps)).heap.document = (after steps).heap.document ∨
        MakesCall Call.disorderly step.performBy (after steps)) ∧
      ((after steps).heap.document = .nil ∨
        ∃ earlier other later, steps = earlier ++ other :: later ∧
          MakesCall Call.disorderly other.performBy (after earlier)) := by
  have hs := holds_after steps
  exact ⟨not_makesCall hs (fun _ _ _ _ hh hhosted => not_unrestored hh hhosted) step,
    not_makesCall hs (fun _ _ _ _ hh hhosted => not_misresolved hh hhosted) step,
    document_next hs step, document_after steps⟩

/-- Without `pcall` a predicate leaves its document at hand, and a later unit sees it. -/
theorem document_stays_without_pcall :
    let steps : List Step := [.exec "c" "pcall = nil", .evalPredicate "w" "true" [("a", .int32 1)]]
    (after (steps.take 1)).heap.document = .nil ∧ (after steps).heap.document ≠ .nil ∧
      ((after (steps ++ [.exec "d" "seen = __bindings.this"])).heap.table Heap.globals).getText
        "seen" = (after steps).heap.document := by
  decide +kernel

/-- The end of a call is not the library's where `error` is not, and a document stays at hand that
was taken up there. -/
example : (after [.exec "c" "error = function() pcall = nil; __with_document(1) end",
    .evalPredicate "w" "absent()" []]).heap.document = .int 1 := by
  decide +kernel

end Docbase.Scope
