import Docbase.Proofs.MapReduce.Partition
import Docbase.Proofs.Refusal
import Docbase.Proofs.Script.CallStatement

/-!
The loops over the slots. A phase calls its function once for each slot, with the slot's key and
what else belongs to it, and files what the function gives. Between the calls nothing happens
but that the next slot is looked up and the last answer is filed, so a run of the loop is the
sequence of its rounds.
-/
namespace Docbase.MapReduce

open Docbase.Script
open Docbase.Script.Expr (callName ofName)

namespace Registry

/-- The table of the results. -/
def reducedPlace : ℕ := 27

end Registry

open Registry (keysPlace emitsPlace reducedPlace)

/-- The phases that go through the slots. -/
inductive Phase where
  | reduce
  | finalize

namespace Phase

/-- The variable that takes what the function gives. -/
def result : Phase → String
  | .reduce => "reduced"
  | .finalize => "finalized"

/-- The global that holds the function. -/
def function : Phase → String
  | .reduce => reduceName
  | .finalize => finalizeName

/-- The global that holds what the function gets besides the key. -/
def other : Phase → String
  | .reduce => emitsName
  | .finalize => reducedName

def otherPlace : Phase → ℕ
  | .reduce => emitsPlace
  | .finalize => reducedPlace

/-- What the function gets. -/
def arguments (p : Phase) : List Expr :=
  [(ofName keysName).item (ofName "slot"), (ofName p.other).item (ofName "slot")]

def turn (p : Phase) : Block :=
  [.bind p.result (callName p.function p.arguments), nullIfNil p.result,
    .setIndex (ofName reducedName) (ofName "slot") (ofName p.result)]

def unit (p : Phase) : Block :=
  [.numericFor 0 "slot" (.int 1) (ofName keysName).length none p.turn]

theorem unit_reduce : unit .reduce = reduceUnit := rfl

theorem unit_finalize : unit .finalize = finalizeUnit := rfl

/-- What a turn sees: the number of the slot. -/
def env (slot : ℕ) : Env := ⟨[("slot", slot)], [(Env.globalsName, 0)], [], none, .start, true⟩

/-- What it sees once there is an answer. -/
def answered (p : Phase) (slot result : ℕ) : Env :=
  { env slot with own := (p.result, result) :: (env slot).own }

end Phase

/-- A call of a function of the job for a slot. -/
def callFor (f : Datum) (args : List Datum) : Run (List Datum) :=
  Call.within 189999 (Trace.start.push .host) f args

/-- The number of a slot. -/
def slotNumber (i : ℕ) : Datum := .int (Int64.ofNat (i + 1))

/-- The heap in which the function is called for a slot: the number of the slot has a variable,
and the tables of the key and of the other argument have been looked at. -/
def asked (p : Phase) (i : ℕ) (h : Heap) : Heap :=
  ((h.update keysPlace fun t => t.touch (slotNumber i)).update p.otherPlace
    fun t => t.touch (slotNumber i)).withCells [slotNumber i]

/-- The heap after an answer is filed. -/
def noted (i : ℕ) (d : Datum) (h : Heap) : Heap :=
  (h.update reducedPlace fun t => t.set (slotNumber i) d).withCells [d]

variable {p : Phase} {i : ℕ} {f k o : Datum} {h h' : Heap} {ds : List Datum}

/-- A heap in which the function of a phase can be called for a slot. -/
structure Ready (p : Phase) (f : Datum) (i : ℕ) (k o : Datum) (h : Heap) : Prop where
  cells_pos : 0 < h.cells.size
  cell : h.cell 0 = .table 0
  keys_lt : keysPlace < h.tables.size
  other_lt : p.otherPlace < h.tables.size
  function : (h.table 0).getText p.function = f
  callable : f.isNil = false
  keys : (h.table 0).getText keysName = .table keysPlace
  other : (h.table 0).getText p.other = .table p.otherPlace
  key : (h.table keysPlace).get (slotNumber i) = k
  present : k.isNil = false
  item : (h.table p.otherPlace).get (slotNumber i) = o
  silent : o.isNil = true → Operation.Unhandled h p.otherPlace "__index"

/-- A heap in which an answer can be filed; the number of the slot is in its variable. -/
structure Returned (i slot : ℕ) (h : Heap) : Prop where
  cells_pos : 0 < h.cells.size
  cell : h.cell 0 = .table 0
  slot_lt : slot < h.cells.size
  slot : h.cell slot = slotNumber i
  null : (h.table 0).getText "null" = null
  reduced : (h.table 0).getText reducedName = .table reducedPlace
  silent : Operation.Unhandled h reducedPlace "__newindex"

/-! Rounds. -/

/-- A call for a slot: what the function got, and what it gave. -/
structure Round where
  key : Datum
  other : Datum
  before : Heap
  returned : List Datum
  after : Heap

/-- What is filed of a call; nil counts as null. -/
def Round.answer (r : Round) : Datum := orNull (r.returned.headD .nil)

/-- The call that a phase makes for a slot. -/
structure Round.Follows (p : Phase) (f : Datum) (i : ℕ) (h : Heap) (r : Round) : Prop where
  key : r.key = (h.table keysPlace).get (slotNumber i)
  other : r.other = (h.table p.otherPlace).get (slotNumber i)
  before : r.before = asked p i h
  call : callFor f [r.key, r.other] r.before = .ok r.returned r.after

/-- The heap once the keys are counted. -/
def counted (h : Heap) : Heap :=
  h.update keysPlace fun t => { t with edge := (h.table keysPlace).findBorder.2 }

/-- The calls that a phase has made one after the other since it started, for the first slots,
and the heap after the last one. -/
inductive Rounds (p : Phase) (f : Datum) (start : Heap) : List Round → Heap → Prop
  | start : Rounds p f start [] (counted start)
  | turn {rounds : List Round} {h : Heap} {r : Round} (prior : Rounds p f start rounds h)
    (hnext : r.Follows p f rounds.length h) :
    Rounds p f start (rounds ++ [r]) (noted rounds.length r.answer r.after)

/-! Looks at tables. -/

/-- A table that is only looked at holds what it held. -/
theorem moved_update {q : ℕ} {g : Table → Table} (hq : q < h.tables.size)
    (hg : (h.table q).Moved (g (h.table q))) (r : ℕ) :
    (h.table r).Moved ((h.update q g).table r) := by
  rw [Heap.table_update hq]
  split_ifs with hr
  · exact hr ▸ hg
  · exact .refl _

theorem moved_look {q : ℕ} (hq : q < h.tables.size) (key : Datum) (r : ℕ) :
    (h.table r).Moved ((h.update q fun t => t.touch key).table r) :=
  moved_update hq (Table.moved_touch (h.table q) key) r

theorem unhandled_moved {q : ℕ} {event : String} (hu : Operation.Unhandled h q event)
    (hmoved : ∀ r, (h.table r).Moved (h'.table r)) : Operation.Unhandled h' q event := by
  intro m hm
  rw [(hmoved q).metatable] at hm
  exact ((hmoved m).getKey _).trans (hu m hm)

/-! The statements of a turn. -/

section Turn

variable {call : Dispatch} {slot : ℕ}

theorem Ready.sees (hr : Ready p f i k o h) (slot : ℕ) : (Phase.env slot).Global h :=
  ⟨rfl, rfl, hr.cells_pos, hr.cell⟩

theorem Returned.sees (hr : Returned i slot h) (result : ℕ) :
    (p.answered slot result).Global h := by
  refine ⟨?_, rfl, hr.cells_pos, hr.cell⟩
  cases p with
  | reduce => rfl
  | finalize => rfl

/-- An item of a table that a global holds, at the number of the slot. -/
theorem evaluate_slotItem (call : Dispatch) (i : ℕ) (hg : (Phase.env h.cells.size).Global h)
    {x : String} {q : ℕ} (hfree : (Phase.env h.cells.size).cell? x = none)
    (hx : (h.table 0).getText x = .table q) (hq : q < h.tables.size)
    (hsilent : ((h.table q).get (slotNumber i)).isNil = true →
      Operation.Unhandled h q "__index") :
    ((ofName x).item (ofName "slot")).evaluate call (Phase.env h.cells.size)
        (h.withCells [slotNumber i]) =
      .ok [(h.table q).get (slotNumber i)]
        ((h.update q fun t => t.touch (slotNumber i)).withCells [slotNumber i]) := by
  have hobject := evaluate_free call 0 hg hfree hx rfl [slotNumber i]
  have hkey : (ofName "slot").evaluate call (Phase.env h.cells.size)
      (h.withCells [slotNumber i]) = .ok [slotNumber i] (h.withCells [slotNumber i]) :=
    evaluate_local call (Phase.env h.cells.size) 0 (i := 0) rfl rfl
  have hcell : (Phase.env h.cells.size).objectCell? (ofName x) = none := by
    obtain ⟨hown, hcaptured⟩ := cells_of_free 0 hfree
    rw [Env.objectCell?, ofName, hown, hcaptured]
  refine evaluate_index hcell hobject hkey fun call => ?_
  refine Operation.index_eq (h := h.withCells [slotNumber i]) call (slotNumber i) fun hnil => ?_
  exact unhandled_moved (hsilent hnil) (moved_look hq (slotNumber i))

/-- The arguments of the call for a slot. -/
theorem evaluate_arguments (hr : Ready p f i k o h) :
    Expr.evaluateAll call p.arguments (Phase.env h.cells.size) (h.withCells [slotNumber i]) =
      .ok [k, o] (asked p i h) := by
  have hkey := evaluate_slotItem call i (hr.sees _) rfl hr.keys hr.keys_lt
    fun hnil => by
      rw [hr.key, hr.present] at hnil
      cases hnil
  set h₁ := h.update keysPlace fun t => t.touch (slotNumber i)
  have hmoved := moved_look hr.keys_lt (slotNumber i)
  have hsize : h₁.tables.size = h.tables.size := Heap.size_update _ _ _
  have hitem : (h₁.table p.otherPlace).get (slotNumber i) = o :=
    ((hmoved _).getKey _).trans hr.item
  have hfree : (Phase.env h.cells.size).cell? p.other = none := by cases p <;> rfl
  have hg : (Phase.env h₁.cells.size).Global h₁ := ⟨rfl, rfl, hr.cells_pos, hr.cell⟩
  have hother := evaluate_slotItem call i hg hfree (((hmoved 0).getKey _).trans hr.other)
    (hsize ▸ hr.other_lt) fun hnil => unhandled_moved (hr.silent (hitem ▸ hnil)) hmoved
  rw [hr.key] at hkey
  rw [hitem] at hother
  exact (Run.bind_ok hkey).trans (Run.bind_ok hother)

/-- The function of the phase. -/
theorem evaluate_function (hr : Ready p f i k o h) :
    (ofName p.function).evaluate call (Phase.env h.cells.size) (h.withCells [slotNumber i]) =
      .ok [f] (h.withCells [slotNumber i]) := by
  have hfree : (Phase.env h.cells.size).cell? p.function = none := by cases p <;> rfl
  exact evaluate_free call 0 (hr.sees _) hfree hr.function hr.callable _

/-- An answer goes into the table of the results, with null in the place of nil. -/
theorem execute_answer (hr : Returned i slot h) (d : Datum) :
    Block.execute call
        [nullIfNil p.result, .setIndex (ofName reducedName) (ofName "slot") (ofName p.result)]
        (p.answered slot h.cells.size) atBlockEnd (h.withCells [d]) =
      .ok .next (noted i (orNull d) h) := by
  have hg : (p.answered slot h.cells.size).Global h := hr.sees _
  have hown : (p.answered slot h.cells.size).own.lookup p.result = some (h.cells.size + 0) := by
    simp [Phase.answered]
  have hnull : (nullIfNil p.result).execute call (p.answered slot h.cells.size)
      (h.withCells [d]) = .ok (.next, p.answered slot h.cells.size) (h.withCells [orNull d]) := by
    refine Registry.execute_nullIfNil hr.null hg ?_ hown rfl
    cases p <;> rfl
  have htable : (ofName reducedName).evaluate call (p.answered slot h.cells.size)
      (h.withCells [orNull d]) = .ok [.table reducedPlace] (h.withCells [orNull d]) := by
    refine evaluate_free call 0 hg ?_ hr.reduced rfl _
    cases p <;> rfl
  have hplaces : Target.places call [.index (ofName reducedName) (ofName "slot")]
      (p.answered slot h.cells.size) [] (h.withCells [orNull d]) =
      .ok [.slot (.value (.table reducedPlace)) (.variable slot)] (h.withCells [orNull d]) := by
    refine places_global 0 ?_ htable ?_
    · cases p <;> rfl
    · cases p <;> rfl
  have hvalue : (ofName p.result).evaluate call (p.answered slot h.cells.size)
      (h.withCells [orNull d]) = .ok [orNull d] (h.withCells [orNull d]) :=
    evaluate_local call _ 0 hown rfl
  have hnumber : (Operand.variable slot).read (h.withCells [orNull d]) =
      .ok (slotNumber i) (h.withCells [orNull d]) := by
    refine (Run.readCell_old hr.slot_lt).trans ?_
    rw [hr.slot]
  have hset : (Stmt.setIndex (ofName reducedName) (ofName "slot") (ofName p.result)).execute call
      (p.answered slot h.cells.size) (h.withCells [orNull d]) =
      .ok (.next, p.answered slot h.cells.size) (noted i (orNull d) h) :=
    execute_setIndex hplaces hvalue rfl hnumber fun call =>
      Operation.setIndex_eq (h := h.withCells [orNull d]) call rfl (orNull d) hr.silent
  exact (execute_cons (by simp [nullIfNil, Stmt.when]) hnull _ _).trans
    ((execute_cons (by simp [Stmt.setIndex]) hset _ _).trans rfl)

/-- The function is called, and its first value is the answer. -/
theorem execute_call (hr : Ready p f i k o h)
    (hcall : callFor f [k, o] (asked p i h) = .ok ds h') :
    (Stmt.bind p.result (callName p.function p.arguments)).execute (Call.within 189999)
        (Phase.env h.cells.size) (h.withCells [slotNumber i]) =
      .ok (.next, p.answered h.cells.size h'.cells.size) (h'.withCells [ds.headD .nil]) := by
  have hvalues : (callName p.function p.arguments).evaluate (Call.within 189999)
      (Phase.env h.cells.size) (h.withCells [slotNumber i]) = .ok ds (h'.withCells []) := by
    rw [Heap.withCells_nil]
    exact evaluate_call (evaluate_function hr) (evaluate_arguments hr) hcall
  exact execute_bind hvalues

theorem execute_call_fails {fault : Fault} (hr : Ready p f i k o h)
    (hcall : callFor f [k, o] (asked p i h) = .error fault h') :
    ∃ fault', (Stmt.bind p.result (callName p.function p.arguments)).execute (Call.within 189999)
      (Phase.env h.cells.size) (h.withCells [slotNumber i]) = .error fault' h' := by
  have hplaced : ∃ fault', (Phase.env h.cells.size).apply (Call.within 189999) 0 f [k, o]
      (asked p i h) = .error fault' h' := by
    rw [Env.apply, Run.placed, show Call.within 189999 ((Phase.env h.cells.size).trace 0) f [k, o]
      (asked p i h) = .error fault h' from hcall]
    cases fault with
    | raised d => exact ⟨_, rfl⟩
    | failed message => exact ⟨_, rfl⟩
  obtain ⟨fault', hplaced⟩ := hplaced
  have hvalues : (callName p.function p.arguments).evaluate (Call.within 189999)
      (Phase.env h.cells.size) (h.withCells [slotNumber i]) = .error fault' h' :=
    (Run.bind_ok (evaluate_function hr)).trans ((Run.bind_ok (evaluate_arguments hr)).trans hplaced)
  exact ⟨fault', Run.bind_error hvalues⟩

end Turn

/-! The loop. -/

/-- The slots from one on. -/
def remaining (i left : ℕ) : Progression := .ints (Int64.ofNat (i + 1)) 1 left

theorem next?_remaining (i left : ℕ) :
    (remaining i (left + 1)).next? = some (slotNumber i, remaining (i + 1) left) := by
  have hsum : Int64.ofNat (i + 1) + 1 = Int64.ofNat (i + 1 + 1) := by
    rw [Int64.ofNat_add (i + 1) 1]
    rfl
  rw [remaining, Progression.next?, hsum]
  rfl

theorem ofBounds_slots {n : ℕ} (hn : n < 2 ^ 63) :
    Progression.ofBounds (.int 1) (.int (Int64.ofNat n)) (.int 1) =
      .ok (if n = 0 then .empty else remaining 0 n) := by
  have hint : (Int64.ofNat n).toInt = n := Table.toInt_ofNat hn
  have hone : (1 : Int64).toInt = 1 := by rfl
  have hints : Progression.ofBounds (.int 1) (.int (Int64.ofNat n)) (.int 1) =
      .ok (if (Int64.ofNat n).toInt - (1 : Int64).toInt < 0 then .empty
        else .ints 1 1 (((Int64.ofNat n).toInt - (1 : Int64).toInt).toNat /
          (1 : Int64).toInt.natAbs + 1)) := by rfl
  rw [hints, hint, hone]
  rcases Nat.eq_zero_or_pos n with rfl | hpos
  · rfl
  · have hturns : ((n : ℤ) - 1).toNat / (1 : ℤ).natAbs + 1 = n := by
      rw [Int.natAbs_one, Nat.div_one]
      omega
    rw [if_neg (by omega), if_neg (by omega), hturns]
    rfl

namespace Phase

/-- One turn of the loop. -/
def step (p : Phase) (slots : Progression) : Run (Progression ⊕ Flow) := do
  match slots.next? with
  | none => return .inr .next
  | some (value, rest) =>
    let inner ← (Env.ofScript none Heap.globalsCell).declare ["slot"] [value]
    return (← Block.execute (Call.within 189999) p.turn inner atBlockEnd).turn rest

end Phase

theorem declare_slot (i : ℕ) (h : Heap) :
    (Env.ofScript none Heap.globalsCell).declare ["slot"] [slotNumber i] h =
      .ok (Phase.env h.cells.size) (h.withCells [slotNumber i]) := by
  have hcell := Run.newCell_local h [] (slotNumber i)
  rw [Heap.withCells_nil] at hcell
  exact Run.bind_ok (Run.bind_ok hcell)

theorem step_end (p : Phase) (i : ℕ) (h : Heap) :
    p.step (remaining i 0) h = .ok (.inr .next) h := rfl

theorem step_eq (p : Phase) (i left : ℕ) (h : Heap) :
    p.step (remaining i (left + 1)) h =
      (Block.execute (Call.within 189999) p.turn (Phase.env h.cells.size) atBlockEnd >>=
        fun flow => return flow.turn (remaining (i + 1) left)) (h.withCells [slotNumber i]) := by
  rw [Phase.step, next?_remaining]
  exact Run.bind_ok (declare_slot i h)

theorem step_ok (hr : Ready p f i k o h) (hcall : callFor f [k, o] (asked p i h) = .ok ds h')
    (hreturned : Returned i h.cells.size h') (left : ℕ) :
    p.step (remaining i (left + 1)) h =
      .ok (.inl (remaining (i + 1) left)) (noted i (orNull (ds.headD .nil)) h') := by
  have hturn : Block.execute (Call.within 189999) p.turn (Phase.env h.cells.size) atBlockEnd
      (h.withCells [slotNumber i]) = .ok .next (noted i (orNull (ds.headD .nil)) h') :=
    (execute_cons (by simp [Stmt.bind]) (execute_call hr hcall) _ _).trans
      (execute_answer hreturned _)
  rw [step_eq]
  exact Run.bind_ok hturn

theorem step_fails {fault : Fault} (hr : Ready p f i k o h)
    (hcall : callFor f [k, o] (asked p i h) = .error fault h') (left : ℕ) :
    ∃ fault', p.step (remaining i (left + 1)) h = .error fault' h' := by
  obtain ⟨fault', hfails⟩ := execute_call_fails hr hcall
  have hturn : Block.execute (Call.within 189999) p.turn (Phase.env h.cells.size) atBlockEnd
      (h.withCells [slotNumber i]) = .error fault' h' := by
    rw [Phase.turn, Block.execute.eq_def]
    exact Run.bind_error hfails
  refine ⟨fault', ?_⟩
  rw [step_eq]
  exact Run.bind_error hturn

/-- What holds of the rounds of a phase: as long as it does, the next call can be made, and it
still does once that call has returned. -/
structure Sustained (p : Phase) (f : Datum) (start : Heap) (n : ℕ)
    (I : List Round → Heap → Prop) : Prop where
  ready : ∀ rounds h, rounds.length < n → Rounds p f start rounds h → I rounds h →
    Ready p f rounds.length ((h.table keysPlace).get (slotNumber rounds.length))
      ((h.table p.otherPlace).get (slotNumber rounds.length)) h
  returned : ∀ rounds h r, rounds.length < n → Rounds p f start rounds h → I rounds h →
    r.Follows p f rounds.length h →
      Returned rounds.length h.cells.size r.after ∧
        I (rounds ++ [r]) (noted rounds.length r.answer r.after)

/-- A loop that comes to its end has made its rounds. -/
theorem exists_rounds {start : Heap} {n turns left : ℕ} {I : List Round → Heap → Prop}
    (hI : Sustained p f start n I) {rounds : List Round} {flow : Flow}
    (hleft : rounds.length + left = n) (hrounds : Rounds p f start rounds h) (hh : I rounds h)
    (hrun : iterate p.step turns (remaining rounds.length left) h = .ok flow h') :
    flow = .next ∧ ∃ all, Rounds p f start all h' ∧ all.length = n ∧ I all h' := by
  induction left generalizing turns rounds h with
  | zero =>
    cases turns with
    | zero => cases hrun
    | succ turns =>
      rw [Run.iterate_result (step_end p _ h)] at hrun
      obtain ⟨rfl, rfl⟩ := EStateM.Result.ok.inj hrun
      exact ⟨rfl, rounds, hrounds, hleft, hh⟩
  | succ left ih =>
    cases turns with
    | zero => cases hrun
    | succ turns =>
      have hlt : rounds.length < n := by omega
      have hready := hI.ready rounds h hlt hrounds hh
      cases hcall : callFor f [(h.table keysPlace).get (slotNumber rounds.length),
          (h.table p.otherPlace).get (slotNumber rounds.length)] (asked p rounds.length h) with
      | error fault h₁ =>
        obtain ⟨fault', hstep⟩ := step_fails hready hcall left
        rw [iterate, Run.bind_error hstep] at hrun
        cases hrun
      | ok ds h₁ =>
        have hnext : Round.Follows p f rounds.length h ⟨_, _, _, ds, h₁⟩ := ⟨rfl, rfl, rfl, hcall⟩
        obtain ⟨hreturned, hh'⟩ := hI.returned rounds h _ hlt hrounds hh hnext
        rw [Run.iterate_next (step_ok hready hcall hreturned left)] at hrun
        have hlength (r : Round) : (rounds ++ [r]).length = rounds.length + 1 := by simp
        rw [← hlength ⟨_, _, _, ds, h₁⟩] at hrun
        exact ih (by rw [hlength]; omega) (.turn hrounds hnext) hh' hrun

/-- A heap in which a phase can start: it counts the keys first. -/
structure Startable (n : ℕ) (h : Heap) : Prop where
  cells_pos : 0 < h.cells.size
  cell : h.cell 0 = .table 0
  keys : (h.table 0).getText keysName = .table keysPlace
  silent : Operation.Unhandled h keysPlace "__len"
  border : (h.table keysPlace).findBorder.1 = n
  few : n < 2 ^ 63

theorem evaluate_count {n : ℕ} (hs : Startable n h) (call : Dispatch) :
    (ofName keysName).length.evaluate call (Env.ofScript none Heap.globalsCell) h =
      .ok [.int (Int64.ofNat n)] (counted h) := by
  have hg : (Env.ofScript none Heap.globalsCell).Global h := ⟨rfl, rfl, hs.cells_pos, hs.cell⟩
  have hname := evaluate_free call 0 hg rfl hs.keys rfl []
  rw [Heap.withCells_nil] at hname
  refine evaluate_unary hname fun call => ?_
  rw [← hs.border]
  exact Operation.length_eq call hs.silent

/-- The slots of the keys. -/
def slots (n : ℕ) : Progression := if n = 0 then .empty else remaining 0 n

theorem execute_slots {n : ℕ} (hs : Startable n h) (p : Phase) :
    (Stmt.numericFor 0 "slot" (.int 1) (ofName keysName).length none p.turn).execute
        (Call.within 189999) (Env.ofScript none Heap.globalsCell) h =
      (do return (← iterate p.step turnLimit (slots n), Env.ofScript none Heap.globalsCell) :
        Run (Flow × Env)) (counted h) := by
  have hone : Expr.evaluate (Call.within 189999) (.int 1)
      (Env.ofScript none Heap.globalsCell) h = .ok [.int 1] h := rfl
  have hfirst (d : Datum) : Operation.first [d] = d := rfl
  rw [Stmt.execute.eq_def]
  refine (Run.bind_ok hone).trans ((Run.bind_ok (evaluate_count hs _)).trans ?_)
  simp only [pure_bind, hfirst, ofBounds_slots hs.few]
  rfl

/-- A phase that succeeds has made a call for each key. -/
theorem exists_rounds_of_script {n : ℕ} {I : List Round → Heap → Prop} (hs : Startable n h)
    (hI : Sustained p f h n I) (hstart : I [] (counted h))
    (hrun : Run.script none p.unit (.table Heap.globals) h = .ok ds h') :
    ∃ rounds, Rounds p f h rounds h' ∧ rounds.length = n ∧ I rounds h' := by
  have hassigns : Block.assigns Env.globalsName p.unit = false := by cases p <;> rfl
  have hmain := (Run.bind_ok (mainFunction_shared none hassigns h)).symm.trans hrun
  rw [main_eq] at hmain
  obtain ⟨result, h₁, henter, hresult⟩ := bind_eq_ok hmain
  rw [enter_script] at henter
  obtain ⟨flow, h₂, hblock, hflow⟩ := bind_eq_ok henter
  rw [Block.execute.eq_def] at hblock
  obtain ⟨⟨flow', env⟩, h₃, hloop, hrest⟩ := bind_eq_ok hblock
  replace hloop := (execute_slots hs p).symm.trans hloop
  obtain ⟨flow'', h₄, hiterate, hend⟩ := bind_eq_ok hloop
  obtain ⟨hpair, rfl⟩ := EStateM.Result.ok.inj hend
  obtain ⟨rfl, rfl⟩ := Prod.mk.inj hpair
  have hrounds : flow'' = .next ∧ ∃ all, Rounds p f h all h₄ ∧ all.length = n ∧ I all h₄ := by
    by_cases hn : n = 0
    · subst hn
      generalize turnLimit = turns at hiterate
      cases turns with
      | zero => cases hiterate
      | succ turns =>
        have hnone : p.step (slots 0) (counted h) = .ok (.inr .next) (counted h) := rfl
        rw [Run.iterate_result hnone] at hiterate
        obtain ⟨rfl, rfl⟩ := EStateM.Result.ok.inj hiterate
        exact ⟨rfl, [], .start, rfl, hstart⟩
    · rw [slots, if_neg hn] at hiterate
      have hleft : ([] : List Round).length + n = n := Nat.zero_add n
      exact exists_rounds hI hleft .start hstart hiterate
  obtain ⟨rfl, rounds, hrounds, hlength, hall⟩ := hrounds
  obtain ⟨rfl, rfl⟩ := EStateM.Result.ok.inj hrest
  obtain ⟨rfl, rfl⟩ := EStateM.Result.ok.inj hflow
  obtain ⟨rfl, rfl⟩ := EStateM.Result.ok.inj hresult
  exact ⟨rounds, hrounds, hlength, hall⟩

end Docbase.MapReduce
