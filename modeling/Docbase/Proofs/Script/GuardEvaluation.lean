import Docbase.Proofs.Script.GuardLibrary
import Docbase.Script.Evaluate

/-!
Scripts under a guard. Code that is admitted with its variables keeps the guard, statement by
statement, and so do calls of functions, as the guard says of each what variables it sees.
-/
namespace Docbase.Script

open Guard

variable {G : Guard} {n m : ℕ} {α : Type} {call call' : Dispatch} {env env' : Env}

namespace Env

theorem goes_declare (env : Env) (names : List String) (ds : List Datum) :
    G.Goes n (env.declare names ds) (env.declare names ds)
      fun env' m => G.Extends m env.visible env'.visible :=
  .andThen (.bindAll names ds env.own env.captured) fun _ _ _ he =>
    .result fun _ hmk => Extends.mono he hmk

theorem goes_apply (hcall : G.Agree call call') (env : Env) (line : ℕ) (f : Datum)
    (args : List Datum) : G.Same n (env.apply call line f args) (env.apply call' line f args) :=
  .placed _ ((hcall _).goes f args)

theorem goes_operate (hcall : G.Agree call call') (env : Env) (line : ℕ) {x : Callee → Run α}
    (hx : ∀ {call call' : Callee}, G.Alike call call' → G.Same n (x call) (x call')) :
    G.Same n (env.operate call line x) (env.operate call' line x) :=
  .placed _ (hx (hcall _))

theorem goes_globals (env : Env) : G.Same n env.globals env.globals := by
  unfold globals
  split
  · exact .readCell _
  · exact .pure _

theorem goes_read (hcall : G.Agree call call') (env : Env) (line : ℕ) (x : String) :
    G.Same n (read call env line x) (read call' env line x) := by
  unfold read
  split
  · exact .readCell _
  · exact .bind env.goes_globals fun _ =>
      env.goes_operate hcall line fun hcall => Operation.goes_index hcall _ _

theorem mem_of_lookup {x : String} {c : ℕ} {vars : List (String × ℕ)}
    (hx : vars.lookup x = some c) : (x, c) ∈ vars := by
  obtain ⟨before, after, rfl, -⟩ := List.lookup_eq_some_iff.mp hx
  simp

/-- The cell of a variable is one of those in sight. -/
theorem mem_of_cell? {x : String} {c : ℕ} (hx : env.cell? x = some c) : (x, c) ∈ env.visible := by
  unfold cell? at hx
  unfold visible
  cases hown : env.own.lookup x with
  | some own =>
    rw [hown, Option.some.injEq] at hx
    exact List.mem_append_left _ (hx ▸ mem_of_lookup hown)
  | none =>
    rw [hown] at hx
    exact List.mem_append_right _ (mem_of_lookup hx)

end Env

/-! Assignments. -/

theorem Operand.goes_read (o : Operand) : G.Same n o.read o.read := by
  cases o with
  | value d => exact .pure _
  | «variable» c => exact .readCell c

theorem Operand.goes_settle (c : ℕ) (o : Operand) : G.Same n (o.settle c) (o.settle c) := by
  unfold settle
  split
  · split
    · exact .bind (.readCell _) fun _ => .pure _
    · exact .pure _
  · exact .pure _

namespace Place

/-- Whether a place is none of the guarded cells. -/
def Spares (G : Guard) : Place → Prop
  | .cell c => ¬G.Watches c
  | .slot _ _ => True

theorem goes_settle (c : ℕ) {p : Place} (hp : p.Spares G) :
    G.Goes n (p.settle c) (p.settle c) fun q _ => q.Spares G := by
  cases p with
  | cell _ => exact .result fun _ _ => hp
  | slot object key =>
    exact .bind (object.goes_settle c) fun _ => .bind (key.goes_settle c) fun _ =>
      .result fun _ _ => trivial

theorem goes_settleAll (c : ℕ) {ps : List Place} (hps : ∀ p ∈ ps, p.Spares G) :
    G.Goes n (ps.mapM fun p => p.settle c) (ps.mapM fun p => p.settle c)
      fun qs _ => ∀ q ∈ qs, q.Spares G := by
  induction ps with
  | nil => exact .result fun _ _ q hq => absurd hq List.not_mem_nil
  | cons p ps ih =>
    rw [List.mapM_cons]
    refine .andThen (goes_settle c (hps p (by simp))) fun q m hnm hq => ?_
    refine .andThen ((ih fun p hp => hps p (by simp [hp])).mono hnm) fun qs k _ hqs => ?_
    exact .result fun _ _ r hr => (List.mem_cons.mp hr).elim (fun he => he ▸ hq) (hqs r)

theorem goes_write (hcall : G.Agree call call') (env : Env) (line : ℕ) (d : Datum) {p : Place}
    (hp : p.Spares G) : G.Same n (p.write call env line d) (p.write call' env line d) := by
  cases p with
  | cell c => exact .writeCell (fun v hv => hp ⟨_, hv⟩) d
  | slot object key =>
    exact .bind object.goes_read fun _ => .bind key.goes_read fun _ =>
      env.goes_operate hcall line fun hcall => Operation.goes_setIndex hcall _ _ _

theorem goes_writeAll (hcall : G.Agree call call') (env : Env) (line : ℕ)
    {writes : List (Place × Datum)} (hw : ∀ w ∈ writes, w.1.Spares G) :
    G.Same n (writeAll call env line writes) (writeAll call' env line writes) := by
  induction writes with
  | nil => exact .pure _
  | cons w writes ih =>
    exact .bind (goes_write hcall env line w.2 (hw w (by simp))) fun _ =>
      ih fun v hv => hw v (by simp [hv])

end Place

theorem Env.goes_globalPlace (env : Env) (x : String) :
    G.Goes n (env.globalPlace x) (env.globalPlace x) fun p _ => p.Spares G := by
  unfold globalPlace
  dsimp only
  split
  · exact .result fun _ _ => trivial
  · split
    · exact .result fun _ _ => trivial
    · exact .bind (.readCell _) fun _ => .result fun _ _ => trivial
  · exact .result fun _ _ => trivial

/-! Code. -/

/-- A statement that is no label runs before the rest of its block. -/
theorem Block.execute_cons_eq {s : Stmt} (hs : ∀ name, s ≠ .label name) (rest : Block)
    (atEnd : Env → Run Flow) :
    Block.execute call (s :: rest) env atEnd = (do
      match ← s.execute call env with
      | (.next, env) => Block.execute call rest env atEnd
      | (.jumped label, env) => Block.executeFrom call label rest env atEnd
      | (flow, _) => return flow) := by
  cases s with
  | label name => exact absurd rfl (hs name)
  | _ => rfl

theorem Block.executeFrom_cons_eq {s : Stmt} (hs : ∀ name, s ≠ .label name) (label : String)
    (rest : Block) (atEnd : Env → Run Flow) :
    Block.executeFrom call label (s :: rest) env atEnd =
      Block.executeFrom call label rest env atEnd := by
  cases s with
  | label name => exact absurd rfl (hs name)
  | _ => rfl

/-- A block may end as it does for any variables that have come up in it. -/
def Guard.Ends (G : Guard) (n : ℕ) (env : Env) (atEnd atEnd' : Env → Run Flow) : Prop :=
  ∀ env' m, n ≤ m → G.Extends m env.visible env'.visible → G.Same m (atEnd env') (atEnd' env')

theorem Guard.ends_atBlockEnd : G.Ends n env atBlockEnd atBlockEnd := fun _ _ _ _ => .pure _

theorem Guard.Ends.extend {atEnd atEnd' : Env → Run Flow} (hend : G.Ends n env atEnd atEnd')
    (hnm : n ≤ m) (he : G.Extends m env.visible env'.visible) : G.Ends m env' atEnd atEnd' :=
  fun inner k hmk hinner => hend inner k (hnm.trans hmk) (he.trans hmk hinner)

mutual

theorem Expr.goes_evaluate (hcall : G.Agree call call') : ∀ (e : Expr) (n : ℕ) (env : Env),
    G.Admits n env.visible (fun x => e.assigns x) →
      G.Same n (e.evaluate call env) (e.evaluate call' env)
  | .nil, _, _, _ | .boolean _, _, _, _ | .int _, _, _, _ | .double _, _, _, _ | .text _, _, _, _
  | .varargs, _, _, _ => .pure _
  | .function _ _ _, _, _, ha => .bind (.newClosure ha) fun _ => .pure _
  | .name line x, _, env, _ => .bind (env.goes_read hcall line x) fun _ => .pure _
  | .index line object key, n, env, ha => by
    have hobject := Expr.goes_evaluate hcall object n env (.left ha)
    have hkey := Expr.goes_evaluate hcall key n env (.right ha)
    have hindex (o k : Datum) : G.Same n
        (do return [← env.operate call line fun call => Operation.index call o k])
        (do return [← env.operate call' line fun call => Operation.index call o k]) :=
      .bind (env.goes_operate hcall line fun hcall => Operation.goes_index hcall o k)
        fun _ => .pure _
    simp only [Expr.evaluate]
    split
    · exact .bind hkey fun _ => .bind (.readCell _) fun _ => hindex _ _
    · exact .bind hobject fun _ => .bind hkey fun _ => hindex _ _
  | .call line f args, n, env, ha =>
    .bind (Expr.goes_evaluate hcall f n env (.left ha)) fun _ =>
      .bind (Expr.goes_evaluateAll hcall args n env (.right ha)) fun _ =>
        env.goes_apply hcall line _ _
  | .method line object name args, n, env, ha =>
    .bind (Expr.goes_evaluate hcall object n env (.left ha)) fun _ =>
      .bind (env.goes_operate hcall line fun hcall => Operation.goes_index hcall _ _) fun _ =>
        .bind (Expr.goes_evaluateAll hcall args n env (.right ha)) fun _ =>
          env.goes_apply hcall line _ _
  | .unary line op a, n, env, ha =>
    .bind (Expr.goes_evaluate hcall a n env ha) fun _ =>
      .bind (env.goes_operate hcall line fun hcall => Operation.goes_unary hcall op _)
        fun _ => .pure _
  | .binary line op a b, n, env, ha => by
    have hleft := Expr.goes_evaluate hcall a n env (.left ha)
    have hright := Expr.goes_evaluate hcall b n env (.right ha)
    have hbinary (x y : Datum) : G.Same n
        (do return [← env.operate call line fun call => Operation.binary call op x y])
        (do return [← env.operate call' line fun call => Operation.binary call op x y]) :=
      .bind (env.goes_operate hcall line fun hcall => Operation.goes_binary hcall op x y)
        fun _ => .pure _
    simp only [Expr.evaluate]
    split
    · exact .bind hright fun _ => .bind (.readCell _) fun _ => hbinary _ _
    · exact .bind hleft fun _ => .bind hright fun _ => hbinary _ _
  | .and a b, n, env, ha => by
    refine .bind (Expr.goes_evaluate hcall a n env (.left ha)) fun x => ?_
    dsimp only
    split
    · exact .bind (Expr.goes_evaluate hcall b n env (.right ha)) fun _ => .pure _
    · exact .pure _
  | .or a b, n, env, ha => by
    refine .bind (Expr.goes_evaluate hcall a n env (.left ha)) fun x => ?_
    dsimp only
    split
    · exact .pure _
    · exact .bind (Expr.goes_evaluate hcall b n env (.right ha)) fun _ => .pure _
  | .table line items, n, env, ha =>
    .bind (.allocate _) fun place =>
      .bind (Item.goes_storeAll hcall items place line n env #[] 0 ha) fun _ => .pure _
  | .paren e, n, env, ha => .bind (Expr.goes_evaluate hcall e n env ha) fun _ => .pure _

theorem Expr.goes_evaluateAll (hcall : G.Agree call call') : ∀ (es : List Expr) (n : ℕ) (env : Env),
    G.Admits n env.visible (fun x => Expr.anyAssigns x es) →
      G.Same n (Expr.evaluateAll call es env) (Expr.evaluateAll call' es env)
  | [], _, _, _ => .pure _
  | [e], n, env, ha => Expr.goes_evaluate hcall e n env (.left ha)
  | e :: f :: es, n, env, ha =>
    .bind (Expr.goes_evaluate hcall e n env (.left ha)) fun _ =>
      .bind (Expr.goes_evaluateAll hcall (f :: es) n env (.right ha)) fun _ => .pure _

theorem Item.goes_storeAll (hcall : G.Agree call call') :
    ∀ (items : List Item) (place line n : ℕ) (env : Env) (waiting : Array Datum) (filled : ℕ),
    G.Admits n env.visible (fun x => Item.anyAssigns x items) →
      G.Same n (Item.storeAll call place line items env waiting filled)
        (Item.storeAll call' place line items env waiting filled)
  | [], _, _, _, _, _, _, _ => .modifyTable _ _
  | .positional e :: rest, place, line, n, env, waiting, filled, ha => by
    have he := Expr.goes_evaluate hcall e n env (.left ha)
    have hrest (waiting : Array Datum) (filled : ℕ) :=
      Item.goes_storeAll hcall rest place line n env waiting filled (.right ha)
    exact .when _ (.modifyTable _ _) (.bind he fun _ => hrest _ _)
  | .keyed key e :: rest, place, line, n, env, waiting, filled, ha => by
    have ha' : G.Admits n env.visible fun x =>
      (key.assigns x || e.assigns x) || Item.anyAssigns x rest := ha
    have hkey := Expr.goes_evaluate hcall key n env ha'.left.left
    have he := Expr.goes_evaluate hcall e n env ha'.left.right
    have hrest (waiting : Array Datum) (filled : ℕ) :=
      Item.goes_storeAll hcall rest place line n env waiting filled ha'.right
    have hstore (k d : Datum) : G.Same n (Run.placed (env.frame line) (Run.rawSet place k d))
        (Run.placed (env.frame line) (Run.rawSet place k d)) := .placed _ (.rawSet _ _ _)
    refine .when _ (.modifyTable _ _) ?_
    dsimp only
    split
    · exact .bind he fun _ => .bind (.readCell _) fun _ => .bind (hstore _ _) fun _ => hrest _ _
    · exact .bind hkey fun _ => .bind he fun _ => .bind (hstore _ _) fun _ => hrest _ _

end

theorem Target.goes_places (hcall : G.Agree call call') (targets : List Target)
    {earlier : List Place} (hearlier : ∀ p ∈ earlier, p.Spares G)
    (ha : G.Admits n env.visible fun x => Target.anyAssigns x targets) :
    G.Goes n (Target.places call targets env earlier) (Target.places call' targets env earlier)
      fun ps _ => ∀ p ∈ ps, p.Spares G := by
  induction targets generalizing n earlier with
  | nil => exact .result fun _ _ => hearlier
  | cons target targets ih =>
    have hcons {p : Place} {ps : List Place} {m : ℕ} (hnm : n ≤ m) (hp : p.Spares G)
        (hps : ∀ p ∈ ps, p.Spares G) (ha : G.Admits n env.visible fun x =>
          Target.anyAssigns x targets) :
        G.Goes m (Target.places call targets env (p :: ps))
          (Target.places call' targets env (p :: ps)) fun ps _ => ∀ p ∈ ps, p.Spares G :=
      ih (fun q hq => (List.mem_cons.mp hq).elim (fun he => he ▸ hp) (hps q)) (ha.mono hnm)
    cases target with
    | name x =>
      have ha' : G.Admits n env.visible fun y => y == x || Target.anyAssigns y targets := ha
      simp only [Target.places]
      split
      · next c hc =>
        have hspares : ¬G.Watches c := fun hw => by
          simpa using (ha'.left _ (Env.mem_of_cell? hc)).2 hw
        exact .andThen (Place.goes_settleAll c hearlier) fun ps m hnm hps =>
          hcons hnm hspares hps ha'.right
      · exact .andThen (env.goes_globalPlace x) fun p m hnm hp => hcons hnm hp hearlier ha'.right
    | index object key =>
      have ha' : G.Admits n env.visible fun x =>
        (object.assigns x || key.assigns x) || Target.anyAssigns x targets := ha
      have hobject := Expr.goes_evaluate hcall object n env ha'.left.left
      have hkey := Expr.goes_evaluate hcall key n env ha'.left.right
      have hslot (o k : Operand) : G.Goes n
          (Target.places call targets env (.slot o k :: earlier))
          (Target.places call' targets env (.slot o k :: earlier))
          fun ps _ => ∀ p ∈ ps, p.Spares G :=
        hcons le_rfl trivial hearlier ha'.right
      simp only [Target.places]
      split
      on_goal 3 => refine .bind hobject fun o => ?_
      all_goals
        refine .bind ?_ fun k => ?_
        · split
          · exact .pure _
          · exact .bind hkey fun _ => .pure _
      · exact hslot _ _
      · split
        · exact hslot _ _
        · exact .bind (.readCell _) fun _ => hslot _ _
      · exact hslot _ _

theorem Expr.goes_giveBack (hcall : G.Agree call call') (es : List Expr)
    (ha : G.Admits n env.visible fun x => Expr.anyAssigns x es) :
    G.Same n (Expr.giveBack call es env) (Expr.giveBack call' es env) := by
  have hhand (line : ℕ) (g : Datum) (ds : List Datum) : G.Same n
      (if env.mayTail then return Flow.handedOn line g ds
        else return Flow.returned (← env.apply call line g ds))
      (if env.mayTail then return Flow.handedOn line g ds
        else return Flow.returned (← env.apply call' line g ds)) := by
    split
    · exact .pure _
    · exact .bind (env.goes_apply hcall line g ds) fun _ => .pure _
  rw [Expr.giveBack.eq_def, Expr.giveBack.eq_def]
  split
  · have ha := ha.left
    split
    · exact .bind (Expr.goes_evaluate hcall _ n env ha.left) fun g =>
        .bind (Expr.goes_evaluateAll hcall _ n env ha.right) fun ds => hhand _ _ _
    · exact .bind (Expr.goes_evaluate hcall _ n env ha.left) fun o =>
        .bind (env.goes_operate hcall _ fun hcall => Operation.goes_index hcall _ _) fun g =>
          .bind (Expr.goes_evaluateAll hcall _ n env ha.right) fun ds => hhand _ _ _
    · exact .bind (Expr.goes_evaluate hcall _ n env ha) fun _ => .pure _
  · exact .bind (Expr.goes_evaluateAll hcall _ n env ha) fun _ => .pure _

mutual

theorem Stmt.goes_execute (hcall : G.Agree call call') : ∀ (s : Stmt) (n : ℕ) (env : Env),
    G.Admits n env.visible (fun x => s.assigns x) →
      G.Goes n (s.execute call env) (s.execute call' env)
        fun r m => G.Extends m env.visible r.2.visible
  | .declare names values, n, env, ha =>
    .bind (Expr.goes_evaluateAll hcall values n env ha) fun _ =>
      .andThen (env.goes_declare _ _) fun _ _ _ he => .result fun _ hmk => he.mono hmk
  | .assign line targets values, n, env, ha =>
    .andThen (Target.goes_places hcall targets (by simp) ha.left) fun places m hnm hplaces =>
      .bind (Expr.goes_evaluateAll hcall values m env (ha.right.mono hnm)) fun ds =>
        .bind (Place.goes_writeAll hcall env line fun w hw => hplaces _ (List.of_mem_zip hw).1)
          fun _ => .result fun _ _ => .refl G _ _
  | .call e, n, env, ha => .bind (Expr.goes_evaluate hcall e n env ha) fun _ =>
      .result fun _ _ => .refl G _ _
  | .block body, n, env, ha =>
    .bind (Block.goes_execute hcall body n env _ _ ha ends_atBlockEnd) fun _ =>
      .result fun _ _ => .refl G _ _
  | .whileLoop condition body, n, env, ha => by
    refine .bind (.iterate (fun _ => .bind (Expr.goes_evaluate hcall condition n env ha.left)
      fun d => ?_) _ _) fun _ => .result fun _ _ => .refl G _ _
    split
    · exact .bind (Block.goes_execute hcall body n env _ _ ha.right ends_atBlockEnd) fun _ =>
        .pure _
    · exact .pure _
  | .repeatLoop body condition, n, env, ha => by
    refine .bind (.iterate (fun _ => .bind (Block.goes_execute hcall body n env _ _ ha.left
      fun inner m hnm he => .bind (Expr.goes_evaluate hcall condition m inner
        (ha.right.extend hnm he)) fun d => ?_) fun _ => .pure _) _ _)
      fun _ => .result fun _ _ => .refl G _ _
    split <;> exact .pure _
  | .branch condition whenTrue whenFalse, n, env, ha => by
    have ha' : G.Admits n env.visible fun x =>
      (condition.assigns x || Block.assigns x whenTrue) || Block.assigns x whenFalse := ha
    have htrue := Block.goes_execute hcall whenTrue n env _ _ ha'.left.right ends_atBlockEnd
    have hfalse := Block.goes_execute hcall whenFalse n env _ _ ha'.right ends_atBlockEnd
    refine .bind (Expr.goes_evaluate hcall condition n env ha'.left.left) fun d => ?_
    split
    · exact .bind htrue fun _ => .result fun _ _ => .refl G _ _
    · exact .bind hfalse fun _ => .result fun _ _ => .refl G _ _
  | .numericFor line x start limit step body, n, env, ha => by
    have hadmits : G.Admits n env.visible fun x => Block.assigns x body := by
      cases step with
      | none => exact ha.right
      | some step => exact ha.right
    have hbody {inner : Env} {m : ℕ} (hnm : n ≤ m) (he : G.Extends m env.visible inner.visible) :=
      Block.goes_execute hcall body m inner _ _ (hadmits.extend hnm he) ends_atBlockEnd
    have hloop (s l d : Datum) : G.Goes n
        (match Progression.ofBounds s l d with
          | .error message => Run.placed (env.frame line) (Run.fail message)
          | .ok progression => do
            let turn (p : Progression) : Run (Progression ⊕ Flow) := do
              match p.next? with
              | none => return .inr .next
              | some (value, rest) =>
                let inner ← env.declare [x] [value]
                return (← Block.execute call body inner atBlockEnd).turn rest
            return (← iterate turn turnLimit progression, env))
        (match Progression.ofBounds s l d with
          | .error message => Run.placed (env.frame line) (Run.fail message)
          | .ok progression => do
            let turn (p : Progression) : Run (Progression ⊕ Flow) := do
              match p.next? with
              | none => return .inr .next
              | some (value, rest) =>
                let inner ← env.declare [x] [value]
                return (← Block.execute call' body inner atBlockEnd).turn rest
            return (← iterate turn turnLimit progression, env))
        fun r m => G.Extends m env.visible r.2.visible := by
      split
      · exact .placed _ (.fail _)
      · refine .bind (.iterate (fun p => ?_) _ _) fun _ => .result fun _ _ => .refl G _ _
        split
        · exact .pure _
        · exact .andThen (env.goes_declare _ _) fun inner m hnm he =>
            .bind (hbody hnm he) fun _ => .pure _
    cases step with
    | none =>
      have ha' : G.Admits n env.visible fun x =>
        ((start.assigns x || limit.assigns x) || false) || Block.assigns x body := ha
      exact .bind (Expr.goes_evaluate hcall start n env ha'.left.left.left) fun s =>
        .bind (Expr.goes_evaluate hcall limit n env ha'.left.left.right) fun l => hloop _ _ _
    | some step =>
      have ha' : G.Admits n env.visible fun x =>
        ((start.assigns x || limit.assigns x) || step.assigns x) || Block.assigns x body := ha
      exact .bind (Expr.goes_evaluate hcall start n env ha'.left.left.left) fun s =>
        .bind (Expr.goes_evaluate hcall limit n env ha'.left.left.right) fun l =>
          .bind (Expr.goes_evaluate hcall step n env ha'.left.right) fun d => hloop _ _ _
  | .genericFor line names values body, n, env, ha => by
    refine .bind (Expr.goes_evaluateAll hcall values n env ha.left) fun ds =>
      .when _ (.placed _ (.fail _)) ?_
    have hnext (control : Datum) : G.Same n
        (env.operate call line fun call => call (ds.getD 0 .nil) [ds.getD 1 .nil, control])
        (env.operate call' line fun call => call (ds.getD 0 .nil) [ds.getD 1 .nil, control]) :=
      env.goes_operate hcall line fun hcall => hcall.goes _ _
    refine .bind (.iterate (fun control => .bind (hnext control) fun results => ?_) _ _)
      fun _ => .result fun _ _ => .refl G _ _
    dsimp only
    split
    · exact .pure _
    · exact .andThen (Env.goes_declare _ _ _) fun inner m hnm he =>
        .bind (Block.goes_execute hcall body m inner _ _ (ha.right.extend hnm he) ends_atBlockEnd)
          fun _ => .pure _
  | .localFunction name params variadic body, n, env, ha => by
    simp only [Stmt.execute, Env.declare, Run.bindAll, bind_assoc, pure_bind]
    refine .andThen (.newCell _) fun c m hnm hc => ?_
    have he : G.Extends m env.visible ((name, c) :: env.visible) := .cons hc.1 hc.2 _
    refine .bind (.newClosure (ha.extend hnm he)) fun f => ?_
    have hlookup : List.lookup name ((name, c) :: env.own) = some c := List.lookup_cons_self
    simp only [hlookup]
    exact .bind (.writeCell (fun v hv => hc.2 ⟨_, hv⟩) f) fun _ => .result fun k hmk => he.mono hmk
  | .giveBack values, n, env, ha => .bind (Expr.goes_giveBack hcall values ha) fun _ =>
      .result fun _ _ => .refl G _ _
  | .leave, _, _, _ | .jump _, _, _, _ | .label _, _, _, _ => .result fun _ _ => .refl G _ _

theorem Block.goes_execute (hcall : G.Agree call call') : ∀ (body : List Stmt) (n : ℕ) (env : Env)
    (atEnd atEnd' : Env → Run Flow),
    G.Admits n env.visible (fun x => Block.assigns x body) → G.Ends n env atEnd atEnd' →
      G.Same n (Block.execute call body env atEnd) (Block.execute call' body env atEnd')
  | [], n, env, _, _, _, hend => hend env n le_rfl (.refl G _ _)
  | s :: rest, n, env, atEnd, atEnd', ha, hend => by
    have hrest {env' : Env} {m : ℕ} (hnm : n ≤ m) (he : G.Extends m env.visible env'.visible) :=
      Block.goes_execute hcall rest m env' _ _ (ha.right.extend hnm he) (hend.extend hnm he)
    have hfrom {env' : Env} {m : ℕ} (hnm : n ≤ m) (he : G.Extends m env.visible env'.visible)
        (label : String) :=
      Block.goes_executeFrom hcall label rest m env' _ _ (ha.right.extend hnm he)
        (hend.extend hnm he)
    have hs := Stmt.goes_execute hcall s n env ha.left
    by_cases hlabel : ∃ name, s = .label name
    · obtain ⟨name, rfl⟩ := hlabel
      refine .iterate (fun _ => .bind (hrest le_rfl (.refl G _ _)) fun flow => ?_) _ _
      split <;> exact .pure _
    · push Not at hlabel
      rw [Block.execute_cons_eq hlabel, Block.execute_cons_eq hlabel]
      refine .andThen hs fun r m hnm he => ?_
      split
      · exact hrest hnm he
      · exact hfrom hnm he _
      · exact .pure _

theorem Block.goes_executeFrom (hcall : G.Agree call call') (label : String) :
    ∀ (body : List Stmt) (n : ℕ) (env : Env) (atEnd atEnd' : Env → Run Flow),
    G.Admits n env.visible (fun x => Block.assigns x body) → G.Ends n env atEnd atEnd' →
      G.Same n (Block.executeFrom call label body env atEnd)
        (Block.executeFrom call' label body env atEnd')
  | [], n, env, _, _, _, hend => .pure _
  | s :: rest, n, env, atEnd, atEnd', ha, hend => by
    have hfrom := Block.goes_executeFrom hcall label rest n env _ _ ha.right hend
    by_cases hlabel : ∃ name, s = .label name
    · obtain ⟨name, rfl⟩ := hlabel
      simp only [Block.executeFrom]
      split
      · refine .iterate (fun _ => .bind (Block.goes_execute hcall rest n env _ _ ha.right hend)
          fun flow => ?_) _ _
        split <;> exact .pure _
      · exact hfrom
    · push Not at hlabel
      rw [Block.executeFrom_cons_eq hlabel, Block.executeFrom_cons_eq hlabel]
      exact hfrom

end

/-! Calls. -/

namespace Call

theorem goes_enter (hcall : G.Agree call call') (trace : Trace) {c : Closure}
    (hc : G.Admits n c.captured fun x => Block.assigns x c.body) (args : List Datum) :
    G.Same n (enter call trace c args) (enter call' trace c args) := by
  refine .andThen (Env.goes_declare _ _ _) fun env m hnm he =>
    .bind (Block.goes_execute hcall c.body m env _ _ (hc.extend hnm he) ends_atBlockEnd)
      fun flow => ?_
  split <;> exact .pure _

/-- Whether a function keeps a guard that names it. -/
def Admitted (G : Guard) (call call' : Dispatch) (c : Closure) : Prop :=
  ∀ n, (∀ v ∈ c.captured, v.2 < n) → ∀ trace args,
    G.Same n (enter call trace c args) (enter call' trace c args)

/-- The guard says of all functions but those that it names what variables they see. -/
theorem goes_step (hcall : G.Agree call call') (trace : Trace) (p : Pending)
    (hfunctions : ∀ f ∈ G.functions, p.f = .closure f.1 → Admitted G call call' f.2) :
    G.Same n (step call trace p) (step call' trace p) := by
  unfold step
  split
  · next place hplace =>
    refine .andThen (.readClosure place) fun c m _ hc => ?_
    rcases hc with ⟨hf, hcaptured⟩ | hc
    · exact hfunctions _ hf hplace m hcaptured trace _
    · exact goes_enter hcall trace hc _
  · exact .bind (.placed _ (Primitive.goes_apply (hcall _) _ _ _)) fun _ => .pure _
  · refine .bind (Operation.goes_metamethod _ "__call") fun handler => ?_
    split
    · exact .placed _ (.fail _)
    · exact .pure _

end Call

end Docbase.Script
