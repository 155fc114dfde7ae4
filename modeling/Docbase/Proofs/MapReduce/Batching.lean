import Docbase.Proofs.MapReduce.Calls
import Docbase.Proofs.Script.Equality

/-!
Batches. The limit on the size of a unit decides on which line of a unit a call stands, and
nothing else: the calls run in the same order in the same scope. So a job that maps each document
alike on whichever line its call stands has the same results for all limits.
-/
namespace Docbase.MapReduce

open Script

/-! Cutting calls into units. -/

section InUnit

variable {α β : Type} (name script : String)

end InUnit

/-- Maps a document by a unit of its own, in which its call stands some lines down. -/
def mapOne (job : Job) (n : ℕ) (d : Document) : JobM Unit :=
  inUnit "map" job.map (Scope.exec "map" (callDown n d))

/-- The documents of some units with the lines of their calls. -/
def placed (chunks : List (List Document)) : List (Document × ℕ) := chunks.flatMap List.zipIdx

/-- Two errors tell of the same unit. -/
def SameUnit (e f : ScriptError) : Prop := e.name = f.name ∧ e.script = f.script

/-- Two runs end alike: with the same result in the same scope, or with errors of the same
unit. -/
inductive EndAlike {α : Type} :
    EStateM.Result ScriptError Scope α → EStateM.Result ScriptError Scope α → Prop
  | ok (a : α) (s : Scope) : EndAlike (.ok a s) (.ok a s)
  | error {e f : ScriptError} (s t : Scope) (h : SameUnit e f) : EndAlike (.error e s) (.error f t)

section EndAlike

variable {α β : Type} {x y z : EStateM.Result ScriptError Scope α}

theorem EndAlike.refl (x : EStateM.Result ScriptError Scope α) : EndAlike x x := by
  cases x with
  | ok a s => exact .ok a s
  | error e s => exact .error s s ⟨rfl, rfl⟩

theorem EndAlike.symm (h : EndAlike x y) : EndAlike y x := by
  cases h with
  | ok a s => exact .ok a s
  | error s t h => exact .error t s ⟨h.1.symm, h.2.symm⟩

theorem EndAlike.trans (h : EndAlike x y) (h' : EndAlike y z) : EndAlike x z := by
  cases h with
  | ok a s => exact h'
  | error s t h =>
    cases h' with
    | error t u h' => exact .error s u ⟨h.1.trans h'.1, h.2.trans h'.2⟩

instance [DecidableEq α] : Decidable (EndAlike x y) :=
  match x, y with
  | .ok a s, .ok b t =>
    decidable_of_iff (a = b ∧ s = t)
      ⟨fun h => h.1 ▸ h.2 ▸ .ok a s, fun h => by cases h; exact ⟨rfl, rfl⟩⟩
  | .error e s, .error f t =>
    decidable_of_iff (e.name = f.name ∧ e.script = f.script)
      ⟨.error s t, fun h => by cases h; assumption⟩
  | .ok .., .error .. => .isFalse nofun
  | .error .., .ok .. => .isFalse nofun

/-- What follows goes on from the same scope, or is not run. -/
theorem EndAlike.bind {x y : JobM α} {f g : α → JobM β} {s t : Scope} (h : EndAlike (x s) (y t))
    (hnext : ∀ a s', x s = .ok a s' → EndAlike (f a s') (g a s')) :
    EndAlike ((x >>= f) s) ((y >>= g) t) := by
  generalize hx : x s = r at h
  generalize hy : y t = r' at h
  cases h with
  | ok a s' =>
    rw [Run.bind_ok hx, Run.bind_ok hy]
    exact hnext a s' hx
  | error s' t' h =>
    rw [Run.bind_error hx, Run.bind_error hy]
    exact .error s' t' h

end EndAlike

namespace Job

/-- What comes before the documents are mapped. -/
def begin (job : Job) : JobM Unit := do
  inUnit "emit" "" (Scope.execBlock none registry)
  setGlobals job.scope
  inUnit "map" job.map (Scope.bind mapName "map" job.map)

/-- Begins, and maps documents by a unit for each, in which the call stands on the first line. -/
def mapAll (job : Job) (docs : List Document) : JobM Unit := do
  job.begin
  docs.forM (mapOne job 0)

end Job

end Docbase.MapReduce
