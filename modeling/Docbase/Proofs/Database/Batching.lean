import Docbase.Proofs.Database.Course
import Docbase.Proofs.MapReduce.Batching

/-!
The limit on the size of a unit of script cannot be told from what a job gives or leaves, unless
the functions of the job observe on which lines they are called.
-/
namespace Docbase.Database

open MapReduce

/-- Errors of one kind; those of scripts tell of the same unit. -/
inductive ErrorsAlike : DbError → DbError → Prop
  | same (e : DbError) : ErrorsAlike e e
  | script {e f : ScriptError} (h : SameUnit e f) : ErrorsAlike (.script e) (.script f)

/-- Two runs of a job end alike: with the same outcome or with errors of one kind, and with the
same store. -/
inductive RunsAlike :
    EStateM.Result DbError Store Outcome → EStateM.Result DbError Store Outcome → Prop
  | ok (outcome : Outcome) (s : Store) : RunsAlike (.ok outcome s) (.ok outcome s)
  | error {e f : DbError} (h : ErrorsAlike e f) (s : Store) : RunsAlike (.error e s) (.error f s)

theorem RunsAlike.refl (x : EStateM.Result DbError Store Outcome) : RunsAlike x x := by
  cases x with
  | ok outcome s => exact .ok outcome s
  | error e s => exact .error (.same e) s

/-- A temporary collection goes away at both ends. -/
theorem RunsAlike.during {x y : StoreM Outcome} {s : Store} (h : RunsAlike (x s) (y s))
    (o : Output) : RunsAlike (o.during x s) (o.during y s) := by
  by_cases hinline : o.mode = .inline
  · generalize hx : x s = r at h
    generalize hy : y s = r' at h
    cases h with
    | ok outcome s' =>
      rw [Output.during_ok hinline hx, Output.during_ok hinline hy]
      exact .ok outcome _
    | error he s' =>
      rw [Output.during_error hinline hx, Output.during_error hinline hy]
      exact .error he _
  · rwa [Output.during_eq hinline, Output.during_eq hinline]

end Docbase.Database
