import Docbase.Proofs.Database.Course

/-!
Calls that fail write nothing. A batch that is refused and a search that fails leave the
documents as they were. A job fails either before it touches the store, or once its destination
is ready: then all it can leave is an empty collection that was made or cleared for its results.
-/
namespace Docbase.Database

open MapReduce

/-- What a job leaves of the store when it fails once it runs. -/
def leftovers (o : Output) (s : Store) : Store :=
  match o.mode with
  | .replace => (s.create o.collection).put o.collection .empty
  | .merge | .reduce => s.create o.collection
  | .inline => s

theorem leftovers_eq (o : Output) (s : Store) (h : o.mode ≠ .inline) :
    leftovers o s = o.prepared s := by
  unfold leftovers Output.prepared Output.isCleared
  cases hmode : o.mode with
  | inline => exact absurd hmode h
  | replace | merge | reduce => rfl

theorem leftovers_of_during (settings : Settings) (job : Job) (o : Output) (docs : List Document)
    (s s' : Store) (e : DbError) (hnew : o.mode = .inline → s.has o.collection = false)
    (h : o.during (runJob settings job o docs) s = .error e s') :
    e.IsLate ∧ s' = leftovers o s := by
  by_cases hinline : o.mode = .inline
  · rcases runJob_cases settings job o docs s with
      ⟨e', hlate, hrun, -⟩ | ⟨rs, n, s₁, found, -, -, -, -, hrun⟩
    · rw [Output.during_error hinline hrun, EStateM.Result.error.injEq] at h
      obtain ⟨rfl, rfl⟩ := h
      rw [(o.writes_prepared s).same.drop_eq (hnew hinline), leftovers, hinline]
      exact ⟨hlate, rfl⟩
    · cases (Output.during_ok hinline hrun).symm.trans h
  · rw [Output.during_eq hinline] at h
    rcases runJob_cases settings job o docs s with
      ⟨e', hlate, hrun, -⟩ | ⟨rs, n, s₁, found, -, -, -, -, hrun⟩
    · rw [hrun, EStateM.Result.error.injEq] at h
      obtain ⟨rfl, rfl⟩ := h
      exact ⟨hlate, (leftovers_eq o s hinline).symm⟩
    · cases hrun.symm.trans h

/-- A batch that is refused leaves at most a new empty collection, and a search that fails leaves
nothing. A job that is refused leaves the store as it was, like any job that ends with an error
about itself or its query. Any other job that fails leaves its destination: cleared, if its
results were to replace what was there, and otherwise as it was or new and empty. Nothing is
left of an inline job. -/
theorem failures_write_nothing (s : Store) :
    (∀ name docs e s', insertMany name docs s = .error e s' → s' = s.create name) ∧
      (∀ name options e s', find name options s = .error e s' → s' = s) ∧
      ∀ settings name job, s.has (Output.temporary s.ids.next) = false →
        (Refused name job s → ∃ e, mapReduce settings name job s = .error e s) ∧
        ∀ e s', mapReduce settings name job s = .error e s' →
          ((∃ cause, e = .invalidJob cause) ∨ (∃ cause, e = .query cause) → s' = s) ∧
          (¬Refused name job s → ∃ output docs, Accepted name job s output docs ∧
            s' = leftovers output s) := by
  refine ⟨fun name docs e s' h => ?_, fun name options e s' h => ?_,
    fun settings name job hnew => ⟨fun hrefused => ?_, fun e s' h => ?_⟩⟩
  · rcases bind_eq_error h with hcreate | ⟨_, s₁, hcreate, hinsert⟩
    · cases hcreate
    · cases hcreate
      rcases StoreM.ofStore_cases (fun s => s.insertMany name docs) (s.create name) with
        ⟨e', -, herror⟩ | ⟨_, _, -, hok⟩
      · cases herror.symm.trans hinsert
        rfl
      · cases hok.symm.trans hinsert
  · rcases find_cases name options s with ⟨-, docs, hok⟩ | ⟨-, e', herror⟩
    · cases hok.symm.trans h
    · cases herror.symm.trans h
      rfl
  · rcases mapReduce_cases settings name job s with ⟨-, herror⟩ | ⟨hnot, -⟩
    · exact herror
    · exact absurd hrefused hnot
  · rcases mapReduce_cases settings name job s with
      ⟨hrefused, e', herror⟩ | ⟨-, output, docs, haccepted, hrun⟩
    · cases herror.symm.trans h
      exact ⟨fun _ => rfl, fun hnot => absurd hrefused hnot⟩
    · have htemporary : output.mode = .inline → s.has output.collection = false := by
        intro hinline
        rw [temporary_of_inline _ _ output haccepted.parsed hinline]
        exact hnew
      obtain ⟨hlate, hleft⟩ :=
        leftovers_of_during settings job output docs s s' e htemporary (hrun.symm.trans h)
      refine ⟨?_, fun _ => ⟨output, docs, haccepted, hleft⟩⟩
      rintro (⟨cause, rfl⟩ | ⟨cause, rfl⟩)
      · exact absurd hlate id
      · exact absurd hlate id

/-- A job whose map function is no function, with the source as its destination. -/
def unreadableJob : Job := { map := "(", reduce := "f", out := .string "a" }

/-- The source of a job that is cleared for results which never come. -/
theorem failures_write_nothing_cleared :
    ∃ e, mapReduce {} "a" unreadableJob oneDocument =
      .error e ((oneDocument.create "a").put "a" .empty) := by
  have hnew : oneDocument.has (Output.temporary oneDocument.ids.next) = false := by decide +kernel
  have haccepted : Accepted "a" unreadableJob oneDocument ⟨.replace, "a"⟩ [[("_id", .int32 1)]] :=
    ⟨by decide +kernel, rfl, rfl⟩
  have hfails : (match mapReduce {} "a" unreadableJob oneDocument with
      | .ok .. => false
      | .error .. => true) = true := by
    decide +kernel
  obtain ⟨-, -, hjobs⟩ := failures_write_nothing oneDocument
  cases hrun : mapReduce {} "a" unreadableJob oneDocument with
  | ok outcome s' => simp [hrun] at hfails
  | error e s' =>
    obtain ⟨-, hleft⟩ := (hjobs {} "a" unreadableJob hnew).2 e s' hrun
    obtain ⟨output, docs, houtput, rfl⟩ := hleft haccepted.not_refused
    cases haccepted.parsed.symm.trans houtput.parsed
    exact ⟨e, rfl⟩

end Docbase.Database
