import CodeAudit.Proofs.Execution.Failure

/-!
When a run of the sandbox comes to a result at all. Once the time limit has a number of seconds, the child alone
decides it, by the report that it leaves and by the last lines of its error output.
-/
namespace CodeAudit.Sandbox

open Outcome Traceback

/-- What a child leaves after a run of that time can be told as a result. -/
structure Presentable (plan : ChildPlan) (t : Double) : Prop where
  report : Usage.Measurable plan.report t
  line : EndsBadly plan → LineReadable plan.stderr.toList

section Run

variable (box : Sandbox) (limits : Limits) (source : List Char) (offset : Nat) (flags : List String)

lemma exists_resultOf_iff (plan : ChildPlan) (t : Double) :
    (∃ r, resultOf limits source offset flags plan t = .ok r) ↔ Presentable plan t := by
  constructor
  · rintro ⟨r, hr⟩
    obtain ⟨usage, husage, errors, herrors, _⟩ := (resultOf_eq_ok_iff limits source offset flags plan).mp hr
    exact ⟨(Usage.exists_ofReport_iff _ t).mp ⟨usage, husage⟩, errorsOf_ok_iff.mp ⟨errors, herrors⟩⟩
  · rintro ⟨hreport, hline⟩
    obtain ⟨usage, husage⟩ := (Usage.exists_ofReport_iff _ t).mpr hreport
    obtain ⟨errors, herrors⟩ := errorsOf_ok_iff.mpr hline
    exact ⟨_, (resultOf_eq_ok_iff limits source offset flags plan).mpr ⟨usage, husage, errors, herrors, rfl⟩⟩

/-- A child that does not start is told of without a measure. -/
lemma exists_run_iff (host : Host) :
    (∃ r, ((box.run limits source offset flags).run host).1 = .ok r) ↔
      (∃ timeout, seconds limits.timeMs = .ok timeout) ∧
        (host.nextPlan.1.spawnError = none → Presentable host.nextPlan.1 (elapsedMs host host.nextPlan.1)) := by
  cases hlimit : seconds limits.timeMs with
  | error fault =>
    rw [run_of_seconds_error box hlimit]
    simp
  | ok timeout =>
    refine Iff.trans ?_ (and_iff_right ⟨timeout, rfl⟩).symm
    cases hspawn : host.nextPlan.1.spawnError with
    | some reason =>
      rw [run_of_seconds box hlimit, follow, hspawn]
      exact iff_of_true ⟨_, rfl⟩ fun h => (by cases h)
    | none =>
      rw [run_of_started box hlimit hspawn, forall_prop_of_true rfl]
      exact exists_resultOf_iff limits source offset flags _ _

end Run

/-- A child that leaves a list for its report. -/
def listingPlan : ChildPlan :=
  { stdout := "1\n", report := some "[]" }

end CodeAudit.Sandbox
