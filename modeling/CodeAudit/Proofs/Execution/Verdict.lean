import CodeAudit.Proofs.Execution.Completion
import CodeAudit.Proofs.Execution.Series

/-!
What a result says of the child that was run for it. One run is looked at first; a series of test cases takes one
child after the other, so that its results say the same of the children in their order.
-/
namespace CodeAudit

open Outcome

/-- The result tells how the child of its run ended, or that it had none. -/
structure ExecutionResult.Reflects (limits : Limits) (child : Option ChildPlan) (r : ExecutionResult) : Prop where
  success_iff_errors : r.success = true ↔ r.errors = []
  one_error : r.success = false → ∃ e, r.errors = [e]
  success_iff_child : r.success = true ↔ ∃ plan ∈ child, plan.exitCode = 0 ∧ plan.outlives = false
  timedOut_iff : r.timedOut = true ↔ ∃ plan ∈ child, plan.outlives = true
  timeout_error : r.timedOut = true → r.errors = [Sandbox.timeoutError limits.timeMs]

namespace Sandbox

open ExecutionResult

variable {limits : Limits} {source : List Char} {offset : Nat} {flags : List String} {host : Host}

lemma reflects_failed (limits : Limits) (type message : String) (flags : List String) :
    Reflects limits none (.failed type message flags) where
  success_iff_errors := by simp [ExecutionResult.failed]
  one_error := fun _ => ⟨_, rfl⟩
  success_iff_child := by simp [ExecutionResult.failed]
  timedOut_iff := by simp [ExecutionResult.failed]
  timeout_error := fun h => by cases h

lemma not_fails_iff {plan : ChildPlan} : ¬ Fails plan ↔ plan.exitCode = 0 ∧ plan.outlives = false := by
  rw [Fails, not_or, not_not, Bool.not_eq_true, and_comm]

lemma reflects_of_resultOf {plan : ChildPlan} {t : Double} {r : ExecutionResult}
    (h : resultOf limits source offset flags plan t = .ok r) : Reflects limits (some plan) r := by
  obtain ⟨usage, _, errors, herrors, rfl⟩ := (resultOf_eq_ok_iff _ _ _ _ _).mp h
  have hsuccess : (resultWith flags plan usage errors).success = true ↔ ¬ Fails plan := by
    rw [not_fails_iff]
    simp [resultWith]
  refine ⟨hsuccess.trans ?_, fun hfailed => ?_, ?_, ?_, fun hout => ?_⟩
  · rcases errorsOf_eq_singleton_or_nil herrors with ⟨hfails, e, rfl⟩ | ⟨hfails, rfl⟩
    · exact iff_of_false (not_not.mpr hfails) (List.cons_ne_nil e [])
    · exact iff_of_true hfails rfl
  · rcases errorsOf_eq_singleton_or_nil herrors with ⟨_, he⟩ | ⟨hfails, _⟩
    · exact he
    · rw [hsuccess.mpr hfails] at hfailed
      cases hfailed
  · simpa using hsuccess.trans not_fails_iff
  · simp [resultWith]
  · exact Except.ok.inj (herrors.symm.trans (errorsOf_of_outlives hout))

lemma exists_seconds_of_run {box : Sandbox} {r : ExecutionResult}
    (h : ((box.run limits source offset flags).run host).1 = .ok r) :
    ∃ timeout, seconds limits.timeMs = .ok timeout :=
  ((exists_run_iff box limits source offset flags host).mp ⟨r, h⟩).1

lemma run_reflects {box : Sandbox} {r : ExecutionResult}
    (h : ((box.run limits source offset flags).run host).1 = .ok r) : Reflects limits (host.child? 0) r := by
  obtain ⟨timeout, hlimit⟩ := exists_seconds_of_run h
  rw [host.child?_zero]
  cases hspawn : host.nextPlan.1.spawnError with
  | some reason =>
    rw [run_of_seconds box hlimit, follow, hspawn] at h
    obtain rfl := Except.ok.inj h
    exact reflects_failed _ _ _ _
  | none =>
    rw [run_of_started box hlimit hspawn] at h
    exact reflects_of_resultOf h

/-- A run that gives a result took the next child. -/
lemma run_plans {box : Sandbox} {r : ExecutionResult}
    (h : ((box.run limits source offset flags).run host).1 = .ok r) :
    ((box.run limits source offset flags).run host).2.plans = host.plans.drop 1 := by
  obtain ⟨timeout, hlimit⟩ := exists_seconds_of_run h
  exact run_plans_of_seconds box hlimit

/-- Each result of a series comes from a run of its case, on a host whose next child is the one in that place. -/
lemma Series.exists_run {box : Sandbox} {code : List Char} {cases : List TestCase} {rs : List ExecutionResult}
    {last : Host} (h : box.Series code flags host cases rs last) {i : Nat} {r : ExecutionResult} (hi : rs[i]? = some r) :
    ∃ c before after, cases[i]? = some c ∧ box.RunOfCase code flags c before (.ok r) after ∧
      before.child? 0 = host.child? i := by
  -- each run takes one child, so that the later cases find theirs one place further on
  induction h generalizing i with
  | nil => cases hi
  | cons first later ih =>
    cases i with
    | zero =>
      cases hi
      exact ⟨_, _, _, rfl, first, rfl⟩
    | succ j =>
      obtain ⟨limits, -, -, -, hrun⟩ := first
      have hplans := run_plans (congrArg Prod.fst hrun)
      rw [hrun] at hplans
      obtain ⟨c, before, after, hc, hcase, hchild⟩ := ih hi
      exact ⟨c, before, after, hc, hcase, hchild.trans (Host.child?_of_drop hplans j)⟩

/-- The results of a series tell of one child after the other, each run within the limits of its case. -/
lemma Series.reflects {box : Sandbox} {code : List Char} {cases : List TestCase} {rs : List ExecutionResult}
    {last : Host} (h : box.Series code flags host cases rs last) {i : Nat} {r : ExecutionResult} (hi : rs[i]? = some r) :
    ∃ c limits, cases[i]? = some c ∧ box.limitsFor c = .ok limits ∧ Reflects limits (host.child? i) r := by
  obtain ⟨c, before, after, hc, ⟨limits, hmemory, htime, hcores, hrun⟩, hchild⟩ := h.exists_run hi
  have hreflects := run_reflects (congrArg Prod.fst hrun)
  rw [hchild] at hreflects
  exact ⟨c, limits, hc, limitsFor_eq_ok_iff.mpr ⟨hmemory, htime, hcores⟩, hreflects⟩

lemma runCases_reflects {box : Sandbox} {code : List Char} {cases : List TestCase} {rs : List ExecutionResult}
    (h : ((box.runCases code flags cases).run host).1 = .ok rs) {i : Nat} {r : ExecutionResult}
    (hi : rs[i]? = some r) :
    ∃ c limits, cases[i]? = some c ∧ box.limitsFor c = .ok limits ∧ Reflects limits (host.child? i) r := by
  have hrun : (box.runCases code flags cases).run host = (.ok rs, ((box.runCases code flags cases).run host).2) :=
    Prod.ext h rfl
  obtain ⟨c, limits, hc, hrest⟩ := (series_of_runCases hrun).1.reflects hi
  rw [List.getElem?_take] at hc
  split at hc
  · exact ⟨c, limits, hc, hrest⟩
  · cases hc

/-- The child that runs a program for the i-th time, if the program is accepted and the child starts. -/
def childOf (box : Sandbox) (code : Option (List Char)) (language : Option String) (host : Host) (i : Nat) :
    Option ChildPlan :=
  if box.problem? code language = none then host.child? i else none

/-- A child that outlives its time, although it ends with code zero and writes of another error. -/
def lingeringPlan : ChildPlan :=
  { stderr := "ValueError: 1\n", elapsed := 5.0, outlives := true }

end Sandbox
end CodeAudit
