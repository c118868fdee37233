import CodeAudit.Proofs.Execution.Expectation
import CodeAudit.Proofs.Execution.Launch
import CodeAudit.Proofs.Execution.Traceback
import CodeAudit.Proofs.Execution.Usage

/-!
How the failure of a child reaches the findings, and the ways in which it is lost.
-/
namespace CodeAudit.Sandbox

open Outcome ExecutionResult Traceback

section ExitError

variable {exitCode : Int} {stderr source : List Char} {offset : Nat}

/-- No signal is told by an error of the sandbox's own. -/
lemma signalError_foreign : (signalError exitCode stderr).type ∉ ownErrorTypes := by
  unfold signalError
  split
  · dsimp only
    split
    · exact show "TimeoutError" ∉ ownErrorTypes by decide
    · split
      · exact show "MemoryError" ∉ ownErrorTypes by decide
      · exact show "ProcessError" ∉ ownErrorTypes by decide
  · exact show "ProcessError" ∉ ownErrorTypes by decide

/-- The error that is reported for what the output tells, or does not. -/
def reported (exitCode : Int) (stderr : List Char) : Option ExecutionError → ExecutionError
  | none => signalError exitCode stderr
  | some told => if exitCode < 0 && told.type == "ProcessError" then signalError exitCode stderr else told

lemma exitError_eq : exitError exitCode stderr source offset =
    (error? stderr (some "main.py") (Text.lines source) offset).map (reported exitCode stderr) := by
  unfold exitError
  cases error? stderr (some "main.py") (Text.lines source) offset with
  | error f => rfl
  | ok o =>
    cases o with
    | none => rfl
    | some told =>
      change (if _ then _ else _) = Except.ok (if _ then _ else _)
      split
      · rfl
      · rfl

lemma reported_foreign_iff {o : Option ExecutionError} :
    (reported exitCode stderr o).type ∉ ownErrorTypes ↔ ∀ e ∈ o, e.type ∉ ownErrorTypes := by
  cases o with
  | none => simp [reported, signalError_foreign]
  | some told =>
    simp only [Option.mem_some_iff, forall_eq', reported]
    split
    · rename_i h
      have hprocess : told.type = "ProcessError" := by
        simpa using (Bool.and_eq_true_iff.mp h).2
      have hforeign : told.type ∉ ownErrorTypes := by
        rw [hprocess]
        decide
      exact iff_of_true signalError_foreign hforeign
    · rfl

theorem exitError_ok_iff : (∃ e, exitError exitCode stderr source offset = .ok e) ↔ LineReadable stderr := by
  rw [← error?_ok_iff (Text.lines source) offset, exitError_eq]
  constructor
  · rintro ⟨e, he⟩
    obtain ⟨o, ho, _⟩ := map_eq_ok.mp he
    exact ⟨o, ho⟩
  · rintro ⟨o, ho⟩
    exact ⟨_, map_eq_ok.mpr ⟨o, ho, rfl⟩⟩

theorem exitError_foreign_iff {e : ExecutionError} (h : exitError exitCode stderr source offset = .ok e) :
    e.type ∉ ownErrorTypes ↔ NameForeign stderr := by
  rw [exitError_eq] at h
  obtain ⟨o, ho, rfl⟩ := map_eq_ok.mp h
  rw [reported_foreign_iff, error?_foreign_iff ho]

end ExitError

/-- The child ends by itself with a code other than zero. -/
def EndsBadly (plan : ChildPlan) : Prop :=
  plan.outlives = false ∧ plan.exitCode ≠ 0

/-- The child times out or ends with a code other than zero. -/
def Fails (plan : ChildPlan) : Prop :=
  plan.outlives = true ∨ plan.exitCode ≠ 0

section Result

variable (limits : Limits) (source : List Char) (offset : Nat) (flags : List String) (plan : ChildPlan)

/-- The errors that are reported of a child. -/
def errorsOf : Except Reading.Fault (List ExecutionError) :=
  if plan.outlives then .ok [timeoutError limits.timeMs]
  else if plan.exitCode ≠ 0 then
    (exitError plan.exitCode plan.stderr.toList source offset).map fun e => [e]
  else .ok []

/-- The result with these errors and this usage. -/
def resultWith (usage : Usage) (errors : List ExecutionError) : ExecutionResult :=
  { success := plan.exitCode == 0 && !plan.outlives
    output := stripRightText plan.stdout
    stderr := stripRightText plan.stderr
    exitCode := some plan.exitCode
    timedOut := plan.outlives
    errors := errors
    usage := usage
    securityFlags := flags }

lemma resultOf_eq_ok_iff {t : Double} {r : ExecutionResult} :
    resultOf limits source offset flags plan t = .ok r ↔
      ∃ usage, Usage.ofReport plan.report t = .ok usage ∧
        ∃ errors, errorsOf limits source offset plan = .ok errors ∧ resultWith flags plan usage errors = r := by
  unfold resultOf errorsOf
  rw [bind_eq_ok]
  refine exists_congr fun usage => and_congr mapError_eq_ok ?_
  -- the three ways to come by the errors, one by one
  dsimp only
  by_cases hout : plan.outlives = true
  · rw [if_pos hout, if_pos hout, bind_eq_ok]
    exact exists_congr fun errors => and_congr (by rw [pure_eq_ok, Except.ok.injEq]) pure_eq_ok
  · by_cases hcode : plan.exitCode ≠ 0
    · rw [if_neg hout, if_neg hout, if_pos hcode, if_pos hcode, bind_eq_ok]
      refine exists_congr fun errors => and_congr ?_ pure_eq_ok
      rw [map_eq_ok, map_eq_ok]
      exact exists_congr fun e => and_congr_left fun _ => mapError_eq_ok
    · rw [if_neg hout, if_neg hout, if_neg hcode, if_neg hcode, bind_eq_ok]
      exact exists_congr fun errors => and_congr (by rw [pure_eq_ok, Except.ok.injEq]) pure_eq_ok

variable {limits source offset plan}

lemma errorsOf_of_outlives (h : plan.outlives = true) :
    errorsOf limits source offset plan = .ok [timeoutError limits.timeMs] := by
  rw [errorsOf, if_pos h]

lemma errorsOf_of_endsBadly (h : EndsBadly plan) :
    errorsOf limits source offset plan =
      (exitError plan.exitCode plan.stderr.toList source offset).map fun e => [e] := by
  rw [errorsOf, if_neg (by simp [h.1]), if_pos h.2]

lemma errorsOf_of_not_fails (h : ¬ Fails plan) : errorsOf limits source offset plan = .ok [] := by
  obtain ⟨hout, hcode⟩ := not_or.mp h
  rw [errorsOf, if_neg hout, if_neg hcode]

/-- A child times out, ends badly or does not fail. -/
lemma outlives_or_endsBadly (plan : ChildPlan) :
    (plan.outlives = true ∧ ¬ EndsBadly plan) ∨ EndsBadly plan ∨ (¬ Fails plan ∧ ¬ EndsBadly plan) := by
  unfold EndsBadly Fails
  by_cases hcode : plan.exitCode = 0
  · cases plan.outlives <;> simp [hcode]
  · cases plan.outlives <;> simp [hcode]

lemma errorsOf_ok_iff :
    (∃ es, errorsOf limits source offset plan = .ok es) ↔ (EndsBadly plan → LineReadable plan.stderr.toList) := by
  rcases outlives_or_endsBadly plan with ⟨hout, hbad⟩ | hbad | ⟨hfails, hbad⟩
  · exact iff_of_true ⟨_, errorsOf_of_outlives hout⟩ fun h => absurd h hbad
  · rw [errorsOf_of_endsBadly hbad, forall_prop_of_true hbad, ← exitError_ok_iff]
    constructor
    · rintro ⟨es, hes⟩
      obtain ⟨e, he, _⟩ := map_eq_ok.mp hes
      exact ⟨e, he⟩
    · rintro ⟨e, he⟩
      exact ⟨[e], map_eq_ok.mpr ⟨e, he, rfl⟩⟩
  · exact iff_of_true ⟨_, errorsOf_of_not_fails hfails⟩ fun h => absurd h hbad

lemma errorsOf_foreign_iff {es : List ExecutionError} (h : errorsOf limits source offset plan = .ok es) :
    (∀ e ∈ es, e.type ∉ ownErrorTypes) ↔ (EndsBadly plan → NameForeign plan.stderr.toList) := by
  rcases outlives_or_endsBadly plan with ⟨hout, hbad⟩ | hbad | ⟨hfails, hbad⟩
  · rw [errorsOf_of_outlives hout] at h
    cases h
    refine iff_of_true ?_ fun h => absurd h hbad
    simp only [List.mem_singleton, forall_eq]
    exact show "TimeoutError" ∉ ownErrorTypes by decide
  · rw [errorsOf_of_endsBadly hbad] at h
    obtain ⟨e, he, rfl⟩ := map_eq_ok.mp h
    simp only [List.mem_singleton, forall_eq, forall_prop_of_true hbad]
    exact exitError_foreign_iff he
  · rw [errorsOf_of_not_fails hfails] at h
    cases h
    exact iff_of_true (by simp) fun h => absurd h hbad

/-- A child that fails is told of by one error, another one by none. -/
lemma errorsOf_eq_singleton_or_nil {es : List ExecutionError}
    (h : errorsOf limits source offset plan = .ok es) : (Fails plan ∧ ∃ e, es = [e]) ∨ (¬ Fails plan ∧ es = []) := by
  rcases outlives_or_endsBadly plan with ⟨hout, _⟩ | hbad | ⟨hfails, _⟩
  · rw [errorsOf_of_outlives hout] at h
    exact .inl ⟨.inl hout, _, (Except.ok.inj h).symm⟩
  · rw [errorsOf_of_endsBadly hbad] at h
    obtain ⟨e, _, rfl⟩ := map_eq_ok.mp h
    exact .inl ⟨.inr hbad.2, e, rfl⟩
  · rw [errorsOf_of_not_fails hfails] at h
    exact .inr ⟨hfails, (Except.ok.inj h).symm⟩

lemma errorsOf_ne_nil {es : List ExecutionError} (h : errorsOf limits source offset plan = .ok es)
    (hfails : Fails plan) : es ≠ [] := by
  rcases errorsOf_eq_singleton_or_nil h with ⟨_, e, rfl⟩ | ⟨hnot, _⟩
  · exact List.cons_ne_nil _ _
  · exact absurd hfails hnot

end Result

lemma isVerified_iff (r : ExecutionResult) : r.isVerified = true ↔ ∀ e ∈ r.errors, e.type ∉ ownErrorTypes := by
  simp [isVerified, errorTypes]

/-- A verified result with errors makes findings, unless its usage cannot be worded. -/
lemma findings_of_errors {r : ExecutionResult} (o : Options) (hverified : r.isVerified = true)
    (hfailed : r.success = false) (herrors : r.errors ≠ []) :
    (∃ fs, ExecutionFindings.ofResult r o = .ok fs ∧ fs ≠ []) ↔ ∃ us, ExecutionFindings.ofUsage r o = .ok us := by
  rw [ExecutionFindings.ofResult_eq (ExecutionFindings.onOutput_of_failed o hfailed), if_pos hverified]
  simp only [map_eq_ok, mapError_eq_ok]
  constructor
  · rintro ⟨_, ⟨us, hus, -⟩, -⟩
    exact ⟨us, hus⟩
  · rintro ⟨us, hus⟩
    exact ⟨_, ⟨us, hus, rfl⟩, by simp [herrors]⟩

section Found

variable {limits : Limits} {source : List Char} {offset : Nat} {flags : List String} {plan : ChildPlan} {t : Double}
variable {options : Options}

lemma isVerified_iff_of_resultOf {r : ExecutionResult} (h : resultOf limits source offset flags plan t = .ok r) :
    r.isVerified = true ↔ (EndsBadly plan → NameForeign plan.stderr.toList) := by
  obtain ⟨usage, _, errors, herrors, rfl⟩ := (resultOf_eq_ok_iff _ _ _ _ _).mp h
  rw [isVerified_iff]
  exact errorsOf_foreign_iff herrors

/-- A failure with a verified result makes findings exactly when its usage can be worded. -/
lemma findings_iff_of_resultOf (hreport : Usage.NumericReport plan.report) {r : ExecutionResult}
    (h : resultOf limits source offset flags plan t = .ok r) (hverified : r.isVerified = true) (hfails : Fails plan) :
    (∃ fs, ExecutionFindings.ofResult r options = .ok fs ∧ fs ≠ []) ↔ r.usage.Quotable options plan.outlives := by
  obtain ⟨usage, husage, errors, herrors, rfl⟩ := (resultOf_eq_ok_iff _ _ _ _ _).mp h
  have hfailed : (resultWith flags plan usage errors).success = false := by
    rcases hfails with hout | hcode
    · simp [resultWith, hout]
    · simp [resultWith, hcode]
  rw [findings_of_errors options hverified hfailed (errorsOf_ne_nil herrors hfails)]
  exact ExecutionFindings.ofUsage_ok_iff (Usage.numeric_of_ofReport hreport husage)

/-- A run whose child starts gives a verified result, with findings if the child fails, exactly when the exception
that ends the child's output has no name of the sandbox's own, its line number can be read, the processor's time can
be divided by the time of the run, and what the findings on a failed run would quote of its usage fits binary64. -/
theorem failure_found_iff (box : Sandbox) {host : Host} {timeout : Double} (hplan : host.nextPlan.1 = plan)
    (hlimit : seconds limits.timeMs = .ok timeout) (hstart : plan.spawnError = none)
    (hreport : Usage.NumericReport plan.report) :
    (∃ r, ((box.run limits source offset flags).run host).1 = .ok r ∧ r.isVerified = true ∧
        (Fails plan → ∃ fs, ExecutionFindings.ofResult r options = .ok fs ∧ fs ≠ [])) ↔
      (EndsBadly plan → NameForeign plan.stderr.toList ∧ LineReadable plan.stderr.toList) ∧
      (Double.lt 0 (elapsedMs host plan) = true → ∀ n, Usage.told? plan.report "cpuTimeMs" = some n → n.Fits) ∧
      (Fails plan → ∀ u, Usage.ofReport plan.report (elapsedMs host plan) = .ok u →
        u.Quotable options plan.outlives) := by
  subst hplan
  -- from here on only the plan and the time that it takes matter
  rw [run_of_started box hlimit hstart, ← Usage.ofReport_ok_iff hreport]
  generalize host.nextPlan.1 = plan at *
  generalize elapsedMs host plan = t
  constructor
  · rintro ⟨r, hr, hverified, hfound⟩
    obtain ⟨usage, husage, errors, herrors, rfl⟩ := (resultOf_eq_ok_iff _ _ _ _ _).mp hr
    have hname := (isVerified_iff_of_resultOf hr).mp hverified
    have hline := errorsOf_ok_iff.mp ⟨errors, herrors⟩
    refine ⟨fun hbad => ⟨hname hbad, hline hbad⟩, ⟨usage, husage⟩, fun hfails u hu => ?_⟩
    cases husage.symm.trans hu
    exact (findings_iff_of_resultOf hreport hr hverified hfails).mp (hfound hfails)
  · rintro ⟨hbad, ⟨usage, husage⟩, hquotable⟩
    obtain ⟨errors, herrors⟩ := errorsOf_ok_iff.mpr fun h => (hbad h).2
    have hr := (resultOf_eq_ok_iff limits source offset flags plan).mpr ⟨usage, husage, errors, herrors, rfl⟩
    have hverified := (isVerified_iff_of_resultOf hr).mpr fun h => (hbad h).1
    refine ⟨_, hr, hverified, fun hfails => ?_⟩
    exact (findings_iff_of_resultOf hreport hr hverified hfails).mpr (hquotable hfails usage husage)

end Found

/-- A program that raises an exception of its own. -/
def raisingSource (name : String) : List Char :=
  ("class " ++ name ++ "(Exception): pass\nraise " ++ name ++ "(42)").toList

/-- The child that runs it. -/
def raisingPlan (name : String) : ChildPlan :=
  { stderr := "Traceback (most recent call last):\n  File \"main.py\", line 2, in <module>\n" ++ name ++ ": 42\n"
    exitCode := 1 }

theorem failure_named_oddError_found :
    ∃ r, ((({} : Sandbox).run .standard (raisingSource "OddError") 0 []).run
        { plans := [raisingPlan "OddError"] }).1 = .ok r ∧ r.isVerified = true ∧
      (Fails (raisingPlan "OddError") → ∃ fs, ExecutionFindings.ofResult r {} = .ok fs ∧ fs ≠ []) := by
  have hlimit : seconds Limits.standard.timeMs = .ok 5 := by decide +kernel
  have hname : raised? (raisingPlan "OddError").stderr.toList = some "OddError" := by decide +kernel
  have hline : frameDigits? (raisingPlan "OddError").stderr.toList = some ['2'] := by decide +kernel
  refine (failure_found_iff {} rfl hlimit rfl fun text h => (by cases h)).mpr
    ⟨fun _ => ⟨?_, ?_⟩, ?_, fun _ u hu => ?_⟩
  · intro name h
    cases hname.symm.trans h
    decide
  · intro digits h
    cases hline.symm.trans h
    decide
  · intro _ n h
    cases h
  · cases hu
    refine ⟨fun n hn _ => ?_, fun _ _ => Number.fits_double _, fun _ _ _ => Number.fits_double _⟩
    cases hn
    exact ⟨Number.fits_double _, Number.fits_double _, fun p hp => (by cases hp)⟩

/-- A failure is lost when the program's exception is named like an error of the sandbox's own. -/
theorem failure_named_validationError_lost :
    ∃ r, ((({} : Sandbox).run .standard (raisingSource "ValidationError") 0 []).run
        { plans := [raisingPlan "ValidationError"] }).1 = .ok r ∧
      r.exitCode = some 1 ∧ r.isVerified = false ∧ ExecutionFindings.ofResult r {} = .ok [] := by
  have hlimit : seconds Limits.standard.timeMs = .ok 5 := by decide +kernel
  have herrors : errorsOf .standard (raisingSource "ValidationError") 0 (raisingPlan "ValidationError") =
      .ok [{ type := "ValidationError", message := "42", line := some 2 }] := by decide +kernel
  rw [run_of_started _ hlimit rfl]
  refine ⟨_, (resultOf_eq_ok_iff _ _ _ _ _).mpr ⟨_, rfl, _, herrors, rfl⟩, rfl, by decide, rfl⟩

end CodeAudit.Sandbox
