import CodeAudit.Proofs.Execution.CaseSource
import CodeAudit.Proofs.Execution.Verdict

/-!
The lines that the errors of test cases name. A traceback counts the lines of the program that was made for the case;
the lines in front of the code are taken off its number, so that it is a line of the code unless the traceback ended
in the check after the code.
-/
namespace CodeAudit

namespace Traceback

variable {stderr : List Char} {source : List Source.Line}

/-- The number of the last frame of the program before the exception. -/
def frameLine? (stderr : List Char) : Option Int :=
  (frameDigits? stderr).bind fun digits => (Reading.whole digits).toOption

/-- Every frame of the program names one of so many lines. -/
def NamesLines (stderr : List Char) (count : ℕ) : Prop :=
  ∀ line ∈ Text.outputLines stderr, ∀ m ∈ frame.atStart? line, fileName (m.group "file") = programFile →
    ∃ n ∈ (Reading.whole (m.group "line")).toOption, 1 ≤ n ∧ n ≤ count

instance (stderr : List Char) (count : ℕ) : Decidable (NamesLines stderr count) :=
  inferInstanceAs (Decidable (∀ line ∈ Text.outputLines stderr, ∀ m ∈ frame.atStart? line, _ → ∃ n ∈ _, _))

lemma frame_of_lastFrame? {file digits : List Char} {ls after rest : List Source.Line}
    (h : lastFrame? (some file) after ls = some (digits, rest)) :
    ∃ line ∈ ls, ∃ m, frame.atStart? line = some m ∧ fileName (m.group "file") = file ∧ m.group "line" = digits := by
  obtain ⟨inner, head, outer, rfl, ⟨m, hhead, hdigits⟩, -, -⟩ := lastFrame?_eq_some_iff.mp h
  obtain ⟨hm, hfile⟩ := frameOf?_eq_some_iff.mp hhead
  exact ⟨head, by simp, m, hm, by simpa using hfile, hdigits⟩

lemma mem_of_lastException? {ls earlier : List Source.Line} {m : Regex.Found}
    (h : lastException? ls = some (earlier, m)) : ∀ line ∈ earlier, line ∈ ls := by
  obtain ⟨later, ending, _, rfl, -, rfl, -⟩ := lastException?_eq_some_iff.mp h
  intro line hline
  simp [hline]

lemma frameLine?_of_not_raised (h : raised? stderr = none) : frameLine? stderr = none := by
  rw [frameLine?, frameDigits?, Option.map_eq_none_iff.mp h]
  rfl

lemma le_of_frameLine? {count : ℕ} {n : Int} (h : NamesLines stderr count) (hn : frameLine? stderr = some n) :
    n ≤ count := by
  obtain ⟨digits, hdigits, hn⟩ := Option.bind_eq_some_iff.mp hn
  obtain ⟨⟨earlier, m⟩, hlast, hframe⟩ := Option.bind_eq_some_iff.mp hdigits
  obtain ⟨⟨_, rest⟩, hfound, rfl⟩ := Option.map_eq_some_iff.mp hframe
  obtain ⟨line, hline, m', hm, hfile, rfl⟩ := frame_of_lastFrame? hfound
  obtain ⟨k, hk, -, hcount⟩ := h line (List.mem_reverse.mp (mem_of_lastException? hlast line hline)) m' hm hfile
  cases hk.symm.trans hn
  exact hcount

/-- The error names the line of the last frame, the lines in front being taken off, if that is a line at all. -/
lemma line_of_error? {offset n : Int} {e : ExecutionError}
    (h : error? stderr (some "main.py") source offset = .ok (some e)) :
    e.line = some n ↔ frameLine? stderr = some (n + offset) ∧ 1 ≤ n := by
  unfold error? at h
  split at h
  · cases h
  cases hlast : lastException? (Text.outputLines stderr).reverse with
  | none =>
    rw [hlast] at h
    cases h
    simp [suggested, frameLine?, frameDigits?, hlast]
  | some last =>
    obtain ⟨earlier, m⟩ := last
    have hpath : "main.py".isEmpty = false := by decide
    have hfile : fileName "main.py".toList = programFile := rfl
    simp only [hlast, hpath, hfile, Bool.false_eq_true, if_false] at h
    cases hframe : lastFrame? (some programFile) [] earlier with
    | none =>
      rw [hframe] at h
      cases h
      simp [frameLine?, frameDigits?, hlast, hframe]
    | some found =>
      obtain ⟨digits, after⟩ := found
      simp only [hframe, Outcome.bind_eq_ok] at h
      obtain ⟨number, hnumber, h⟩ := h
      have hnamed : frameLine? stderr = some number := by
        simp [frameLine?, frameDigits?, hlast, hframe, hnumber, Except.toOption]
      rw [hnamed, Option.some.injEq]
      split at h
      · cases h
        simp only [reduceCtorEq, false_iff]
        omega
      · cases h
        simp only [Option.some.injEq]
        omega

end Traceback

namespace Sandbox

open Outcome Traceback

/-- The child ends badly and its traceback, not the signal that ended it, tells its error. -/
def ToldByTraceback (plan : ChildPlan) : Prop :=
  EndsBadly plan ∧ ¬ (plan.exitCode < 0 ∧ raised? plan.stderr.toList = some "ProcessError")

section Errors

variable {limits : Limits} {source : List Char} {offset : Nat} {plan : ChildPlan} {es : List ExecutionError} {n : Int}

lemma line_signalError (exitCode : Int) (stderr : List Char) : (signalError exitCode stderr).line = none := by
  unfold signalError
  split
  · dsimp only
    split
    · rfl
    · split
      · rfl
      · rfl
  · rfl

lemma line_reported {exitCode : Int} {stderr : List Char} {told : ExecutionError} :
    (reported exitCode stderr (some told)).line = some n ↔
      ¬ (exitCode < 0 ∧ told.type = "ProcessError") ∧ told.line = some n := by
  have hsignal : (exitCode < 0 && told.type == "ProcessError") = true ↔
      exitCode < 0 ∧ told.type = "ProcessError" := by simp
  change (if _ then _ else _ : ExecutionError).line = some n ↔ _
  split
  · rename_i h
    rw [line_signalError]
    exact iff_of_false (Option.some_ne_none n).symm fun hnot => hnot.1 (hsignal.mp h)
  · rename_i h
    exact (and_iff_right (mt hsignal.mpr h)).symm

lemma line_of_exitError {exitCode : Int} {stderr : List Char} {e : ExecutionError}
    (h : exitError exitCode stderr source offset = .ok e) :
    e.line = some n ↔ ¬ (exitCode < 0 ∧ raised? stderr = some "ProcessError") ∧
      frameLine? stderr = some (n + offset) ∧ 1 ≤ n := by
  rw [exitError_eq] at h
  obtain ⟨o, ho, rfl⟩ := map_eq_ok.mp h
  cases hraised : raised? stderr with
  | none =>
    have hnone := frameLine?_of_not_raised hraised
    refine iff_of_false (fun hline => ?_) (by simp [hnone])
    cases o with
    | none => exact Option.some_ne_none n (hline.symm.trans (line_signalError _ _))
    | some told =>
      have htold := (line_of_error? ho).mp (line_reported.mp hline).2
      rw [hnone] at htold
      cases htold.1
  | some name =>
    obtain ⟨told, rfl, rfl⟩ := (error?_of_raised hraised).2 o ho
    rw [line_reported, line_of_error? ho, Option.some.injEq]

/-- The errors of a child name the line that its traceback tells, the lines in front being taken off. -/
lemma line_of_errorsOf (h : errorsOf limits source offset plan = .ok es) :
    (∃ e ∈ es, e.line = some n) ↔
      ToldByTraceback plan ∧ frameLine? plan.stderr.toList = some (n + offset) ∧ 1 ≤ n := by
  unfold ToldByTraceback
  rcases outlives_or_endsBadly plan with ⟨hout, hbad⟩ | hbad | ⟨hfails, hbad⟩
  · cases (errorsOf_of_outlives hout).symm.trans h
    simp [timeoutError, hbad]
  · rw [errorsOf_of_endsBadly hbad] at h
    obtain ⟨e, he, rfl⟩ := map_eq_ok.mp h
    simp only [List.mem_singleton, exists_eq_left, hbad, true_and]
    exact line_of_exitError he
  · cases (errorsOf_of_not_fails hfails).symm.trans h
    simp [hbad]

end Errors

variable {box : Sandbox} {limits : Limits} {source : List Char} {offset : Nat} {flags : List String} {host : Host}
  {r : ExecutionResult}

/-- The result of a run names the line that the traceback of its child tells. -/
lemma line_of_run (h : ((box.run limits source offset flags).run host).1 = .ok r) {n : Int} :
    (∃ e ∈ r.errors, e.line = some n) ↔ ∃ plan ∈ host.child? 0,
      ToldByTraceback plan ∧ frameLine? plan.stderr.toList = some (n + offset) ∧ 1 ≤ n := by
  obtain ⟨timeout, hlimit⟩ := exists_seconds_of_run h
  rw [host.child?_zero]
  cases hspawn : host.nextPlan.1.spawnError with
  | some reason =>
    rw [run_of_seconds box hlimit, follow, hspawn] at h
    obtain rfl := Except.ok.inj h
    simp [ExecutionResult.failed]
  | none =>
    rw [run_of_started box hlimit hspawn] at h
    obtain ⟨usage, -, errors, herrors, rfl⟩ := (resultOf_eq_ok_iff _ _ _ _ _).mp h
    simp only [if_true, Option.mem_some_iff, exists_eq_left']
    exact line_of_errorsOf herrors

/-- The result of a test case names the line that the traceback of its child tells, but for the lines in front. -/
lemma line_of_executeTests {code : Option (List Char)} {cases : List TestCase} {language : Option String}
    {rs : List ExecutionResult} {i : Nat} {c : TestCase}
    (h : ((box.executeTests code cases language).run host).1 = .ok rs) (hr : rs[i]? = some r)
    (hc : cases[i]? = some c) {n : Int} :
    (∃ e ∈ r.errors, e.line = some n) ↔ ∃ plan ∈ box.childOf code language host i,
      ToldByTraceback plan ∧ frameLine? plan.stderr.toList = some (n + c.offset) ∧ 1 ≤ n := by
  unfold executeTests at h
  unfold childOf
  cases hproblem : box.problem? code language with
  | some problem =>
    rw [hproblem] at h
    obtain rfl := Except.ok.inj h
    obtain ⟨rfl, rfl⟩ : i = 0 ∧ r = .failed "ValidationError" problem [] := by
      cases i with
      | zero => exact ⟨rfl, (Option.some.inj hr).symm⟩
      | succ j => cases hr
    simp [ExecutionResult.failed]
  | none =>
    rw [hproblem] at h
    have hrun : (box.runCases (code.getD []) (SafetyAssessment.ofCode (code.getD [])).risks cases).run host =
        (.ok rs, ((box.runCases (code.getD []) (SafetyAssessment.ofCode (code.getD [])).risks cases).run host).2) :=
      Prod.ext h rfl
    obtain ⟨d, before, after, hd, ⟨limits, -, -, -, hcase⟩, hchild⟩ := (series_of_runCases hrun).1.exists_run hr
    obtain rfl : d = c := by
      rw [List.getElem?_take] at hd
      split at hd
      · exact Option.some.inj (hd.symm.trans hc)
      · cases hd
    rw [if_pos rfl, ← hchild]
    exact line_of_run (congrArg Prod.fst hcase)

/-- The error of a test case names a line of the code exactly when the traceback that tells it ends before the check.
While tracebacks name lines of the program that was made for the case, that is so without a check, and with one the
error may name up to four lines more. -/
theorem case_lines_in_code_iff (box : Sandbox) (code : Option (List Char)) (cases : List TestCase)
    (language : Option String) (host : Host) (rs : List ExecutionResult) (i : ℕ) (r : ExecutionResult) (c : TestCase)
    (h : ((box.executeTests code cases language).run host).1 = .ok rs) (hr : rs[i]? = some r)
    (hc : cases[i]? = some c) :
    (∀ count : ℕ, (∀ e ∈ r.errors, ∀ n, e.line = some n → 1 ≤ n ∧ n ≤ count) ↔
        ∀ plan ∈ box.childOf code language host i, ToldByTraceback plan →
          ∀ n, frameLine? plan.stderr.toList = some n → n ≤ c.offset + count) ∧
      ((∀ plan ∈ box.childOf code language host i,
          NamesLines plan.stderr.toList (Text.lines (c.source (code.getD []))).length) →
        ∀ e ∈ r.errors, ∀ n, e.line = some n →
          1 ≤ n ∧ n ≤ (Text.lines (code.getD [])).length + if c.expected.isNone then 0 else 4) := by
  have hline := fun n => line_of_executeTests h hr hc (n := n)
  constructor
  · intro count
    constructor
    · intro hwithin plan hplan htold n hn
      by_cases hfront : n ≤ c.offset
      · omega
      · obtain ⟨e, he, hen⟩ := (hline (n - c.offset)).mpr ⟨plan, hplan, htold, by rw [hn, Int.sub_add_cancel], by omega⟩
        have hcount := (hwithin e he _ hen).2
        omega
    · intro hwithin e he n hen
      obtain ⟨plan, hplan, htold, hn, hpositive⟩ := (hline n).mp ⟨e, he, hen⟩
      have hcount := hwithin plan hplan htold _ hn
      omega
  · intro hnames e he n hen
    obtain ⟨plan, hplan, htold, hn, hpositive⟩ := (hline n).mp ⟨e, he, hen⟩
    have hcount := le_of_frameLine? (hnames plan hplan) hn
    rw [c.lines_source, List.length_append, List.length_append, c.length_checkLines] at hcount
    have hoffset : c.header.length = c.offset := rfl
    split at hcount
    · rename_i hcheck
      rw [if_pos hcheck]
      omega
    · rename_i hcheck
      rw [if_neg hcheck]
      omega

/-- The traceback of an error on a line of the program. -/
def tracebackOn (line : String) : ChildPlan :=
  { stderr := "Traceback (most recent call last):\n  File \"/tmp/main.py\", line " ++ line ++
      ", in <module>\nAssertionError: no\n"
    exitCode := 1 }

/-- A test of what the one line of the code assigns. -/
def assignedTwo : TestCase :=
  { description := "one".toList, expected := .number 2 }

theorem case_lines_in_code_third :
    ∃ rs r, ((({} : Sandbox).executeTests (some "result = 1".toList) [assignedTwo] (some "python")).run
        { plans := [tracebackOn "3"] }).1 = .ok rs ∧ rs[0]? = some r ∧
      (r.errors.map (·.line)) = [some 1] ∧ ∀ e ∈ r.errors, ∀ n, e.line = some n → 1 ≤ n ∧ n ≤ 1 := by
  have hlines : (((({} : Sandbox).executeTests (some "result = 1".toList) [assignedTwo] (some "python")).run
      { plans := [tracebackOn "3"] }).1.toOption.map fun rs => rs.map fun r => r.errors.map (·.line)) =
        some [[some 1]] := by decide +kernel
  have hframe : frameLine? (tracebackOn "3").stderr.toList = some 3 := by decide +kernel
  cases hrun : ((({} : Sandbox).executeTests (some "result = 1".toList) [assignedTwo] (some "python")).run
      { plans := [tracebackOn "3"] }).1 with
  | error fault =>
    rw [hrun] at hlines
    cases hlines
  | ok rs =>
    rw [hrun] at hlines
    obtain ⟨r, rfl, hr⟩ := List.map_eq_singleton_iff.mp (Option.some.inj hlines)
    refine ⟨[r], r, rfl, rfl, hr, ?_⟩
    refine ((case_lines_in_code_iff {} (some "result = 1".toList) [assignedTwo] (some "python")
      { plans := [tracebackOn "3"] } [r] 0 r assignedTwo hrun rfl rfl).1 1).mpr ?_
    rintro plan hplan - n hn
    have hchild : childOf {} (some "result = 1".toList) (some "python") { plans := [tracebackOn "3"] } 0 =
        some (tracebackOn "3") := rfl
    obtain rfl := Option.some.inj (hchild.symm.trans hplan)
    cases hframe.symm.trans hn
    decide

/-- An error in the check names the fourth line of a code of one line. -/
theorem case_line_in_check_not_in_code :
    NamesLines (tracebackOn "6").stderr.toList (Text.lines (assignedTwo.source "result = 1".toList)).length ∧
      (Text.lines "result = 1".toList).length = 1 ∧
      (((({} : Sandbox).executeTests (some "result = 1".toList) [assignedTwo] (some "python")).run
        { plans := [tracebackOn "6"] }).1.toOption.map fun rs => rs.map fun r => r.errors.map (·.line)) =
          some [[some 4]] := by
  refine ⟨by decide +kernel, by decide +kernel, by decide +kernel⟩

end Sandbox

end CodeAudit
