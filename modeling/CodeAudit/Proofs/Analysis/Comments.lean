import CodeAudit.Proofs.Analysis.Isolation
import CodeAudit.Proofs.Analysis.Reporting
import CodeAudit.Proofs.Execution.Failure
import CodeAudit.Proofs.Rule.Places
import CodeAudit.Proofs.Safety.Harmless
import CodeAudit.Proofs.Source.CommentLines

/-! Programs of comments alone. Their masks are blank, so that no rule finds anything, no structure is seen and nothing
is dangerous; an analysis has nothing to report unless the run itself gives cause to. -/
namespace CodeAudit

open Outcome
open Source (OnlyComments)

namespace Rule

lemma matchesIn_eq_nil {r : Rule} {src : Source} (hr : r ∈ catalog)
    (h : ∀ line ∈ src.masked, Text.isBlankText line = true) : r.matchesIn src = .ok [] := by
  have hon : ∀ numbered ∈ src.masked.zipIdx, r.matchesOn src numbered.2 numbered.1 = .ok [] := by
    intro numbered hnumbered
    have hmem : numbered.1 ∈ src.masked := List.fst_mem_of_mem_zipIdx hnumbered
    rw [matchesOn, Regex.all_eq_nil_of_isBlankText (needsInk_of_mem_catalog hr) (h _ hmem)]
    rfl
  have hin : (src.masked.zipIdx.mapM fun numbered => r.matchesOn src numbered.2 numbered.1) =
      .ok (src.masked.zipIdx.map fun _ => []) := by
    rw [mapM_congr hon]
    exact List.mapM_pure
  rw [matchesIn, hin]
  exact congrArg Except.ok (List.flatten_eq_nil_iff.mpr (by simp))

end Rule

section Detectors

variable {code : List Char} (h : OnlyComments code)
include h

lemma PatternScan.ofCode_comments (codeStructure : Structure) :
    ofCode Rule.catalog codeStructure code = ⟨[], codeStructure, 1.0, []⟩ := by
  have hmatches : ∀ r ∈ Rule.catalog, r.matchesIn (Source.ofText code) = .ok [] :=
    fun r hr => Rule.matchesIn_eq_nil hr h.isBlankText_masked
  have hfound : Rule.catalog.flatMap (foundBy (Source.ofText code)) = [] := by
    refine List.flatMap_eq_nil_iff.mpr fun r hr => ?_
    rw [foundBy, hmatches r hr]
    rfl
  have hfailed : Rule.catalog.filterMap (failureOf? (Source.ofText code)) = [] := by
    refine List.filterMap_eq_nil_iff.mpr fun r hr => ?_
    rw [failureOf?, hmatches r hr]
  unfold ofCode
  split
  · rfl
  · dsimp only
    rw [foldl_addRule, hfound, hfailed]
    rfl

lemma Structure.ofSource_comments : ofSource (.ofText code) = {} := by
  have hnone : (Source.ofText code).masked.filter (!Text.isBlankText ·) = [] := by
    refine List.filter_eq_nil_iff.mpr fun line hline => ?_
    simp [h.isBlankText_masked line hline]
  have hcode : (Source.ofText code).lines.countP isCodeLine = 0 := by
    refine List.countP_eq_zero.mpr fun line hline => ?_
    rw [isCodeLine]
    rcases (h line hline).strip_eq with hstrip | ⟨said, hstrip⟩
    · simp [hstrip]
    · simp [hstrip]
  have hasync : (Source.ofText code).masked.any asyncWord.occursIn = false := by
    have hword : asyncWord.needsInk = true := by decide +kernel
    refine List.any_eq_false.mpr fun line hline => ?_
    rw [Regex.occursIn_eq_false_of_isBlankText hword (h.isBlankText_masked line hline)]
    exact Bool.false_ne_true
  rw [ofSource, hnone, hcode, hasync]
  rfl

lemma Safety.scan_comments : scan code = lengthNotes code :=
  scan_eq_lengthNotes fun line hline => .inl (h.isBlankText_masked line hline)

end Detectors

namespace ExecutionFindings

variable {r : ExecutionResult} {o : Options} {fs : List Finding}

/-- What a run used exceeds none of the thresholds. -/
structure WithinThresholds (usage : Usage) (o : Options) : Prop where
  memory : Usage.exceeds usage.memoryMb o.memoryThresholdMb ≠ .ok true
  time : o.timeThresholdMs.lt usage.timeMs = false
  cpu : o.cpuThreshold.lt usage.cpu = false

lemma ofUsage_eq_nil (h : WithinThresholds r.usage o) (hfs : ofUsage r o = .ok fs) : fs = [] := by
  obtain ⟨memory, hmemory, hfs⟩ := bind_eq_ok.mp hfs
  have hnone : memory = [] := by
    obtain ⟨exceeds, hexceeds, hmemory⟩ := bind_eq_ok.mp hmemory
    cases exceeds with
    | true => exact absurd hexceeds h.memory
    | false => exact (pure_eq_ok.mp hmemory).symm
  have htime : ofTime r.usage o = .ok [] := by
    rw [ofTime, h.time]
    rfl
  have hcpu : ofCpu r.usage o = .ok [] := by
    rw [ofCpu, h.cpu, Bool.and_false]
    rfl
  subst hnone
  rw [htime, hcpu] at hfs
  split at hfs
  · exact (pure_eq_ok.mp hfs).symm
  · exact (Except.ok.inj hfs).symm

lemma ofResult_eq_nil (herrors : r.errors = []) (h : WithinThresholds r.usage o) (hexpected : o.expectedOutput = none)
    (hfs : ofResult r o = .ok fs) : fs = [] := by
  rw [ofResult_eq (onOutput_of_none hexpected)] at hfs
  split at hfs
  · obtain ⟨usage, husage, rfl⟩ := map_eq_ok.mp hfs
    rw [ofUsage_eq_nil h (mapError_eq_ok.mp husage), herrors]
    rfl
  · exact (Except.ok.inj hfs).symm

lemma ofResult_failed {type message : String} {flags : List String} (h : type ∈ ExecutionResult.ownErrorTypes) :
    ofResult (.failed type message flags) o = .ok [] := by
  have hunverified : (ExecutionResult.failed type message flags).isVerified = false := by
    simpa [ExecutionResult.isVerified, ExecutionResult.errorTypes, ExecutionResult.failed] using h
  rw [ofResult, hunverified]
  rfl

end ExecutionFindings

namespace Analyzer

open Host (SameButLog)

/-- The next child ends well and within the thresholds of the options, which expect no output of it. -/
structure RunsUnnoticed (o : Options) (host : Host) : Prop where
  exitCode : host.nextPlan.1.exitCode = 0
  inTime : host.nextPlan.1.outlives = false
  within : ∀ usage, Usage.ofReport host.nextPlan.1.report (Sandbox.elapsedMs host host.nextPlan.1) = .ok usage →
    ExecutionFindings.WithinThresholds usage o
  noOutput : o.expectedOutput = none

section Run

variable {o : Options} {host host' : Host}

lemma RunsUnnoticed.sameButLog (h : RunsUnnoticed o host) (hsame : SameButLog host host') : RunsUnnoticed o host' := by
  obtain ⟨hplan, -⟩ := Sandbox.nextPlan_sameButLog hsame
  have helapsed : ∀ plan, Sandbox.elapsedMs host' plan = Sandbox.elapsedMs host plan := by
    intro plan
    unfold Sandbox.elapsedMs Host.after Host.millisecondsSince
    rw [hsame.clock]
  refine ⟨hplan ▸ h.exitCode, hplan ▸ h.inTime, fun usage husage => ?_, h.noOutput⟩
  rw [← hplan, helapsed] at husage
  exact h.within usage husage

/-- Whatever comes of such a run, there are no findings from it. -/
lemma RunsUnnoticed.findings_run (h : RunsUnnoticed o host) {box : Sandbox} {limits : Limits} {source : List Char}
    {offset : Nat} {flags : List String} {r : ExecutionResult} {fs : List Finding}
    (hrun : ((box.run limits source offset flags).run host).1 = .ok r)
    (hfs : ExecutionFindings.ofResult r o = .ok fs) : fs = [] := by
  cases hlimit : Sandbox.seconds limits.timeMs with
  | error fault =>
    rw [Sandbox.run_of_seconds_error box hlimit] at hrun
    cases hrun
  | ok timeout =>
    cases hspawn : host.nextPlan.1.spawnError with
    | some reason =>
      rw [Sandbox.run_of_seconds box hlimit, Sandbox.follow, hspawn] at hrun
      obtain rfl := Except.ok.inj hrun
      rw [ExecutionFindings.ofResult_failed (by simp [ExecutionResult.ownErrorTypes])] at hfs
      exact (Except.ok.inj hfs).symm
    | none =>
      have hwell : ¬ Sandbox.Fails host.nextPlan.1 := not_or.mpr ⟨by simp [h.inTime], by simp [h.exitCode]⟩
      rw [Sandbox.run_of_started box hlimit hspawn, Sandbox.resultOf_eq_ok_iff] at hrun
      obtain ⟨usage, husage, errors, herrors, rfl⟩ := hrun
      rw [Sandbox.errorsOf_of_not_fails hwell] at herrors
      obtain rfl := Except.ok.inj herrors
      exact ExecutionFindings.ofResult_eq_nil rfl (h.within usage husage) h.noOutput hfs

lemma RunsUnnoticed.findings_execute {a : Analyzer} {s : Subject} (h : RunsUnnoticed s.options host) {outcome : Outcome}
    (hrun : ((a.execute s).run host).1 = .ok outcome) : outcome.findings = [] := by
  obtain ⟨limits, hlimits, hrun⟩ := run_bind_eq_ok.mp hrun
  obtain ⟨r, hr, hrun⟩ := run_bind_eq_ok.mp hrun
  obtain ⟨fs, hfs, hrun⟩ := run_bind_eq_ok.mp hrun
  rw [run_lift] at hlimits hr hfs
  obtain rfl := Except.ok.inj hrun
  change fs = []
  unfold Sandbox.execute at hr
  cases hproblem : a.sandbox.problem? (some s.program.code) (some s.program.language) with
  | some problem =>
    rw [hproblem] at hr
    obtain rfl := Except.ok.inj hr
    rw [ExecutionFindings.ofResult_failed (by simp [ExecutionResult.ownErrorTypes])] at hfs
    exact (Except.ok.inj hfs).symm
  | none =>
    rw [hproblem] at hr
    exact h.findings_run hr hfs

end Run

/-- A detector that executes nothing leaves the host as it was but for the log. -/
lemma outcomeOf_sameButLog (a : Analyzer) (s : Subject) {method : Method} (hne : method ≠ .execution) (host : Host) :
    SameButLog host ((a.outcomeOf s method).run host).2 := by
  have hsame := a.attempt_sameButLog s hne host
  rw [run_outcomeOf]
  rcases hrun : (a.attempt s method).run host with ⟨fault | outcome, next⟩
  all_goals rw [hrun] at hsame
  · exact hsame.trans (.logged next _)
  · exact hsame

section Comments

variable {a : Analyzer} {p : Program} {o : Options}

/-- No detector finds anything in comments, however it is called, if a run of them goes unnoticed. -/
lemma findings_outcomeOf_comments (h : OnlyComments p.code) (hrules : a.rules = Rule.catalog)
    (hparses : a.parse p.code = .parses) {method : Method} {host : Host}
    (hexecution : method = .execution → RunsUnnoticed o host) :
    ((a.outcomeOf (a.subject p o) method).run host).1.findings = [] := by
  have houtlined : a.outlined p.code = {} := by
    rw [outlined, Structure.ofSource_comments h, ite_self]
  have hattempt : ∀ outcome next, (a.attempt (a.subject p o) method).run host = (.ok outcome, next) →
      outcome.findings = [] := by
    intro outcome next hrun
    cases hdefect : a.defect (.detector method) with
    | some reason =>
      rw [a.attempt_of_defect _ hdefect] at hrun
      cases hrun
    | none =>
      rw [a.attempt_of_inOrder _ hdefect] at hrun
      cases method with
      | pattern =>
        obtain ⟨_, hpattern, -⟩ := a.run_detectPatterns (a.subject p o) host
        cases hpattern.symm.trans hrun
        change (PatternScan.ofCode a.rules (a.outlined p.code) p.code).findings = []
        rw [hrules, PatternScan.ofCode_comments h]
        rfl
      | static =>
        have hstatic : a.staticOutcome (a.subject p o) = .ok outcome :=
          congrArg Prod.fst ((a.run_detectStatic (a.subject p o) host).symm.trans hrun)
        have hnone : Static.findings (a.parse p.code) (a.outlined p.code) = .ok [] := by
          rw [hparses, houtlined]
          rfl
        have heq : a.staticOutcome (a.subject p o) = .ok { findings := [] } := by
          unfold staticOutcome subject
          rw [hnone]
        rw [heq] at hstatic
        obtain rfl := Except.ok.inj hstatic
        rfl
      | execution =>
        have hdetect : ((a.detectByExecution (a.subject p o)).run host).1 = .ok outcome := congrArg Prod.fst hrun
        unfold detectByExecution at hdetect
        split at hdetect
        · obtain rfl := Except.ok.inj hdetect
          rfl
        · exact (hexecution rfl).findings_execute (mapError_eq_ok.mp hdetect)
  rw [run_outcomeOf]
  rcases hrun : (a.attempt (a.subject p o) method).run host with ⟨fault | outcome, next⟩
  · rfl
  · exact hattempt outcome next hrun

/-- Nor do several, of which the execution comes last: those before it leave the host as it was but for the log. -/
lemma findings_outcomeOfAll_comments (h : OnlyComments p.code) (hrules : a.rules = Rule.catalog)
    (hparses : a.parse p.code = .parses) {methods : List Method} {host : Host}
    (hlast : methods.Pairwise fun method _ => method ≠ .execution)
    (hexecution : .execution ∈ methods → RunsUnnoticed o host) :
    ((a.outcomeOfAll (a.subject p o) methods).run host).1.findings = [] := by
  induction methods generalizing host with
  | nil => rfl
  | cons method rest ih =>
    obtain ⟨hbefore, hrest⟩ := List.pairwise_cons.mp hlast
    rw [run_outcomeOfAll_cons]
    dsimp only
    have hfirst : ((a.outcomeOf (a.subject p o) method).run host).1.findings = [] :=
      findings_outcomeOf_comments h hrules hparses fun hmethod => hexecution (hmethod ▸ List.mem_cons_self)
    have hlater : ((a.outcomeOfAll (a.subject p o) rest).run
        ((a.outcomeOf (a.subject p o) method).run host).2).1.findings = [] := by
      refine ih hrest fun hmem => ?_
      exact (hexecution (List.mem_cons_of_mem method hmem)).sameButLog
        (a.outcomeOf_sameButLog (a.subject p o) (hbefore _ hmem) host)
    rw [Outcome.append, hfirst, hlater]
    rfl

lemma findings_analysisOf_comments (h : OnlyComments p.code) (hrules : a.rules = Rule.catalog)
    (hparses : a.parse p.code = .parses) {host : Host}
    (hexecution : o.enableExecution = false ∨ RunsUnnoticed o host) :
    ((a.analysisOf p o).run host).1.findings = [] := by
  obtain ⟨mid, outcome, r, last, hmid, hall, hrun, hreports, -⟩ := a.run_analysisOf p o host
  have hlast : (a.running p o).Pairwise fun method _ => method ≠ .execution := List.Pairwise.filter _ (by decide)
  have hmidway : .execution ∈ a.running p o → RunsUnnoticed o mid := by
    intro hmem
    rcases hexecution with hdisabled | hunnoticed
    · rw [(execution_mem_methods.mp hmem).1] at hdisabled
      cases hdisabled
    · exact hunnoticed.sameButLog hmid
  have hnone := findings_outcomeOfAll_comments h hrules hparses hlast hmidway
  have hmerge : Finding.merge [] = [] := List.mergeSort_nil
  rw [hall] at hnone
  rw [hrun, hreports.findings, reported, hnone, hmerge]
  rfl

end Comments

/-- Comments go unnoticed, whatever they say: by the rules, by what sees the structure and, their length aside, by the
safety gate. An analysis of a program of comments has no findings, whichever of its parts are enabled or out of order,
unless it runs the program and the child fails or uses too much. -/
theorem comments_go_unnoticed {code : List Char} (h : OnlyComments code) :
    (∀ codeStructure, PatternScan.ofCode Rule.catalog codeStructure code = ⟨[], codeStructure, 1.0, []⟩) ∧
      Structure.ofSource (.ofText code) = {} ∧
      Safety.scan code = Safety.lengthNotes code ∧ (SafetyAssessment.ofCode code).allowExecution = true ∧
      ∀ (a : Analyzer) (p : Program) (language : Option String) (given : Option Options) (host : Host),
        a.rules = Rule.catalog → a.parse code = .parses → a.program (some code) language = .ok p →
        (given.getD a.options).enableExecution = false ∨ RunsUnnoticed (given.getD a.options) host →
        ∃ r last, (a.analyze (some code) language given).run host = (.ok r, last) ∧ r.findings = [] := by
  have hscan : Safety.scan code = Safety.lengthNotes code := Safety.scan_comments h
  refine ⟨PatternScan.ofCode_comments h, Structure.ofSource_comments h, hscan,
    (SafetyAssessment.granted_of_scan_eq hscan).2, fun a p language given host hrules hparses hp hexecution => ?_⟩
  obtain ⟨hcode, -⟩ := problem?_of_program a hp
  cases hcode
  exact ⟨_, _, a.run_analyze hp host, findings_analysisOf_comments h hrules hparses hexecution⟩

/-- Comments that speak of strings that they do not close, of loops and of dangerous calls. -/
def boldComments : List Char :=
  Text.joinLines ["# it's \"\"\" open (".toList, [], "\t#while True: os.system('rm')".toList, "#".toList]

theorem boldComments_go_unnoticed :
    OnlyComments boldComments ∧ Safety.scan boldComments = [] ∧
      RunsUnnoticed {} {} ∧ ∃ r last,
        (({} : Analyzer).analyze (some boldComments) (some "python") none).run {} = (.ok r, last) ∧ r.findings = [] := by
  have hcomments : OnlyComments boldComments := by
    rw [OnlyComments, boldComments, Text.lines_joinLines (by decide) (by decide)]
    decide
  have hwithin : ∀ usage, Usage.ofReport none (Sandbox.elapsedMs {} {}) = .ok usage →
      ExecutionFindings.WithinThresholds usage {} := by
    rintro _ ⟨⟩
    refine ⟨fun h => ?_, by decide +kernel, by decide +kernel⟩
    have hless : Number.lt 100.0 0.0 = false := by decide +kernel
    rw [Except.ok.inj h] at hless
    cases hless
  have hunnoticed : RunsUnnoticed {} {} := ⟨rfl, rfl, hwithin, rfl⟩
  obtain ⟨-, -, hscan, -, hanalysis⟩ := comments_go_unnoticed hcomments
  refine ⟨hcomments, hscan, hunnoticed, ?_⟩
  exact hanalysis {} ⟨boldComments, "python"⟩ (some "python") none {} rfl rfl rfl (.inr hunnoticed)

end Analyzer

end CodeAudit
